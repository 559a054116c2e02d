import LayeredStore.OrderedMap.Basic

/-!
# `LayeredStore.OrderedMap.Lemmas`: maps through their lookups

A map is known by its lookups: two maps that answer alike are equal
(`ext_get?`). So each operation is described by what it does to them.

* `get?_insert` and `get?_erase` for the two changes.
* `mem_toList_iff`: the pairs of a map are its lookups.
* `nextAfter?_eq_some_iff` and `nextAfter?_eq_none_iff`: the next pair
  is that of the least key above the starting point.
* `get?_insertAll`: of the pairs inserted for a key the last one wins.
-/

set_option autoImplicit false

namespace LayeredStore

variable {α : Type}

namespace Pairs

/-- A key above all others is looked up in the rest in vain. -/
theorem get?_eq_none_of_lt {key : Bytes} {pairs : List (Bytes × α)}
    (h : ∀ p ∈ pairs, key < p.1) : get? key pairs = none := by
  induction pairs with
  | nil => rfl
  | cons q rest ih =>
    have hne : q.1 ≠ key := fun e => List.lt_irrefl key (e ▸ h q List.mem_cons_self)
    rw [get?, if_neg hne]
    exact ih fun p hp => h p (List.mem_cons_of_mem _ hp)

/-- In a sorted list a lookup finds exactly the pairs. -/
theorem get?_eq_some_iff {key : Bytes} {value : α} {pairs : List (Bytes × α)}
    (h : Sorted pairs) : get? key pairs = some value ↔ (key, value) ∈ pairs := by
  induction pairs with
  | nil => simp [get?]
  | cons q rest ih =>
    obtain ⟨k, v⟩ := q
    obtain ⟨hk, hrest⟩ := List.pairwise_cons.1 h
    rw [get?]
    split
    · rename_i heq
      subst heq
      constructor
      · intro hv
        rw [Option.some.inj hv]
        exact List.mem_cons_self
      · intro hmem
        rcases List.mem_cons.1 hmem with he | hmem
        · rw [(Prod.mk.inj he).2]
        · exact absurd (hk _ hmem) (List.lt_irrefl k)
    · rename_i hne
      rw [ih hrest]
      exact ⟨List.mem_cons_of_mem _, fun hmem => (List.mem_cons.1 hmem).elim
        (fun he => absurd (Prod.mk.inj he).1.symm hne) id⟩

/-- Inserting changes the lookup of its own key alone. -/
theorem get?_insert (key : Bytes) (value : α) (other : Bytes) (pairs : List (Bytes × α)) :
    get? other (insert key value pairs) = if key = other then some value else get? other pairs := by
  induction pairs with
  | nil => rfl
  | cons q rest ih =>
    obtain ⟨k, v⟩ := q
    rw [insert]
    split
    · rw [get?]
    · split
      · rename_i hk
        subst hk
        rw [get?, get?]
        split <;> rfl
      · rename_i hk
        rw [get?, get?, ih]
        by_cases hko : k = other
        · rw [if_pos hko, if_pos hko, if_neg (fun e => hk (hko.trans e.symm))]
        · rw [if_neg hko, if_neg hko]

/-- Erasing changes the lookup of its own key alone. -/
theorem get?_erase (key other : Bytes) {pairs : List (Bytes × α)} (h : Sorted pairs) :
    get? other (erase key pairs) = if key = other then none else get? other pairs := by
  induction pairs with
  | nil => simp [erase, get?]
  | cons q rest ih =>
    obtain ⟨k, v⟩ := q
    obtain ⟨hk, hrest⟩ := List.pairwise_cons.1 h
    rw [erase]
    split
    · rename_i heq
      subst heq
      by_cases hko : k = other
      · subst hko
        rw [if_pos rfl]
        exact get?_eq_none_of_lt hk
      · rw [if_neg hko, get?, if_neg hko]
    · rename_i hne
      rw [get?, get?, ih hrest]
      by_cases hko : k = other
      · rw [if_pos hko, if_pos hko, if_neg (fun e => hne (hko.trans e.symm))]
      · rw [if_neg hko, if_neg hko]

/-- Sorted lists with the same members are equal. -/
theorem eq_of_mem_iff {l₁ l₂ : List (Bytes × α)} (h₁ : Sorted l₁) (h₂ : Sorted l₂)
    (h : ∀ p, p ∈ l₁ ↔ p ∈ l₂) : l₁ = l₂ := by
  induction l₁ generalizing l₂ with
  | nil =>
    cases l₂ with
    | nil => rfl
    | cons q rest => exact absurd ((h q).2 List.mem_cons_self) List.not_mem_nil
  | cons p l₁ ih =>
    cases l₂ with
    | nil => exact absurd ((h p).1 List.mem_cons_self) List.not_mem_nil
    | cons q l₂ =>
      obtain ⟨hp, hs₁⟩ := List.pairwise_cons.1 h₁
      obtain ⟨hq, hs₂⟩ := List.pairwise_cons.1 h₂
      have hpq : p = q := by
        rcases List.mem_cons.1 ((h p).1 List.mem_cons_self) with he | hmem
        · exact he
        · rcases List.mem_cons.1 ((h q).2 List.mem_cons_self) with he | hmem'
          · exact he.symm
          · exact absurd (List.lt_trans (hq p hmem) (hp q hmem')) (List.lt_irrefl _)
      subst hpq
      refine congrArg (p :: ·) (ih hs₁ hs₂ fun r => ⟨fun hr => ?_, fun hr => ?_⟩)
      · rcases List.mem_cons.1 ((h r).1 (List.mem_cons_of_mem _ hr)) with he | hmem
        · exact absurd (he ▸ hp r hr) (List.lt_irrefl _)
        · exact hmem
      · rcases List.mem_cons.1 ((h r).2 (List.mem_cons_of_mem _ hr)) with he | hmem
        · exact absurd (he ▸ hq r hr) (List.lt_irrefl _)
        · exact hmem

end Pairs

namespace OrderedMap

@[simp] theorem get?_empty (key : Bytes) : (empty : OrderedMap α).get? key = none := rfl

/-- Inserting changes the lookup of its own key alone. -/
theorem get?_insert (map : OrderedMap α) (key : Bytes) (value : α) (other : Bytes) :
    (map.insert key value).get? other = if key = other then some value else map.get? other :=
  Pairs.get?_insert key value other map.toList

/-- Erasing changes the lookup of its own key alone. -/
theorem get?_erase (map : OrderedMap α) (key other : Bytes) :
    (map.erase key).get? other = if key = other then none else map.get? other :=
  Pairs.get?_erase key other map.sorted

/-- The pairs of a map are its lookups. -/
theorem mem_toList_iff (map : OrderedMap α) (key : Bytes) (value : α) :
    (key, value) ∈ map.toList ↔ map.get? key = some value :=
  (Pairs.get?_eq_some_iff map.sorted).symm

/-- Maps that answer every lookup alike are equal. -/
theorem ext_get? {map other : OrderedMap α} (h : ∀ key, map.get? key = other.get? key) :
    map = other := by
  apply OrderedMap.ext
  refine Pairs.eq_of_mem_iff map.sorted other.sorted fun p => ?_
  rw [mem_toList_iff map p.1 p.2, mem_toList_iff other p.1 p.2, h]

theorem erase_erase (map : OrderedMap α) (key : Bytes) :
    (map.erase key).erase key = map.erase key := by
  refine ext_get? fun other => ?_
  rw [get?_erase]
  split
  · rename_i hkey
    rw [hkey, get?_erase, if_pos rfl]
  · rfl

/-- Whether a key lies above the starting point, in words. -/
theorem above_eq_true_iff (after : Option Bytes) (key : Bytes) :
    above after key = true ↔ ∀ start, after = some start → start < key := by
  cases after with
  | none => simp [above]
  | some start => simp [above]

/-- There is no next pair exactly when the map has no key above the
starting point. -/
theorem nextAfter?_eq_none_iff (map : OrderedMap α) (after : Option Bytes) :
    map.nextAfter? after = none ↔
      ∀ key value, map.get? key = some value → above after key = false := by
  rw [nextAfter?, List.find?_eq_none]
  constructor
  · intro h key value hget
    exact Bool.eq_false_iff.2 (h (key, value) ((map.mem_toList_iff key value).2 hget))
  · intro h p hp
    rw [h p.1 p.2 ((map.mem_toList_iff p.1 p.2).1 hp)]
    exact Bool.false_ne_true

/-- The next pair is that of the least key above the starting point. -/
theorem nextAfter?_eq_some_iff (map : OrderedMap α) (after : Option Bytes) (key : Bytes)
    (value : α) :
    map.nextAfter? after = some (key, value) ↔
      map.get? key = some value ∧ above after key = true ∧
        ∀ other, above after other = true → (map.get? other).isSome → ¬ other < key := by
  obtain ⟨pairs, hsorted⟩ := map
  show pairs.find? (fun pair => above after pair.1) = some (key, value) ↔
    Pairs.get? key pairs = some value ∧ above after key = true ∧
      ∀ other, above after other = true → (Pairs.get? other pairs).isSome → ¬ other < key
  induction pairs with
  | nil => simp [Pairs.get?]
  | cons q rest ih =>
    obtain ⟨k, v⟩ := q
    obtain ⟨hk, hrest⟩ := List.pairwise_cons.1 hsorted
    by_cases hab : above after k = true
    · rw [show ((k, v) :: rest).find? (fun pair => above after pair.1) = some (k, v) from
        List.find?_cons_of_pos (p := fun pair : Bytes × α => above after pair.1) hab]
      constructor
      · intro he
        obtain ⟨rfl, rfl⟩ := Prod.mk.inj (Option.some.inj he)
        refine ⟨by rw [Pairs.get?, if_pos rfl], hab, fun other _ hsome hlt => ?_⟩
        obtain ⟨u, hu⟩ := Option.isSome_iff_exists.1 hsome
        rcases List.mem_cons.1 ((Pairs.get?_eq_some_iff hsorted).1 hu) with he | hmem
        · exact List.lt_irrefl _ ((Prod.mk.inj he).1 ▸ hlt)
        · exact List.lt_irrefl _ (List.lt_trans hlt (hk _ hmem))
      · rintro ⟨hget, _, hleast⟩
        rcases List.mem_cons.1 ((Pairs.get?_eq_some_iff hsorted).1 hget) with he | hmem
        · rw [he]
        · refine absurd (hk _ hmem) (hleast k hab ?_)
          rw [Pairs.get?, if_pos rfl]
          rfl
    · rw [show ((k, v) :: rest).find? (fun pair => above after pair.1) = rest.find? _ from
        List.find?_cons_of_neg (p := fun pair : Bytes × α => above after pair.1) hab, ih hrest]
      have hget : ∀ other, above after other = true →
          Pairs.get? other ((k, v) :: rest) = Pairs.get? other rest := by
        intro other hother
        rw [Pairs.get?, if_neg]
        intro he
        exact hab (he ▸ hother)
      constructor
      · rintro ⟨h₁, h₂, h₃⟩
        exact ⟨(hget key h₂).trans h₁, h₂, fun other ho hs => h₃ other ho (hget other ho ▸ hs)⟩
      · rintro ⟨h₁, h₂, h₃⟩
        exact ⟨(hget key h₂).symm.trans h₁, h₂,
          fun other ho hs => h₃ other ho ((hget other ho).symm ▸ hs)⟩

/-- Of the pairs inserted for a key the last one wins. -/
theorem get?_insertAll (map : OrderedMap α) (pairs : List (Bytes × α)) (key : Bytes) :
    (map.insertAll pairs).get? key =
      ((pairs.reverse.find? (·.1 = key)).map (·.2)).or (map.get? key) := by
  induction pairs generalizing map with
  | nil => rfl
  | cons p rest ih =>
    rw [insertAll, List.foldl_cons]
    have h := ih (map.insert p.1 p.2)
    rw [insertAll] at h
    rw [h, get?_insert, List.reverse_cons, List.find?_append]
    cases rest.reverse.find? (·.1 = key) with
    | some q => rfl
    | none =>
      by_cases hk : p.1 = key
      · simp [hk]
      · simp [hk]

end OrderedMap

end LayeredStore
