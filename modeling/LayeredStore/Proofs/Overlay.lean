import LayeredStore.Chain
import Mathlib.Data.List.Induction

/-!
# `LayeredStore.Proofs.Overlay`: what the layers of a table come to

Laying diffs over the contents of a root, the oldest first, gives a
plain map. Everything that a table answers through its layers is what
this map answers:

* `lookup_eq_get?_overlay`: looking a key up.
* `nextLookup_eq_nextAfter?_overlay`: searching for the next pair, which
  passes over deleted keys and always ends.
* `apply_netOldest`: applying the net diff of the oldest layers to the
  root is laying these layers over it.
* `overlay_take_overlay`: layers that are already in the root change
  nothing when they are laid over it again. This is why a flush that
  stopped halfway is not seen by readers, and why a journal record can
  be carried out twice.

`Chain.ReadsAs` says that a table reads as a map through a view, in
lookups and in walks; `readsAs_iff` says as which one.
-/

set_option autoImplicit false

namespace LayeredStore

namespace OrderedMap

variable {α : Type}

/-- A key stands once in a map, so searching from either end finds the
same pair. -/
theorem find?_reverse_toList (map : OrderedMap α) (key : Bytes) :
    map.toList.reverse.find? (·.1 = key) = (map.get? key).map (key, ·) := by
  cases h : map.get? key with
  | none =>
    rw [Option.map_none, List.find?_eq_none]
    intro p hp hk
    have hmem := List.mem_reverse.mp hp
    have hget := (map.mem_toList_iff p.1 p.2).mp hmem
    rw [of_decide_eq_true hk, h] at hget
    cases hget
  | some value =>
    have hmem := (map.mem_toList_iff key value).mpr h
    cases hf : map.toList.reverse.find? (·.1 = key) with
    | none =>
      have hnone := List.find?_eq_none.mp hf (key, value) (List.mem_reverse.mpr hmem)
      exact absurd (decide_eq_true rfl) hnone
    | some p =>
      have hk : p.1 = key := of_decide_eq_true (List.find?_some hf :)
      have hp := List.mem_reverse.mp (List.mem_of_find?_eq_some hf)
      have hget := (map.mem_toList_iff p.1 p.2).mp hp
      rw [hk, h] at hget
      obtain ⟨k, v⟩ := p
      cases hk
      cases hget
      rfl

/-- Two maps that have the same pairs above two starting points have the
same next pair. -/
theorem nextAfter?_congr {map other : OrderedMap α} {after after' : Option Bytes}
    (h : ∀ key value, (map.get? key = some value ∧ above after key = true) ↔
      (other.get? key = some value ∧ above after' key = true)) :
    map.nextAfter? after = other.nextAfter? after' := by
  cases hn : other.nextAfter? after' with
  | none =>
    rw [nextAfter?_eq_none_iff] at hn ⊢
    intro key value hget
    by_contra hab
    obtain ⟨hget', hab'⟩ := (h key value).mp ⟨hget, by simpa using hab⟩
    rw [hn key value hget'] at hab'
    cases hab'
  | some p =>
    obtain ⟨key, value⟩ := p
    rw [nextAfter?_eq_some_iff] at hn ⊢
    obtain ⟨hget, hab, hleast⟩ := hn
    obtain ⟨hget', hab'⟩ := (h key value).mpr ⟨hget, hab⟩
    refine ⟨hget', hab', fun k hk hsome => ?_⟩
    obtain ⟨v, hv⟩ := Option.isSome_iff_exists.mp hsome
    obtain ⟨hget'', hab''⟩ := (h k v).mp ⟨hv, hk⟩
    exact hleast k hab'' (by rw [hget'']; rfl)

/-- In a walk, the pair after those that were passed is the first of
those that are left. -/
theorem nextAfter?_of_append {map : OrderedMap α} {before rest : List (Bytes × α)}
    (h : map.toList = before ++ rest) :
    map.nextAfter? (before.getLast?.map (·.1)) = rest.head? := by
  -- The pairs are sorted: those passed do not lie above the last of them, and
  -- all that are left do.
  have hsorted := map.sorted
  rw [Pairs.Sorted, h, List.pairwise_append] at hsorted
  obtain ⟨hbefore, -, hbelow⟩ := hsorted
  have hpassed : before.find? (fun pair => above (before.getLast?.map (·.1)) pair.1) = none := by
    rw [List.find?_eq_none]
    intro pair hmem
    obtain ⟨older, last, rfl⟩ : ∃ older last, before = older ++ [last] :=
      ⟨_, _, (List.dropLast_concat_getLast (List.ne_nil_of_mem hmem)).symm⟩
    simp only [List.getLast?_concat, Option.map_some, above, decide_eq_true_eq]
    rcases List.mem_append.mp hmem with hmem | hmem
    · exact List.lt_asymm ((List.pairwise_append.mp hbefore).2.2 pair hmem last (by simp))
    · rw [List.mem_singleton.mp hmem]
      exact List.lt_irrefl _
  rw [nextAfter?, h, List.find?_append, hpassed, Option.none_or]
  cases rest with
  | nil => rfl
  | cons next rest =>
    refine List.find?_cons_of_pos ((above_eq_true_iff _ _).mpr fun start hstart => ?_)
    obtain ⟨last, hlast, rfl⟩ := Option.map_eq_some_iff.mp hstart
    exact hbelow last (List.mem_of_getLast? hlast) next List.mem_cons_self

/-- The keys of a map are distinct. -/
theorem nodup_keys (map : OrderedMap α) : (map.toList.map (·.1)).Nodup := by
  rw [List.Nodup, List.pairwise_map]
  refine List.Pairwise.imp (fun {a b} hlt heq => ?_) map.sorted
  rw [heq] at hlt
  exact List.lt_irrefl _ hlt

end OrderedMap

namespace Contents

/-- The map that diffs, the oldest first, make of the contents of a
root. -/
def overlay (root : Contents) (diffs : List Diff) : Contents :=
  diffs.foldl (fun contents diff => contents.apply diff.toList) root

@[simp] theorem overlay_nil (root : Contents) : root.overlay [] = root := rfl

@[simp] theorem overlay_cons (root : Contents) (diff : Diff) (diffs : List Diff) :
    root.overlay (diff :: diffs) = Contents.overlay (root.apply diff.toList) diffs := rfl

theorem overlay_append (root : Contents) (older newer : List Diff) :
    root.overlay (older ++ newer) = (root.overlay older).overlay newer :=
  List.foldl_append

/-- A diff that says nothing changes nothing. -/
@[simp] theorem apply_empty (root : Contents) :
    root.apply (OrderedMap.empty : Diff).toList = root :=
  rfl

theorem get?_apply_toList (root : Contents) (diff : Diff) (key : Bytes) :
    (root.apply diff.toList).get? key =
      match diff.get? key with
      | some entry => entry.value?
      | none => root.get? key := by
  rw [get?_apply, OrderedMap.find?_reverse_toList]
  cases diff.get? key <;> rfl

/-- A key reads as the newest diff that knows it says, and as in the
root if none does. -/
theorem get?_overlay (root : Contents) (diffs : List Diff) (key : Bytes) :
    (root.overlay diffs).get? key =
      match diffs.reverse.findSome? (·.get? key) with
      | some entry => entry.value?
      | none => root.get? key := by
  induction diffs generalizing root with
  | nil => rfl
  | cons diff diffs ih =>
    rw [overlay_cons, ih, List.reverse_cons, List.findSome?_append]
    cases diffs.reverse.findSome? (·.get? key) with
    | some entry => rfl
    | none =>
      rw [get?_apply_toList]
      cases h : diff.get? key <;> simp [h]

/-- Diffs that are already in the root can be laid over it again, below
newer ones, without a change. -/
theorem overlay_take_overlay (root : Contents) (diffs : List Diff) {k n : Nat} (h : k ≤ n) :
    (root.overlay (diffs.take k)).overlay (diffs.take n) = root.overlay (diffs.take n) := by
  apply OrderedMap.ext_get?
  intro key
  rw [get?_overlay, get?_overlay root (diffs.take n)]
  cases hn : (diffs.take n).reverse.findSome? (·.get? key) with
  | some entry => rfl
  | none =>
    -- What none of the first `n` diffs knows, none of the first `k` does,
    -- so the key reads as in the root on both sides.
    have hk : (diffs.take k).reverse.findSome? (·.get? key) = none := by
      rw [List.findSome?_eq_none_iff] at hn ⊢
      intro diff hd
      refine hn diff (List.mem_reverse.mpr ?_)
      have htake : diffs.take k = (diffs.take n).take k := by
        rw [List.take_take, Nat.min_eq_left h]
      exact List.mem_of_mem_take (htake ▸ List.mem_reverse.mp hd)
    simp only [get?_overlay, hk]

/-- Empty diffs make nothing of a root. -/
theorem overlay_eq_self {root : Contents} {diffs : List Diff}
    (h : ∀ diff ∈ diffs, diff = .empty) : root.overlay diffs = root := by
  induction diffs with
  | nil => rfl
  | cons diff diffs ih =>
    rw [overlay_cons, h diff List.mem_cons_self, apply_empty]
    exact ih fun d hd => h d (List.mem_cons_of_mem _ hd)

/-- A batch that was carried out can be carried out again without a
change. -/
theorem apply_apply (root : Contents) (batch : Batch) :
    (root.apply batch).apply batch = root.apply batch := by
  apply OrderedMap.ext_get?
  intro key
  rw [get?_apply, get?_apply]
  cases batch.reverse.find? (·.1 = key) <;> rfl

end Contents

/-! ### Lookups and walks -/

namespace Chain

/-- The diffs of layers, in their order. -/
abbrev diffs (layers : List Layer) : List Diff := layers.map (·.diff)

/-- What a table's layers say of a key, the newest first, is what its
diffs do. -/
theorem topmost?_eq (layers : List Layer) (key : Bytes) :
    topmost? layers key = (diffs layers).reverse.findSome? (·.get? key) := by
  rw [topmost?, diffs, ← List.map_reverse, List.findSome?_map]
  rfl

theorem lookup_eq_get?_overlay (root : Contents) (layers : List Layer) (key : Bytes) :
    lookup root layers key = (root.overlay (diffs layers)).get? key := by
  have hoverlay := Contents.get?_overlay root (diffs layers) key
  rw [← topmost?_eq] at hoverlay
  exact hoverlay.symm

/-- `least` is the least of the keys that are `Known` and lie above the
starting point. -/
def LeastAbove (Known : Bytes → Prop) (after least : Option Bytes) : Prop :=
  match least with
  | none => ∀ key, Known key → OrderedMap.above after key = false
  | some key => Known key ∧ OrderedMap.above after key = true ∧
      ∀ other, Known other → OrderedMap.above after other = true → ¬ other < key

theorem leastAbove_nextAfter? {α : Type} (map : OrderedMap α) (after : Option Bytes) :
    LeastAbove (fun key => (map.get? key).isSome) after ((map.nextAfter? after).map (·.1)) := by
  cases h : map.nextAfter? after with
  | none =>
    intro key hkey
    obtain ⟨value, hv⟩ := Option.isSome_iff_exists.mp hkey
    exact (map.nextAfter?_eq_none_iff after).mp h key value hv
  | some p =>
    obtain ⟨hget, hab, hleast⟩ := (map.nextAfter?_eq_some_iff after p.1 p.2).mp h
    exact ⟨Option.isSome_iff_exists.mpr ⟨p.2, hget⟩, hab, fun other hk ho => hleast other ho hk⟩

theorem leastAbove_lesser {Known Known' : Bytes → Prop} {after a b : Option Bytes}
    (ha : LeastAbove Known after a) (hb : LeastAbove Known' after b) :
    LeastAbove (fun key => Known key ∨ Known' key) after (lesser a b) := by
  cases a with
  | none =>
    cases b with
    | none => exact fun key hk => hk.elim (ha key) (hb key)
    | some y =>
      refine ⟨.inr hb.1, hb.2.1, fun other hk ho => ?_⟩
      rcases hk with hk | hk
      · rw [ha other hk] at ho
        cases ho
      · exact hb.2.2 other hk ho
  | some x =>
    cases b with
    | none =>
      refine ⟨.inl ha.1, ha.2.1, fun other hk ho => ?_⟩
      rcases hk with hk | hk
      · exact ha.2.2 other hk ho
      · rw [hb other hk] at ho
        cases ho
    | some y =>
      -- The lesser of the two lies below the other, and with that below
      -- all keys that lie above the other.
      obtain ⟨hx, hxa, hxl⟩ := ha
      obtain ⟨hy, hya, hyl⟩ := hb
      rw [lesser]
      split
      · rename_i hlt
        refine ⟨.inr hy, hya, fun other hk ho hlt' => ?_⟩
        rcases hk with hk | hk
        · exact hxl other hk ho (List.lt_trans hlt' hlt)
        · exact hyl other hk ho hlt'
      · rename_i hge
        refine ⟨.inl hx, hxa, fun other hk ho hlt' => ?_⟩
        rcases hk with hk | hk
        · exact hxl other hk ho hlt'
        · exact hyl other hk ho (Std.lt_of_lt_of_le hlt' (List.not_lt.mp hge))

/-- Whether the root or one of the layers knows a key, deleted or
not. -/
def Known (root : Contents) (layers : List Layer) (key : Bytes) : Prop :=
  (root.get? key).isSome ∨ ∃ layer ∈ layers, (layer.get? key).isSome

theorem leastAbove_nextKey? (root : Contents) (layers : List Layer) (after : Option Bytes) :
    LeastAbove (Known root layers) after (nextKey? root layers after) := by
  -- The fold has seen the layers before, so the induction is on the last one.
  induction layers using List.reverseRecOn with
  | nil =>
    have hknown : Known root [] = fun key => (root.get? key).isSome = true := by
      funext key
      simp [Known]
    rw [hknown]
    exact leastAbove_nextAfter? root after
  | append_singleton layers layer ih =>
    have h := leastAbove_lesser ih (leastAbove_nextAfter? layer.diff after)
    have hknown : Known root (layers ++ [layer]) =
        fun key => Known root layers key ∨ (layer.diff.get? key).isSome := by
      funext key
      simp only [Known, List.mem_append, List.mem_singleton, Layer.get?, eq_iff_iff]
      constructor
      · rintro (hr | ⟨l, hl | rfl, hs⟩)
        · exact .inl (.inl hr)
        · exact .inl (.inr ⟨l, hl, hs⟩)
        · exact .inr hs
      · rintro ((hr | ⟨l, hl, hs⟩) | hs)
        · exact .inl hr
        · exact .inr ⟨l, .inl hl, hs⟩
        · exact .inr ⟨layer, .inr rfl, hs⟩
    rw [hknown, nextKey?, List.foldl_append]
    exact h

/-- The keys that the root and the layers know, with repetitions. -/
def knownKeys (root : Contents) (layers : List Layer) : List Bytes :=
  root.toList.map (·.1) ++ layers.flatMap (·.diff.toList.map (·.1))

theorem mem_knownKeys_iff (root : Contents) (layers : List Layer) (key : Bytes) :
    key ∈ knownKeys root layers ↔ Known root layers key := by
  have hmap : ∀ {α : Type} (map : OrderedMap α),
      key ∈ map.toList.map (·.1) ↔ (map.get? key).isSome := by
    intro α map
    rw [List.mem_map, Option.isSome_iff_exists]
    constructor
    · rintro ⟨p, hp, rfl⟩
      exact ⟨p.2, (map.mem_toList_iff _ _).mp hp⟩
    · rintro ⟨value, hv⟩
      exact ⟨(key, value), (map.mem_toList_iff _ _).mpr hv, rfl⟩
  simp only [knownKeys, List.mem_append, List.mem_flatMap, hmap, Known, Layer.get?]

theorem length_knownKeys (root : Contents) (layers : List Layer) :
    (knownKeys root layers).length = keyCount root layers := by
  simp [knownKeys, keyCount, OrderedMap.size, List.length_flatMap]

/-- What the map holds, the root or a layer knows. -/
theorem known_of_get?_overlay {root : Contents} {layers : List Layer} {key value : Bytes}
    (h : (root.overlay (diffs layers)).get? key = some value) : Known root layers key := by
  rw [Contents.get?_overlay] at h
  cases hf : (diffs layers).reverse.findSome? (·.get? key) with
  | none =>
    simp only [hf] at h
    exact .inl (by rw [h]; rfl)
  | some entry =>
    obtain ⟨diff, hd, hget⟩ := List.exists_of_findSome?_eq_some hf
    obtain ⟨layer, hl, rfl⟩ := List.mem_map.mp (List.mem_reverse.mp hd)
    exact .inr ⟨layer, hl, by rw [Layer.get?, hget]; rfl⟩

/-- The map has no more keys than the root and the layers know. -/
theorem length_toList_overlay_le {root : Contents} {layers known : List Layer}
    (h : layers ⊆ known) :
    (root.overlay (diffs layers)).toList.length ≤ keyCount root known := by
  have hknown : (root.overlay (diffs layers)).toList.map (·.1) ⊆ knownKeys root known := by
    intro key hkey
    obtain ⟨pair, hmem, rfl⟩ := List.mem_map.mp hkey
    rw [mem_knownKeys_iff]
    have hget := (OrderedMap.mem_toList_iff _ _ _).mp hmem
    rcases known_of_get?_overlay hget with hroot | ⟨layer, hlayer, hsome⟩
    · exact .inl hroot
    · exact .inr ⟨layer, h hlayer, hsome⟩
  have hle := (OrderedMap.nodup_keys _).length_le_of_subset hknown
  rw [length_knownKeys, List.length_map] at hle
  exact hle

/-- A stronger condition counts fewer items, if it fails for one that the
weaker one counts. -/
private theorem countP_lt_countP {α : Type} {p q : α → Bool} {items : List α} {a : α}
    (hpq : ∀ b ∈ items, p b = true → q b = true) (ha : a ∈ items) (hq : q a = true)
    (hp : p a = false) : items.countP p < items.countP q := by
  obtain ⟨before, rest, rfl⟩ := List.append_of_mem ha
  have hbefore := List.countP_mono_left (l := before) fun b hb =>
    hpq b (List.mem_append_left _ hb)
  have hrest := List.countP_mono_left (l := rest) fun b hb =>
    hpq b (List.mem_append_right _ (List.mem_cons_of_mem _ hb))
  simp only [List.countP_append, List.countP_cons, hq, hp]
  simp only [Bool.false_eq_true, if_false, if_true]
  omega

/-- Where no known key lies ahead, the map has no pair there. -/
theorem nextAfter?_overlay_of_ended {root : Contents} {layers : List Layer} {after : Option Bytes}
    (h : nextKey? root layers after = none) :
    (root.overlay (diffs layers)).nextAfter? after = none := by
  have hleast := leastAbove_nextKey? root layers after
  rw [h] at hleast
  rw [OrderedMap.nextAfter?_eq_none_iff]
  exact fun key value hget => hleast key (known_of_get?_overlay hget)

/-- If the least known key ahead can be read, it is that of the next
pair. -/
theorem nextAfter?_overlay_of_found {root : Contents} {layers : List Layer} {after : Option Bytes}
    {key value : Bytes} (hkey : nextKey? root layers after = some key)
    (hvalue : lookup root layers key = some value) :
    (root.overlay (diffs layers)).nextAfter? after = some (key, value) := by
  have hleast := leastAbove_nextKey? root layers after
  rw [hkey] at hleast
  rw [lookup_eq_get?_overlay] at hvalue
  rw [OrderedMap.nextAfter?_eq_some_iff]
  refine ⟨hvalue, hleast.2.1, fun other ho hs => ?_⟩
  obtain ⟨v, hv⟩ := Option.isSome_iff_exists.mp hs
  exact hleast.2.2 other (known_of_get?_overlay hv) ho

/-- What lies above a key that lies ahead lies ahead. -/
theorem above_of_above {after : Option Bytes} {key other : Bytes}
    (h : OrderedMap.above after key = true) (ho : OrderedMap.above (some key) other = true) :
    OrderedMap.above after other = true := by
  rw [OrderedMap.above_eq_true_iff] at h ho ⊢
  exact fun start hs => List.lt_trans (h start hs) (ho key rfl)

/-- If the least known key ahead is deleted, no pair lies between the
starting point and that key. -/
theorem nextAfter?_overlay_of_passed {root : Contents} {layers : List Layer} {after : Option Bytes}
    {key : Bytes} (hkey : nextKey? root layers after = some key)
    (hdeleted : lookup root layers key = none) :
    (root.overlay (diffs layers)).nextAfter? after =
      (root.overlay (diffs layers)).nextAfter? (some key) := by
  have hleast := leastAbove_nextKey? root layers after
  rw [hkey] at hleast
  obtain ⟨-, hab, hmin⟩ := hleast
  rw [lookup_eq_get?_overlay] at hdeleted
  -- No known key lies between the two starting points, and the one that is
  -- passed has no value.
  apply OrderedMap.nextAfter?_congr
  intro other value
  constructor
  · rintro ⟨hget, ho⟩
    refine ⟨hget, ?_⟩
    have hne : key ≠ other := by
      rintro rfl
      rw [hdeleted] at hget
      cases hget
    have hle := List.not_lt.mp (hmin other (known_of_get?_overlay hget) ho)
    simpa [OrderedMap.above] using Std.lt_of_le_of_ne hle hne
  · rintro ⟨hget, ho⟩
    exact ⟨hget, above_of_above hab ho⟩

/-- Fewer known keys lie above the least one ahead than above the
starting point. -/
theorem countP_above_nextKey? {root : Contents} {layers : List Layer} {after : Option Bytes}
    {key : Bytes} (hkey : nextKey? root layers after = some key) :
    (knownKeys root layers).countP (OrderedMap.above (some key)) <
      (knownKeys root layers).countP (OrderedMap.above after) := by
  have hleast := leastAbove_nextKey? root layers after
  rw [hkey] at hleast
  refine countP_lt_countP (fun other _ => above_of_above hleast.2.1)
    ((mem_knownKeys_iff root layers key).mpr hleast.1) hleast.2.1 ?_
  exact decide_eq_false (List.lt_irrefl key)

/-- The search for the next pair finds that of the map, if it may try
every known key that lies above its starting point. -/
theorem nextLookup_eq_nextAfter?_overlay (root : Contents) (layers : List Layer) (fuel : Nat)
    (after : Option Bytes)
    (h : (knownKeys root layers).countP (OrderedMap.above after) < fuel) :
    nextLookup root layers fuel after = (root.overlay (diffs layers)).nextAfter? after := by
  -- Each key that the search passes over is one that it will not meet
  -- again, so the number of known keys ahead bounds the steps.
  induction fuel generalizing after with
  | zero => omega
  | succ fuel ih =>
    rw [nextLookup]
    cases hkey : nextKey? root layers after with
    | none => exact (nextAfter?_overlay_of_ended hkey).symm
    | some key =>
      cases hvalue : lookup root layers key with
      | some value =>
        simp only [hvalue]
        exact (nextAfter?_overlay_of_found hkey hvalue).symm
      | none =>
        have hfewer := countP_above_nextKey? hkey
        simp only [hvalue]
        rw [ih (some key) (by omega), nextAfter?_overlay_of_passed hkey hvalue]

/-- Through the view, the table answers every lookup and every step of a
walk as the map does. -/
def ReadsAs (chain : Chain) (root : Contents) (view : View) (map : Contents) : Prop :=
  (∀ key, chain.get? root view key = map.get? key) ∧
    ∀ after, chain.nextVisible? root view after = map.nextAfter? after

/-- A table reads as the layers of the view laid over the root, and as
nothing else. -/
theorem readsAs_iff (chain : Chain) (root : Contents) (view : View) (map : Contents) :
    chain.ReadsAs root view map ↔ map = root.overlay (diffs (chain.visible view)) := by
  constructor
  · rintro ⟨hget, -⟩
    apply OrderedMap.ext_get?
    intro key
    rw [← hget, get?, lookup_eq_get?_overlay]
  · rintro rfl
    refine ⟨fun key => lookup_eq_get?_overlay _ _ _, fun after => ?_⟩
    apply nextLookup_eq_nextAfter?_overlay
    have h := List.countP_le_length (p := OrderedMap.above after)
      (l := knownKeys root (chain.visible view))
    rw [length_knownKeys] at h
    omega

/-! ### The net diff -/

theorem get?_diff_netOldest (chain : Chain) (count : Nat) (key : Bytes) :
    (chain.netOldest count).diff.get? key =
      (diffs (chain.layers.take count)).reverse.findSome? (·.get? key) := by
  -- The fold is over a net layer that has taken in the older ones already.
  have habsorb : ∀ (layers : List Layer) (net : Layer),
      (layers.foldl Layer.absorb net).diff.get? key =
        ((diffs layers).reverse.findSome? (·.get? key)).or (net.diff.get? key) := by
    intro layers
    induction layers with
    | nil => intro net; rfl
    | cons layer layers ih =>
      intro net
      rw [List.foldl_cons, ih, Layer.absorb, OrderedMap.get?_insertAll,
        OrderedMap.find?_reverse_toList]
      simp only [diffs, List.map_cons, List.reverse_cons, List.findSome?_append, Option.or_assoc]
      cases h : layer.diff.get? key <;> simp [h]
  rw [netOldest, habsorb, Layer.new, OrderedMap.get?_empty, Option.or_none]

/-- Applying the net diff of the oldest layers is laying these layers
over the root one by one. -/
theorem apply_netOldest (chain : Chain) (count : Nat) (root : Contents) :
    root.apply (chain.netOldest count).diff.toList =
      root.overlay (diffs (chain.layers.take count)) := by
  apply OrderedMap.ext_get?
  intro key
  rw [Contents.get?_apply_toList, Contents.get?_overlay, get?_diff_netOldest]

end Chain

end LayeredStore
