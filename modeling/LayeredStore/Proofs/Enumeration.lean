import LayeredStore.Proofs.Overlay

/-!
# `LayeredStore.Proofs.Enumeration`: what the search for the next pair finds

A table holds its pairs in several sorted sources: its root and the
layers that the view shows. Each of them proposes its least key above a
starting point, the least proposal is looked up from the top, and if it
is deleted there the search goes on from it. Nothing bounds how many
deleted keys are passed over, so that the search ends, and that no pair
is lost on the way, has to be shown.

`Chain.Search` is that search, one constructor for each way a turn can
end, and `Chain.Walk` is the search repeated from each pair found. No
bound on the number of turns stands in them. The invariant of the
search is that no pair of the map lies between where it started and
where it stands (`nextAfter?_overlay_of_passed`), and what grows smaller
is the number of known keys ahead (`countP_above_nextKey?`).

* `search_iff`: a search ends, and with the next pair of the map.
* `walk_iff`: repeating it from the start finds the pairs of the map, in
  their order.
* `reads_overlay`: what a table answers through a view.
-/

set_option autoImplicit false

namespace LayeredStore.Chain

open OrderedMap (above)

/-- The map that a view shows of a table: the layers of the view laid
over the root, the oldest first, where a value sets its key and a
tombstone removes it. -/
def overlaid (chain : Chain) (root : Contents) (view : View) : Contents :=
  root.overlay (diffs (chain.visible view))

/-- The search for the next pair, from a starting point to its result. -/
inductive Search (root : Contents) (layers : List Layer) :
    Option Bytes → Option (Bytes × Bytes) → Prop
  /-- No source has a key ahead. -/
  | ended {after : Option Bytes} (hkey : nextKey? root layers after = none) :
      Search root layers after none
  /-- The least key ahead can be read. -/
  | found {after : Option Bytes} {key value : Bytes} (hkey : nextKey? root layers after = some key)
      (hvalue : lookup root layers key = some value) :
      Search root layers after (some (key, value))
  /-- The least key ahead is deleted, and the search goes on from it. -/
  | passed {after : Option Bytes} {key : Bytes} {result : Option (Bytes × Bytes)}
      (hkey : nextKey? root layers after = some key) (hdeleted : lookup root layers key = none)
      (hrest : Search root layers (some key) result) : Search root layers after result

/-- The search repeated from each pair that it finds until it finds
none, with the pairs found. -/
inductive Walk (root : Contents) (layers : List Layer) :
    Option Bytes → List (Bytes × Bytes) → Prop
  /-- There is no next pair. -/
  | ended {after : Option Bytes} (h : Search root layers after none) : Walk root layers after []
  /-- There is one, and the walk goes on from its key. -/
  | step {after : Option Bytes} {key value : Bytes} {rest : List (Bytes × Bytes)}
      (h : Search root layers after (some (key, value)))
      (hrest : Walk root layers (some key) rest) :
      Walk root layers after ((key, value) :: rest)

variable {root : Contents} {layers : List Layer}

/-- A search finds the next pair of the map. -/
theorem Search.eq_nextAfter? {after : Option Bytes} {result : Option (Bytes × Bytes)}
    (h : Search root layers after result) :
    result = (root.overlay (diffs layers)).nextAfter? after := by
  induction h with
  | ended hkey => exact (nextAfter?_overlay_of_ended hkey).symm
  | found hkey hvalue => exact (nextAfter?_overlay_of_found hkey hvalue).symm
  | passed hkey hdeleted _ ih => rw [nextAfter?_overlay_of_passed hkey hdeleted, ih]

/-- Every search ends. -/
theorem exists_search (root : Contents) (layers : List Layer) (after : Option Bytes) :
    ∃ result, Search root layers after result := by
  -- The keys ahead grow fewer with each one that is passed over.
  induction hn : (knownKeys root layers).countP (above after) using Nat.strongRecOn
    generalizing after with
  | ind n ih =>
    cases hkey : nextKey? root layers after with
    | none => exact ⟨none, .ended hkey⟩
    | some key =>
      cases hvalue : lookup root layers key with
      | some value => exact ⟨some (key, value), .found hkey hvalue⟩
      | none =>
        have hfewer := countP_above_nextKey? hkey
        rw [hn] at hfewer
        obtain ⟨result, hrest⟩ := ih _ hfewer (some key) rfl
        exact ⟨result, .passed hkey hvalue hrest⟩

/-- A search ends with the next pair of the map and with nothing
else. -/
theorem search_iff {after : Option Bytes} {result : Option (Bytes × Bytes)} :
    Search root layers after result ↔ result = (root.overlay (diffs layers)).nextAfter? after := by
  constructor
  · exact Search.eq_nextAfter?
  · intro heq
    obtain ⟨other, hother⟩ := exists_search root layers after
    rw [heq, ← hother.eq_nextAfter?]
    exact hother

/-- A walk that has passed some pairs of the map finds those that are
left. -/
theorem walk_iff_of_append (before : List (Bytes × Bytes)) {rest pairs : List (Bytes × Bytes)}
    (h : (root.overlay (diffs layers)).toList = before ++ rest) :
    Walk root layers (before.getLast?.map (·.1)) pairs ↔ pairs = rest := by
  have hnext := OrderedMap.nextAfter?_of_append h
  -- The induction is on the pairs that are left; the one found moves over to `before`.
  induction rest generalizing before pairs with
  | nil =>
    constructor
    · intro hwalk
      cases hwalk with
      | ended _ => rfl
      | step hsearch _ =>
        have heq := search_iff.mp hsearch
        rw [hnext] at heq
        cases heq
    · rintro rfl
      exact .ended (search_iff.mpr hnext.symm)
  | cons pair rest ih =>
    have hpassed : (root.overlay (diffs layers)).toList = (before ++ [pair]) ++ rest := by
      simp [h]
    have hrest : ∀ {later}, Walk root layers (some pair.1) later ↔ later = rest := by
      intro later
      have hlater : Walk root layers ((before ++ [pair]).getLast?.map (·.1)) later ↔ later = rest :=
        ih (before ++ [pair]) hpassed (OrderedMap.nextAfter?_of_append hpassed)
      rwa [List.getLast?_concat, Option.map_some] at hlater
    constructor
    · intro hwalk
      cases hwalk with
      | ended hsearch =>
        have heq := search_iff.mp hsearch
        rw [hnext] at heq
        cases heq
      | step hsearch hlater =>
        have heq := search_iff.mp hsearch
        rw [hnext] at heq
        cases heq
        rw [hrest.mp hlater]
    · rintro rfl
      exact .step (search_iff.mpr hnext.symm) (hrest.mpr rfl)

/-- A walk from the start finds the pairs of the map and ends. -/
theorem walk_iff {pairs : List (Bytes × Bytes)} :
    Walk root layers none pairs ↔ pairs = (root.overlay (diffs layers)).toList :=
  walk_iff_of_append [] rfl

theorem nextVisible?_eq (chain : Chain) (root : Contents) (view : View) (after : Option Bytes) :
    chain.nextVisible? root view after = (chain.overlaid root view).nextAfter? after :=
  ((chain.readsAs_iff root view _).mpr rfl).2 after

/-- A walk of bounded length finds the first of the pairs that are
left. -/
theorem scanFrom_of_append {chain : Chain} {root : Contents} {view : View}
    (before : List (Bytes × Bytes)) {rest : List (Bytes × Bytes)} (fuel : Nat)
    (h : (chain.overlaid root view).toList = before ++ rest) :
    chain.scanFrom root view fuel (before.getLast?.map (·.1)) = rest.take fuel := by
  induction fuel generalizing before rest with
  | zero => rfl
  | succ fuel ih =>
    rw [scanFrom, nextVisible?_eq, OrderedMap.nextAfter?_of_append h]
    cases rest with
    | nil => rfl
    | cons pair rest =>
      have hrest := ih (before ++ [pair]) (show _ = (before ++ [pair]) ++ rest by simp [h])
      rw [List.getLast?_concat] at hrest
      exact congrArg (pair :: ·) hrest

/-- A scan finds every pair of the map. -/
theorem scan_eq (chain : Chain) (root : Contents) (view : View) :
    chain.scan root view = (chain.overlaid root view).toList := by
  have hlength : (chain.overlaid root view).toList.length ≤ keyCount root (chain.visible view) :=
    length_toList_overlay_le (List.Subset.refl _)
  have hscan := scanFrom_of_append [] (keyCount root (chain.visible view) + 1)
    (List.nil_append (chain.overlaid root view).toList).symm
  rw [scan]
  exact hscan.trans (List.take_of_length_le (by omega))

/-- **A table reads as the layers of the view laid over its root.** A
lookup answers what the map says. A search for the next pair ends; its
result is the pair of the map with the least key above the starting
point, and none if the map has no key there. Searching on from each pair
found, from the start until none is found, finds the pairs of the map,
every one of them once and in strictly increasing key order, and so does
a scan. -/
theorem reads_overlay (chain : Chain) (root : Contents) (view : View) :
    (∀ key, chain.get? root view key = (chain.overlaid root view).get? key) ∧
    (∀ after result, Search root (chain.visible view) after result ↔
      result = chain.nextVisible? root view after) ∧
    (∀ after key value, chain.nextVisible? root view after = some (key, value) ↔
      (chain.overlaid root view).get? key = some value ∧ above after key = true ∧
        ∀ other, ((chain.overlaid root view).get? other).isSome → above after other = true →
          key ≤ other) ∧
    (∀ after, chain.nextVisible? root view after = none ↔
      ∀ key, above after key = true → (chain.overlaid root view).get? key = none) ∧
    (∀ pairs, Walk root (chain.visible view) none pairs ↔ pairs = chain.scan root view) ∧
    (chain.scan root view).Pairwise (fun pair later => pair.1 < later.1) ∧
    ∀ key value, (key, value) ∈ chain.scan root view ↔
      (chain.overlaid root view).get? key = some value := by
  -- A search that ends answers as `nextAfter?` of the overlaid map, and
  -- everything else is said of this map.
  refine ⟨fun key => lookup_eq_get?_overlay _ _ _, fun after result => ?_,
    fun after key value => ?_, fun after => ?_, fun pairs => ?_, ?_, fun key value => ?_⟩
  · rw [nextVisible?_eq]
    exact search_iff
  · rw [nextVisible?_eq, OrderedMap.nextAfter?_eq_some_iff]
    refine and_congr_right fun _ => and_congr_right fun _ => forall_congr' fun other => ?_
    rw [List.not_lt]
    exact ⟨fun h hs ho => h ho hs, fun h ho hs => h hs ho⟩
  · rw [nextVisible?_eq, OrderedMap.nextAfter?_eq_none_iff]
    constructor
    · intro h key hab
      by_contra hne
      obtain ⟨value, hvalue⟩ := Option.ne_none_iff_exists'.mp hne
      rw [h key value hvalue] at hab
      cases hab
    · intro h key value hvalue
      by_contra hab
      rw [h key (by simpa using hab)] at hvalue
      cases hvalue
  · rw [scan_eq]
    exact walk_iff
  · rw [scan_eq]
    exact (chain.overlaid root view).sorted
  · rw [scan_eq]
    exact (chain.overlaid root view).mem_toList_iff key value

end LayeredStore.Chain
