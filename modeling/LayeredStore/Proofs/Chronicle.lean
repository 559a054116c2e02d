import LayeredStore.Proofs.Runs

/-!
# `LayeredStore.Proofs.Chronicle`: what a run has written, page by page

The chronicle of a run has a page for every layer that was pushed and not
discarded, with the writes that the layer took, and a page for every
write that went straight to a root, all in the order of time. It is told
from the moves of the run, whether they succeed, and how many layers are
live; what the layers hold and where they are now does not enter it.

* `Page`, `Contents.retold`: the pages, and what they make of the
  contents of a root.
* `Page.oldest` picks the pages up to a layer; `oldest_append` says which
  these are when the newer pages are all of layers.
* `World.chronicle`: the chronicle of a run.
-/

set_option autoImplicit false

namespace LayeredStore


/-- What was written to one layer of all tables, or one entry that was
written straight to a root. -/
structure Page where
  /-- The number of the layer, if it is one. -/
  seq : Option Nat
  /-- Of every write the table, the key and the entry, in order. -/
  entries : List (Nat × Bytes × Entry)
  deriving DecidableEq

namespace Page

/-- What was written to one table. -/
def batch (page : Page) (table : Nat) : Batch :=
  page.entries.filterMap fun entry => if entry.1 = table then some entry.2 else none

/-- The diff that these writes make. -/
def diff (page : Page) (table : Nat) : Diff := OrderedMap.empty.insertAll (page.batch table)

/-- Notes one more write. -/
def add (entry : Nat × Bytes × Entry) (page : Page) : Page :=
  { page with entries := page.entries ++ [entry] }

/-- How many layers the pages are of. -/
def layerCount (pages : List Page) : Nat := pages.countP (·.seq.isSome)

/-- The pages of the `n` oldest layers, and of all that was written
straight to the roots. -/
def oldest : Nat → List Page → List Page
  | _, [] => []
  | n, ⟨none, entries⟩ :: pages => ⟨none, entries⟩ :: oldest n pages
  | 0, ⟨some _, _⟩ :: pages => oldest 0 pages
  | n + 1, ⟨some seq, entries⟩ :: pages => ⟨some seq, entries⟩ :: oldest n pages

theorem diff_add (page : Page) (entry : Nat × Bytes × Entry) (table : Nat) :
    (page.add entry).diff table =
      if entry.1 = table then (page.diff table).insert entry.2.1 entry.2.2
      else page.diff table := by
  unfold diff batch add
  rw [List.filterMap_append]
  split <;> rename_i htable <;>
    simp [htable, OrderedMap.insertAll, List.foldl_append]

/-- A page that says nothing of a table changes nothing in it. -/
theorem batch_eq_nil {page : Page} {table : Nat} (h : ∀ entry ∈ page.entries, entry.1 ≠ table) :
    page.batch table = [] :=
  List.filterMap_eq_nil_iff.mpr fun entry hmem => if_neg (h entry hmem)

theorem diff_eq_empty {page : Page} {table : Nat} (h : ∀ entry ∈ page.entries, entry.1 ≠ table) :
    page.diff table = .empty := by
  rw [diff, batch_eq_nil h]
  rfl

/-- Applying the diff is making the writes one by one. -/
theorem apply_diff (page : Page) (table : Nat) (contents : Contents) :
    contents.apply (page.diff table).toList = contents.apply (page.batch table) := by
  apply OrderedMap.ext_get?
  intro key
  rw [Contents.get?_apply_toList, Contents.get?_apply, diff, OrderedMap.get?_insertAll,
    OrderedMap.get?_empty, Option.or_none]
  cases (page.batch table).reverse.find? (·.1 = key) <;> rfl

/-- Of pages that are all of layers, the oldest come first. -/
theorem oldest_of_layers {pages : List Page} (hlayers : ∀ page ∈ pages, page.seq.isSome) (n : Nat) :
    oldest n pages = pages.take n := by
  induction pages generalizing n with
  | nil => rw [oldest, List.take_nil]
  | cons page pages ih =>
    have hrest : ∀ other ∈ pages, other.seq.isSome := fun other hmem =>
      hlayers other (List.mem_cons_of_mem _ hmem)
    obtain ⟨⟨⟩ | ⟨seq⟩, entries⟩ := page
    · exact nomatch hlayers _ List.mem_cons_self
    · cases n with
      | zero => exact (ih hrest 0).trans List.take_zero
      | succ n => exact congrArg _ (ih hrest n)

/-- The oldest pages, when the pages after some are all of layers. -/
theorem oldest_append {older newer : List Page} (hnewer : ∀ page ∈ newer, page.seq.isSome)
    (n : Nat) : oldest (layerCount older + n) (older ++ newer) = older ++ newer.take n := by
  induction older with
  | nil =>
    rw [layerCount, List.countP_nil, Nat.zero_add]
    exact oldest_of_layers hnewer n
  | cons page older ih =>
    -- A page between the layers is taken along, and not counted.
    obtain ⟨⟨⟩ | ⟨seq⟩, entries⟩ := page
    · exact congrArg _ ih
    · have hcount : layerCount (⟨some seq, entries⟩ :: older) = layerCount older + 1 :=
        List.countP_cons_of_pos rfl
      rw [hcount, Nat.add_right_comm]
      exact congrArg _ ih

end Page

namespace Contents

/-- What the writes of the pages to one table make of the contents of its
root. -/
def retold (contents : Contents) (table : Nat) (pages : List Page) : Contents :=
  pages.foldl (fun contents page => contents.apply (page.batch table)) contents

theorem retold_append (contents : Contents) (table : Nat) (older newer : List Page) :
    contents.retold table (older ++ newer) = (contents.retold table older).retold table newer :=
  List.foldl_append

/-- Telling the pages again is laying their diffs over the root. -/
theorem retold_eq_overlay (contents : Contents) (table : Nat) (pages : List Page) :
    contents.retold table pages = contents.overlay (pages.map (·.diff table)) := by
  induction pages generalizing contents with
  | nil => rfl
  | cons page pages ih =>
    rw [List.map_cons, overlay_cons, Page.apply_diff]
    exact ih _

/-- Pages that say nothing of a table change nothing in it. -/
theorem retold_eq_self (contents : Contents) {table : Nat} {pages : List Page}
    (h : ∀ page ∈ pages, ∀ entry ∈ page.entries, entry.1 ≠ table) :
    contents.retold table pages = contents := by
  rw [retold_eq_overlay]
  refine overlay_eq_self fun diff hdiff => ?_
  obtain ⟨page, hmem, rfl⟩ := List.mem_map.mp hdiff
  exact Page.diff_eq_empty (h page hmem)

end Contents

/-! ### The chronicle of a run -/

/-- The table, the key and the entry that the move writes, if it is a
write to a table and succeeds. -/
def Move.written? (w : World) : Move → Option (Nat × Bytes × Entry)
  | .call (.write table key entry) =>
    if ((Command.write table key entry).run.perform w).1 = .ok .done ∧
        table.index < w.db.coordinator.tables.length then
      some (table.index, key, entry)
    else none
  | _ => none

namespace World

/-- The pages whose layers have not been discarded. -/
def surviving (w : World) (pages : List Page) : List Page :=
  pages.filter fun page => page.seq.all (· ∉ w.discarded)

/-- The chronicle after a move from `w`, if this was the chronicle before
it. A write is noted on the page of the newest layer if a layer is live,
and on a page of its own otherwise. A layer that is pushed starts a
page. -/
def continued (w : World) (pages : List Page) (move : Move) : List Page :=
  (move.act w).surviving <| match move.written? w with
    | some entry =>
      if 0 < w.db.coordinator.depth then pages.modifyLast (·.add entry)
      else pages ++ [⟨none, [entry]⟩]
    | none =>
      if w.db.coordinator.nextSeq < (move.act w).db.coordinator.nextSeq then
        pages ++ [⟨some w.db.coordinator.nextSeq, []⟩]
      else pages

/-- The chronicle of a run from `w`, which begins with these pages. -/
def chronicle : World → List Page → List Move → List Page
  | _, pages, [] => pages
  | w, pages, move :: moves => chronicle (move.act w) (w.continued pages move) moves

section
variable {w w' : World} {pages : List Page}

/-- Of the pages that survive, those survive that are not discarded
later. -/
theorem surviving_surviving (h : w.discarded ⊆ w'.discarded) (pages : List Page) :
    w'.surviving (w.surviving pages) = w'.surviving pages := by
  unfold surviving
  rw [List.filter_filter]
  refine List.filter_congr fun page _ => ?_
  cases page.seq with
  | none => rfl
  | some seq =>
    by_cases hmem : seq ∈ w.discarded
    · simp [h hmem]
    · simp [hmem]

theorem surviving_of_discarded_eq (h : w'.discarded = w.discarded) (pages : List Page) :
    w'.surviving pages = w.surviving pages := by
  rw [surviving, surviving, h]

/-- A move that neither writes nor pushes a layer adds nothing. -/
theorem continued_eq_surviving {move : Move} (hwritten : move.written? w = none)
    (hnextSeq : (move.act w).db.coordinator.nextSeq = w.db.coordinator.nextSeq) :
    w.continued pages move = (move.act w).surviving pages := by
  rw [continued, hwritten, hnextSeq]
  simp only [Nat.lt_irrefl, if_false]

theorem continued_of_push {move : Move} (hwritten : move.written? w = none)
    (hnextSeq : (move.act w).db.coordinator.nextSeq = w.db.coordinator.nextSeq + 1) :
    w.continued pages move =
      (move.act w).surviving (pages ++ [⟨some w.db.coordinator.nextSeq, []⟩]) := by
  rw [continued, hwritten, hnextSeq]
  exact congrArg _ (if_pos (Nat.lt_succ_self _))

theorem continued_of_written {move : Move} {entry : Nat × Bytes × Entry}
    (hwritten : move.written? w = some entry) :
    w.continued pages move = (move.act w).surviving
      (if 0 < w.db.coordinator.depth then pages.modifyLast (·.add entry)
      else pages ++ [⟨none, [entry]⟩]) := by
  rw [continued, hwritten]

end

end World

end LayeredStore
