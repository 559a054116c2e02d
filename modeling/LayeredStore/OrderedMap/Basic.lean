import LayeredStore.Bytes

/-!
# `LayeredStore.OrderedMap.Basic`: maps kept in key order

A map from byte strings, held as the list of its pairs in strictly
increasing key order. The order is a field of the type, so two maps
with the same pairs are equal, and whatever walks a map sees its keys
in byte order and each one once.

* `get?` looks a key up.
* `insert` sets a key and `erase` removes it, whatever was there.
* `nextAfter?` is the pair of the least key above a starting point.
* `insertAll` inserts the pairs of a list, later ones winning.
-/

set_option autoImplicit false

namespace LayeredStore

variable {α : Type}

namespace Pairs

/-- The pairs are in strictly increasing key order. -/
def Sorted (pairs : List (Bytes × α)) : Prop :=
  pairs.Pairwise fun a b => a.1 < b.1

/-- The value of the first pair with this key. -/
def get? (key : Bytes) : List (Bytes × α) → Option α
  | [] => none
  | (k, v) :: rest => if k = key then some v else get? key rest

/-- Sets `key`, taking the place of the pair that has it. -/
def insert (key : Bytes) (value : α) : List (Bytes × α) → List (Bytes × α)
  | [] => [(key, value)]
  | (k, v) :: rest =>
    if key < k then (key, value) :: (k, v) :: rest
    else if k = key then (key, value) :: rest
    else (k, v) :: insert key value rest

/-- Removes the pair that has `key`. -/
def erase (key : Bytes) : List (Bytes × α) → List (Bytes × α)
  | [] => []
  | (k, v) :: rest => if k = key then rest else (k, v) :: erase key rest

/-- A pair of the map after `insert` is the new one or an old one. -/
theorem mem_insert {key : Bytes} {value : α} {pairs : List (Bytes × α)} {p : Bytes × α}
    (h : p ∈ insert key value pairs) : p = (key, value) ∨ p ∈ pairs := by
  induction pairs with
  | nil => exact .inl (List.mem_singleton.1 h)
  | cons q rest ih =>
    obtain ⟨k, v⟩ := q
    rw [insert] at h
    split at h
    · exact List.mem_cons.1 h
    · split at h
      · exact (List.mem_cons.1 h).imp_right (List.mem_cons_of_mem _)
      · rcases List.mem_cons.1 h with h | h
        · exact .inr (h ▸ List.mem_cons_self)
        · exact (ih h).imp_right (List.mem_cons_of_mem _)

/-- Inserting keeps the keys in order. -/
theorem sorted_insert (key : Bytes) (value : α) {pairs : List (Bytes × α)}
    (h : Sorted pairs) : Sorted (insert key value pairs) := by
  induction pairs with
  | nil => exact List.pairwise_singleton _ _
  | cons q rest ih =>
    obtain ⟨k, v⟩ := q
    obtain ⟨hk, hrest⟩ := List.pairwise_cons.1 h
    rw [insert]
    split
    · rename_i hlt
      exact List.pairwise_cons.2 ⟨fun p hp => (List.mem_cons.1 hp).elim (fun e => e ▸ hlt)
        (fun hp => List.lt_trans hlt (hk p hp)), h⟩
    · rename_i hnlt
      split
      · rename_i heq
        exact List.pairwise_cons.2 ⟨fun p hp => heq ▸ hk p hp, hrest⟩
      · rename_i hne
        refine List.pairwise_cons.2 ⟨fun p hp => ?_, ih hrest⟩
        rcases mem_insert hp with hp | hp
        · rw [hp]
          exact Std.lt_of_le_of_ne (List.not_lt.1 hnlt) hne
        · exact hk p hp

/-- Erasing keeps a part of the pairs in their order. -/
theorem erase_sublist (key : Bytes) (pairs : List (Bytes × α)) :
    (erase key pairs).Sublist pairs := by
  induction pairs with
  | nil => exact List.Sublist.refl _
  | cons q rest ih =>
    obtain ⟨k, v⟩ := q
    rw [erase]
    split
    · exact List.sublist_cons_self _ _
    · exact ih.cons_cons _

/-- Erasing keeps the keys in order. -/
theorem sorted_erase (key : Bytes) {pairs : List (Bytes × α)} (h : Sorted pairs) :
    Sorted (erase key pairs) :=
  List.Pairwise.sublist (erase_sublist key pairs) h

end Pairs

/-- A map from byte strings, as its pairs in strictly increasing key
order. -/
@[ext]
structure OrderedMap (α : Type) where
  /-- The pairs, in key order. -/
  toList : List (Bytes × α)
  /-- Every key stands once, and above those before it. -/
  sorted : Pairs.Sorted toList
  deriving DecidableEq

namespace OrderedMap

/-- The map without keys. -/
def empty : OrderedMap α := ⟨[], List.Pairwise.nil⟩

instance : Inhabited (OrderedMap α) := ⟨empty⟩

/-- The value at `key`. -/
def get? (map : OrderedMap α) (key : Bytes) : Option α :=
  Pairs.get? key map.toList

/-- Sets `key` to `value`, whatever was there. -/
def insert (map : OrderedMap α) (key : Bytes) (value : α) : OrderedMap α :=
  ⟨Pairs.insert key value map.toList, Pairs.sorted_insert key value map.sorted⟩

/-- Removes `key`, if it is there. -/
def erase (map : OrderedMap α) (key : Bytes) : OrderedMap α :=
  ⟨Pairs.erase key map.toList, Pairs.sorted_erase key map.sorted⟩

/-- How many keys the map has. -/
def size (map : OrderedMap α) : Nat := map.toList.length

/-- Whether the map has no keys. -/
def isEmpty (map : OrderedMap α) : Bool := map.toList.isEmpty

/-- Whether `key` lies above the starting point; every key lies above
the missing one. -/
def above (after : Option Bytes) (key : Bytes) : Bool :=
  match after with
  | none => true
  | some start => decide (start < key)

/-- The pair of the least key above the starting point. -/
def nextAfter? (map : OrderedMap α) (after : Option Bytes) : Option (Bytes × α) :=
  map.toList.find? fun pair => above after pair.1

/-- Inserts the pairs of a list from its first to its last, so that of
two with one key the later wins. -/
def insertAll (map : OrderedMap α) (pairs : List (Bytes × α)) : OrderedMap α :=
  pairs.foldl (fun map pair => map.insert pair.1 pair.2) map

end OrderedMap

end LayeredStore
