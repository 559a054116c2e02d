import LayeredStore.Entry

/-!
# `LayeredStore.Store`: persistent stores that can fail

A store is an ordered map on disk. It changes only by batches, each
carried out whole or not at all, and it counts the batches carried out.
A store may be set to fail: from some batch on it refuses every one,
or stops the program on every one.

* `Store.write` carries a batch out or fails.
* A `Disk` holds the stores by name; one that was never named is empty.
  It also keeps the list of the writes attempted on it.
* `store_setStore`, `store_write_of_ne` and `store_write_of_error` say
  which stores a change of the disk leaves alone.
-/

set_option autoImplicit false

namespace LayeredStore

/-- Why a store could not be written or read. -/
inductive IoError where
  /-- The store refused, giving this reason. -/
  | refused (reason : String)
  /-- What the store holds cannot be decoded. -/
  | damaged (fault : Wire.Fault)
  deriving DecidableEq, Repr

/-- The error in words. -/
def IoError.message : IoError → String
  | .refused reason => reason
  | .damaged fault => fault.message

/-- How a write can fail. -/
inductive WriteFailure where
  /-- The store reports an error. -/
  | error (error : IoError)
  /-- The store stops the program. -/
  | crash
  deriving DecidableEq, Repr

/-- How a store is going to fail. -/
structure FaultPlan where
  /-- How many more batches are carried out first. -/
  after : Nat
  /-- What happens at every batch from then on. -/
  failure : WriteFailure
  deriving DecidableEq, Repr

/-- A persistent ordered map. -/
structure Store where
  /-- What the store holds. -/
  contents : Contents
  /-- How many batches were carried out. -/
  writes : Nat
  /-- How the store is going to fail, if it is. -/
  plan : Option FaultPlan
  deriving DecidableEq

namespace Store

/-- A store that holds nothing and does not fail. -/
def empty : Store := ⟨.empty, 0, none⟩

instance : Inhabited Store := ⟨empty⟩

/-- Carries the batch out whole and counts it, or fails and changes
nothing. -/
def write (store : Store) (batch : Batch) : Except WriteFailure Store :=
  let done := { store with contents := store.contents.apply batch, writes := store.writes + 1 }
  match store.plan with
  | none => .ok done
  | some ⟨0, failure⟩ => .error failure
  | some ⟨after + 1, failure⟩ => .ok { done with plan := some ⟨after, failure⟩ }

end Store

/-- The stores, by name. -/
structure Disk where
  /-- The stores named so far, in the order they were first named. -/
  stores : List (String × Store)
  /-- Every write attempted so far, oldest first. -/
  attempts : List (String × Batch)
  deriving DecidableEq

namespace Disk

/-- A disk without stores. -/
def empty : Disk := ⟨[], []⟩

instance : Inhabited Disk := ⟨empty⟩

/-- Puts a store in the place of the one of that name, or at the end
if there is none. -/
def setIn (name : String) (store : Store) : List (String × Store) → List (String × Store)
  | [] => [(name, store)]
  | (n, s) :: rest => if n = name then (name, store) :: rest else (n, s) :: setIn name store rest

/-- The store of that name, empty if there is none. -/
def getFrom (name : String) : List (String × Store) → Store
  | [] => .empty
  | (n, s) :: rest => if n = name then s else getFrom name rest

/-- The store of that name. -/
def store (disk : Disk) (name : String) : Store := getFrom name disk.stores

/-- What the store of that name holds. -/
def contents (disk : Disk) (name : String) : Contents := (disk.store name).contents

/-- Puts a store in the place of the one of that name. -/
def setStore (disk : Disk) (name : String) (store : Store) : Disk :=
  { disk with stores := setIn name store disk.stores }

/-- Names a store: from here on it is among the stores. -/
def mention (disk : Disk) (name : String) : Disk := disk.setStore name (disk.store name)

/-- Attempts a write to the store of that name. -/
def write (disk : Disk) (name : String) (batch : Batch) : Except WriteFailure Unit × Disk :=
  let disk := { disk with attempts := disk.attempts ++ [(name, batch)] }
  match (disk.store name).write batch with
  | .ok store => (.ok (), disk.setStore name store)
  | .error failure => (.error failure, disk)

/-- The contents of a store with one key changed from outside. -/
def overwrite (disk : Disk) (name : String) (key : Bytes) (entry : Entry) : Disk :=
  let store := disk.store name
  disk.setStore name { store with contents := store.contents.put key entry }

/-- Sets how a store is going to fail. -/
def setPlan (disk : Disk) (name : String) (plan : Option FaultPlan) : Disk :=
  disk.setStore name { disk.store name with plan := plan }

/-! ### Which stores change -/

private theorem getFrom_setIn (name : String) (store : Store) (other : String)
    (stores : List (String × Store)) :
    getFrom other (setIn name store stores) =
      if name = other then store else getFrom other stores := by
  induction stores with
  | nil => rfl
  | cons p rest ih =>
    obtain ⟨n, s⟩ := p
    rw [setIn]
    split
    · rename_i hn
      subst hn
      rw [getFrom, getFrom]
      split <;> rfl
    · rename_i hn
      rw [getFrom, getFrom, ih]
      by_cases h : n = other
      · rw [if_pos h, if_pos h, if_neg (fun e => hn (h.trans e.symm))]
      · rw [if_neg h, if_neg h]

/-- Putting a store in place changes the store of that name alone. -/
theorem store_setStore (disk : Disk) (name : String) (new : Store) (other : String) :
    (disk.setStore name new).store other = if name = other then new else disk.store other :=
  getFrom_setIn name new other disk.stores

/-- Naming a store changes none. -/
@[simp] theorem store_mention (disk : Disk) (name other : String) :
    (disk.mention name).store other = disk.store other := by
  rw [mention, store_setStore]
  split
  · rename_i h
    rw [h]
  · rfl

/-- A write leaves the stores of other names alone. -/
theorem store_write_of_ne (disk : Disk) (name : String) (batch : Batch) {other : String}
    (h : other ≠ name) : (disk.write name batch).2.store other = disk.store other := by
  rw [write]
  split
  · rw [store_setStore, if_neg (Ne.symm h)]
    rfl
  · rfl

/-- A write that fails leaves every store as it was. -/
theorem store_write_of_error (disk : Disk) (name : String) (batch : Batch) {failure : WriteFailure}
    (h : (disk.write name batch).1 = .error failure) (other : String) :
    (disk.write name batch).2.store other = disk.store other := by
  simp only [write] at h ⊢
  split
  · rename_i heq
    rw [heq] at h
    cases h
  · rfl

end Disk

end LayeredStore
