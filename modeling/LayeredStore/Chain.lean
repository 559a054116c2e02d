import LayeredStore.Layer

/-!
# `LayeredStore.Chain`: the layers of one table

A chain is a table's stack of layers above its root, the store that
holds what is no longer in any layer. The oldest layers are pending:
they can no longer be discarded and wait to be moved into the root. The
others are live, and the newest of them, the head, takes the writes.

* `View` says which layers a read looks at, and `visible` picks them.
* `get?` and `nextVisible?` read through a view; both take the root's
  contents.
* `push`, `discardHead`, `solidify`, `dropOldest` change the stack, and
  `netOldest` is the one layer that says what the oldest ones together
  say.
-/

set_option autoImplicit false

namespace LayeredStore

/-- Which layers a read looks at. -/
inductive View where
  /-- All layers but the newest `hidden` live ones. -/
  | head (hidden : Nat)
  /-- The pending layers only. -/
  | solidity
  deriving DecidableEq, Repr

/-- A table's layers above its root. -/
structure Chain where
  /-- The table's name. -/
  name : String
  /-- The name of the store that is its root. -/
  root : String
  /-- The layers, oldest first. -/
  layers : List Layer
  /-- How many of the oldest layers are pending. -/
  pending : Nat
  deriving DecidableEq

namespace Chain

/-- A chain of empty layers with these sequence numbers. All but the
layer of the open unit of work are committed. -/
def padded (name root : String) (levels : List Nat) (pending : Nat) (openUnit : Option Nat) :
    Chain where
  name := name
  root := root
  layers := levels.map fun seq =>
    if openUnit = some seq then Layer.new seq else (Layer.new seq).commit
  pending := pending

/-- How many layers are live. -/
def depth (chain : Chain) : Nat := chain.layers.length - chain.pending

/-- The newest live layer. -/
def head? (chain : Chain) : Option Layer :=
  if chain.depth = 0 then none else chain.layers.getLast?

/-- Changes the layer at a level, counted from the oldest. -/
def modifyLayer (chain : Chain) (level : Nat) (f : Layer → Layer) : Chain :=
  { chain with layers := chain.layers.modify level f }

/-- Changes the newest live layer, if there is one. -/
def modifyHead (chain : Chain) (f : Layer → Layer) : Chain :=
  if chain.depth = 0 then chain else chain.modifyLayer (chain.layers.length - 1) f

/-! ### Reads -/

/-- The layers that a view looks at, oldest first. -/
def visible (chain : Chain) : View → List Layer
  | .head hidden => chain.layers.take (chain.layers.length - min hidden chain.depth)
  | .solidity => chain.layers.take chain.pending

/-- What the newest of these layers that knows the key says about
it. -/
def topmost? (layers : List Layer) (key : Bytes) : Option Entry :=
  layers.reverse.findSome? (·.get? key)

/-- Reads a key through these layers, and below them from the root. -/
def lookup (root : Contents) (layers : List Layer) (key : Bytes) : Option Bytes :=
  match topmost? layers key with
  | some entry => entry.value?
  | none => root.get? key

/-- Reads a key through a view. -/
def get? (chain : Chain) (root : Contents) (view : View) (key : Bytes) : Option Bytes :=
  lookup root (chain.visible view) key

/-- The lesser of two keys, where there are any. -/
def lesser : Option Bytes → Option Bytes → Option Bytes
  | some a, some b => if b < a then some b else some a
  | some a, none => some a
  | none, b => b

/-- The least key above the starting point that the root or any of
these layers knows, deleted or not. -/
def nextKey? (root : Contents) (layers : List Layer) (after : Option Bytes) : Option Bytes :=
  layers.foldl (fun least layer => lesser least ((layer.nextAfter? after).map (·.1)))
    ((root.nextAfter? after).map (·.1))

/-- The first pair above the starting point, trying at most `fuel`
keys: a key that is deleted at the top is passed over. -/
def nextLookup (root : Contents) (layers : List Layer) :
    (fuel : Nat) → (after : Option Bytes) → Option (Bytes × Bytes)
  | 0, _ => none
  | fuel + 1, after =>
    match nextKey? root layers after with
    | none => none
    | some key =>
      match lookup root layers key with
      | some value => some (key, value)
      | none => nextLookup root layers fuel (some key)

/-- How many keys the root and these layers know, with repetitions:
no search passes over more. -/
def keyCount (root : Contents) (layers : List Layer) : Nat :=
  root.size + (layers.flatMap (·.diff.toList)).length

/-- The pair with the least visible key above the starting point. -/
def nextVisible? (chain : Chain) (root : Contents) (view : View) (after : Option Bytes) :
    Option (Bytes × Bytes) :=
  let layers := chain.visible view
  nextLookup root layers (keyCount root layers + 1) after

/-- Walks on from the starting point, at most `fuel` pairs far. -/
def scanFrom (chain : Chain) (root : Contents) (view : View) :
    (fuel : Nat) → (after : Option Bytes) → List (Bytes × Bytes)
  | 0, _ => []
  | fuel + 1, after =>
    match chain.nextVisible? root view after with
    | none => []
    | some (key, value) => (key, value) :: scanFrom chain root view fuel (some key)

/-- Every visible pair, in key order. -/
def scan (chain : Chain) (root : Contents) (view : View) : List (Bytes × Bytes) :=
  chain.scanFrom root view (keyCount root (chain.visible view) + 1) none

/-! ### Changes to the stack -/

/-- Puts an empty layer on top. -/
def push (chain : Chain) (seq : Nat) : Chain :=
  { chain with layers := chain.layers ++ [Layer.new seq] }

/-- Discards the newest live layer, if there is one. -/
def discardHead (chain : Chain) : Chain :=
  if chain.depth = 0 then chain else { chain with layers := chain.layers.dropLast }

/-- Makes the `count` oldest live layers pending. -/
def solidify (chain : Chain) (count : Nat) : Chain :=
  { chain with pending := min (chain.pending + count) chain.layers.length }

/-- One layer that says what the `count` oldest layers together say. It
carries the sequence number of the newest of them. -/
def netOldest (chain : Chain) (count : Nat) : Layer :=
  let oldest := chain.layers.take count
  oldest.foldl Layer.absorb (Layer.new ((oldest.getLast?.map (·.seq)).getD 0))

/-- Takes the `count` oldest layers away. -/
def dropOldest (chain : Chain) (count : Nat) : Chain :=
  { chain with
    layers := chain.layers.drop count
    pending := chain.pending - min count chain.layers.length }

end Chain

end LayeredStore
