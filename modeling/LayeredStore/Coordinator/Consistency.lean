import LayeredStore.Coordinator

/-!
# `LayeredStore.Coordinator.Consistency`: checking the chains

The chains are consistent when the levels' sequence numbers increase
and every table has exactly one layer for every level, with the level's
sequence number, as many of them pending as the coordinator says, all
but the newest committed, and every seal the digest of its layer.

* `checkChains?` looks for what is wrong first: the levels, then the
  tables in their order, each from its oldest layer to its newest.
-/

set_option autoImplicit false

namespace LayeredStore

namespace Chain

/-- What is wrong first with these layers, the oldest of which is at
this level. -/
def checkLayers? (table : String) : (level : Nat) → List Layer → List Nat → Option StateError
  | level, layer :: layers, seq :: levels =>
    if layer.seq ≠ seq then
      some (.malformedChain table level "layer sequence number differs from its level")
    else if !layers.isEmpty && !layer.committed then
      some (.malformedChain table level "uncommitted layer below the head")
    else if !layer.sealMatches then some (.sealMismatch table seq)
    else checkLayers? table (level + 1) layers levels
  | _, _, _ => none

/-- What is wrong first with a table. -/
def check? (chain : Chain) (levels : List Nat) (pending : Nat) : Option StateError :=
  if chain.layers.length ≠ levels.length ∨ chain.pending ≠ pending then
    some (.depthMismatch chain.name (levels.length - min pending levels.length) chain.depth)
  else checkLayers? chain.name 0 chain.layers levels

end Chain

/-- Whether the numbers increase from each to the next. -/
def increasing : List Nat → Bool
  | a :: b :: rest => a < b && increasing (b :: rest)
  | _ => true

/-- What is wrong first with the chains of these tables. -/
def checkChains? (tables : List Chain) (levels : List Nat) (pending : Nat) : Option StateError :=
  if !increasing levels then
    some (.malformedChain "" 0 "coordinator sequence numbers are not increasing")
  else tables.findSome? (·.check? levels pending)

end LayeredStore
