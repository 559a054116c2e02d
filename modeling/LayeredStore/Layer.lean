import LayeredStore.Entry
import LayeredStore.Sha256

/-!
# `LayeredStore.Layer`: one level of a table's changes

A layer holds the entries that were written to a table while the layer
was the newest one. It carries the sequence number of the push that
made it, which all tables share. Committing a layer seals it: the seal
is the digest of its sequence number and its entries, and a layer is
committed exactly when it has a seal.

* `put` writes an entry and keeps a seal up to date; `forge` writes one
  and leaves the seal alone.
* `absorb` lays the entries of a newer layer over an older one.
* `digest` hashes `digestInput`; `sealMatches` compares it with the
  seal.
-/

set_option autoImplicit false

namespace LayeredStore

/-- The entries of one level of a table, in key order. -/
abbrev Diff := OrderedMap Entry

/-- One level of a table's changes. -/
structure Layer where
  /-- The number of the push that made the layer. -/
  seq : Nat
  /-- What was written while the layer was the newest one. -/
  diff : Diff
  /-- The digest taken when the layer was committed, kept up to date
  since; `none` before. -/
  sealedAs : Option Digest
  deriving DecidableEq

namespace Layer

/-- An empty layer that is not committed. -/
def new (seq : Nat) : Layer := ⟨seq, .empty, none⟩

/-- Whether the unit of work that owns the layer was committed. -/
def committed (layer : Layer) : Bool := layer.sealedAs.isSome

/-- What the layer says about a key, if anything. -/
def get? (layer : Layer) (key : Bytes) : Option Entry := layer.diff.get? key

/-- The layer's first key above the starting point, and what it says
about it. -/
def nextAfter? (layer : Layer) (after : Option Bytes) : Option (Bytes × Entry) :=
  layer.diff.nextAfter? after

/-- How many keys the layer says something about. -/
def size (layer : Layer) : Nat := layer.diff.size

/-- The bytes that a digest covers: the sequence number in eight bytes,
least significant first, then every key and its entry in key order. Keys
and values are shorter than 2^32 bytes: a longer one has no encoding, as
`Wire.fits` says, and the digest of a layer that holds one means nothing. -/
def digestInput (layer : Layer) : Bytes :=
  Bytes.littleEndian 8 layer.seq ++ layer.diff.toList.flatMap Batch.encodePair

/-- The digest of the layer's sequence number and entries, the lengths of
which are below 2^32. -/
def digest (layer : Layer) : Digest := Sha256.digest layer.digestInput

/-- Marks the layer as committed, with its present digest as its
seal. -/
def commit (layer : Layer) : Layer := { layer with sealedAs := some layer.digest }

/-- Takes a new seal if there is one. -/
def reseal (layer : Layer) : Layer := if layer.committed then layer.commit else layer

/-- Writes an entry without touching the seal. -/
def forge (layer : Layer) (key : Bytes) (entry : Entry) : Layer :=
  { layer with diff := layer.diff.insert key entry }

/-- Writes an entry; a seal is taken anew. -/
def put (layer : Layer) (key : Bytes) (entry : Entry) : Layer :=
  (layer.forge key entry).reseal

/-- Lays the entries of a newer layer over this one. The seal stays as
it is. -/
def absorb (layer newer : Layer) : Layer :=
  { layer with diff := layer.diff.insertAll newer.diff.toList }

/-- Whether the entries are still those that were sealed. A layer
without a seal passes. -/
def sealMatches (layer : Layer) : Bool :=
  match layer.sealedAs with
  | some digest => digest == layer.digest
  | none => true

end Layer

end LayeredStore
