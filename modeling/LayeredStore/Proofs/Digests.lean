import LayeredStore.Proofs.RoundTrip
import LayeredStore.Layer

/-!
# `LayeredStore.Proofs.Digests`: what a digest says about a layer

A layer is hashed as its number followed by its keys and entries, one
behind the other. No count says how many there are, and keys and values
may hold any bytes. Still two layers never have the same bytes to hash,
for every key and every entry begins with its own length.

* `Wire.Reads.unique`: a reader that finds its value in front of two equal
  inputs finds the same value and leaves the same rest. So items written
  one behind the other are known from the bytes
  (`Wire.eq_of_flatMap_eq`).
* `Layer.eq_of_digestInput_eq`: equal bytes to hash come from equal
  numbers and equal entries, as long as these fit their encoding
  (`Layer.Fits`).
* `Sha256.CollisionFree` says of some inputs that no two of them share a
  digest. Then the digest says as much about a layer as the bytes
  (`Layer.digest_eq_iff`), and one digest over the digests of several
  layers as much about all of them (`Layer.combinedDigest_eq_iff`).
-/

set_option autoImplicit false

namespace LayeredStore

/-! ### Bytes without a separator -/

namespace Wire

variable {α : Type}

/-- What a reader finds in front of an input, and what it leaves, depends
on nothing but the input. -/
theorem Reads.unique {reader : Reader α} {first first' rest rest' : Bytes} {a b : α}
    (ha : Reads reader first a) (hb : Reads reader first' b)
    (h : first ++ rest = first' ++ rest') : a = b ∧ rest = rest' := by
  have hread : (Except.ok (a, rest) : Except Fault (α × Bytes)) = .ok (b, rest') :=
    calc Except.ok (a, rest)
      _ = reader (first ++ rest) := (ha rest).symm
      _ = reader (first' ++ rest') := congrArg reader h
      _ = .ok (b, rest') := hb rest'
  exact Prod.mk.inj (Except.ok.inj hread)

/-- Items that are written one behind the other are known from the bytes,
if a reader finds each of them again and none in an empty input. -/
theorem eq_of_flatMap_eq {reader : Reader α} {put : α → Bytes} {items others : List α}
    (hempty : reader [] = .error .truncated) (hitems : ∀ a ∈ items, Reads reader (put a) a)
    (hothers : ∀ a ∈ others, Reads reader (put a) a)
    (h : items.flatMap put = others.flatMap put) : items = others := by
  have hput : ∀ {a : α} {rest : Bytes}, Reads reader (put a) a → put a ++ rest ≠ [] := by
    intro a rest ha hnil
    have hread := ha rest
    rw [hnil, hempty] at hread
    cases hread
  -- By induction on the items: the reader finds the first of each side in the
  -- same bytes, so these two are equal, and so are the bytes behind them.
  induction items generalizing others with
  | nil =>
    cases others with
    | nil => rfl
    | cons b others => exact absurd h.symm (hput (hothers b List.mem_cons_self))
  | cons a items ih =>
    have ha := hitems a List.mem_cons_self
    cases others with
    | nil => exact absurd h (hput ha)
    | cons b others =>
      obtain ⟨hab, hrest⟩ := ha.unique (hothers b List.mem_cons_self) h
      have htail := ih (fun c hc => hitems c (List.mem_cons_of_mem _ hc))
        (fun c hc => hothers c (List.mem_cons_of_mem _ hc)) hrest
      rw [hab, htail]

end Wire

/-! ### The bytes of a layer -/

namespace Layer

/-- The layer's number fits eight bytes, and the length of every key and
value four. -/
def Fits (layer : Layer) : Prop :=
  layer.seq < Nat.pow 256 8 ∧
    ∀ pair ∈ layer.diff.toList, Wire.fits pair.1.length = true ∧ pair.2.fits = true

instance (layer : Layer) : Decidable layer.Fits :=
  inferInstanceAs (Decidable (_ ∧ ∀ pair ∈ layer.diff.toList, _))

/-- Layers with the same number and the same entries have the same bytes
to hash, sealed or not. -/
theorem digestInput_congr {layer other : Layer} (hseq : layer.seq = other.seq)
    (hdiff : layer.diff = other.diff) : layer.digestInput = other.digestInput := by
  rw [digestInput, digestInput, hseq, hdiff]

/-- The bytes that are hashed tell a layer's number and all of its
entries. -/
theorem eq_of_digestInput_eq {layer other : Layer} (hlayer : layer.Fits) (hother : other.Fits)
    (h : layer.digestInput = other.digestInput) :
    layer.seq = other.seq ∧ layer.diff = other.diff := by
  -- A number takes eight bytes, whatever it is, so the pairs begin at one place.
  have hlength : (Bytes.littleEndian 8 layer.seq).length =
      (Bytes.littleEndian 8 other.seq).length := by
    simp
  obtain ⟨hnumber, hpairs⟩ := List.append_inj h hlength
  constructor
  · calc layer.seq
      _ = Bytes.ofLittleEndian (Bytes.littleEndian 8 layer.seq) :=
        (Bytes.ofLittleEndian_littleEndian 8 layer.seq hlayer.1).symm
      _ = Bytes.ofLittleEndian (Bytes.littleEndian 8 other.seq) := by rw [hnumber]
      _ = other.seq := Bytes.ofLittleEndian_littleEndian 8 other.seq hother.1
  · have hreads : ∀ {layer : Layer}, layer.Fits → ∀ pair ∈ layer.diff.toList,
        Wire.Reads Batch.pairReader (Batch.encodePair pair) pair := fun hfits pair hmem =>
      Batch.reads_encodePair (hfits.2 pair hmem).1 (hfits.2 pair hmem).2
    exact OrderedMap.ext (Wire.eq_of_flatMap_eq rfl (hreads hlayer) (hreads hother) hpairs)

end Layer

/-! ### Digests -/

namespace Sha256

/-- No two of these inputs have the same digest. -/
def CollisionFree (inputs : List Bytes) : Prop :=
  ∀ a ∈ inputs, ∀ b ∈ inputs, digest a = digest b → a = b

instance (inputs : List Bytes) : Decidable (CollisionFree inputs) :=
  inferInstanceAs (Decidable (∀ a ∈ inputs, ∀ b ∈ inputs, _ → _))

end Sha256

namespace Layer

/-- Where no two digests collide, layers have the same digest exactly if
they have the same number and the same entries. -/
theorem digest_eq_iff {layer other : Layer} (hlayer : layer.Fits) (hother : other.Fits)
    {inputs : List Bytes} (hfree : Sha256.CollisionFree inputs)
    (hmem : layer.digestInput ∈ inputs) (hmem' : other.digestInput ∈ inputs) :
    layer.digest = other.digest ↔ layer.seq = other.seq ∧ layer.diff = other.diff := by
  constructor
  · intro h
    exact eq_of_digestInput_eq hlayer hother (hfree _ hmem _ hmem' h)
  · intro h
    exact congrArg Sha256.digest (digestInput_congr h.1 h.2)

/-- Digests that follow each other are known from the bytes, for all of
them are equally long. -/
theorem map_digest_eq_of_flatMap_eq {layers others : List Layer}
    (h : layers.flatMap (·.digest) = others.flatMap (·.digest)) :
    layers.map (·.digest) = others.map (·.digest) := by
  have hreads : ∀ layers : List Layer, ∀ digest ∈ layers.map (·.digest),
      Wire.Reads (Wire.takeBytes 32) (id digest) digest := by
    intro layers digest hmem
    obtain ⟨layer, -, rfl⟩ := List.mem_map.mp hmem
    exact Wire.reads_takeBytes layer.digest
  have hbytes : (layers.map (·.digest)).flatMap id = (others.map (·.digest)).flatMap id := by
    simpa only [List.flatMap_map, id] using h
  exact Wire.eq_of_flatMap_eq rfl (hreads layers) (hreads others) hbytes

/-! ### One digest for several layers -/

/-- What a layer says: its number and its entries. -/
def content (layer : Layer) : Nat × Diff := (layer.seq, layer.diff)

/-- The digest of the layers' digests, one behind the other. -/
def combinedDigest (layers : List Layer) : Digest :=
  Sha256.digest (layers.flatMap (·.digest))

/-- All that is hashed for the combined digest of these layers. -/
def hashedFor (layers : List Layer) : List Bytes :=
  layers.flatMap (·.digest) :: layers.map (·.digestInput)

/-- Lists that look alike through one function look alike through another
one that sees no more. -/
private theorem map_eq_map_of_imp {α β γ : Type} {f : α → β} {g : α → γ} {items others : List α}
    (himp : ∀ a ∈ items, ∀ b ∈ others, f a = f b → g a = g b)
    (h : items.map f = others.map f) : items.map g = others.map g := by
  induction items generalizing others with
  | nil =>
    obtain rfl := List.map_eq_nil_iff.mp h.symm
    rfl
  | cons a items ih =>
    cases others with
    | nil => cases h
    | cons b others =>
      obtain ⟨hhead, htail⟩ := List.cons.inj h
      have hrest := ih (fun c hc d hd => himp c (List.mem_cons_of_mem _ hc) d
        (List.mem_cons_of_mem _ hd)) htail
      rw [List.map_cons, List.map_cons, hrest,
        himp a List.mem_cons_self b List.mem_cons_self hhead]

/-- Where no two digests collide, the combined digest of layers tells what
each of them says. -/
theorem combinedDigest_eq_iff {layers others : List Layer}
    (hlayers : ∀ layer ∈ layers, layer.Fits) (hothers : ∀ layer ∈ others, layer.Fits)
    (hfree : Sha256.CollisionFree (hashedFor layers ++ hashedFor others)) :
    combinedDigest layers = combinedDigest others ↔
      layers.map content = others.map content := by
  constructor
  · intro h
    -- Equal digests have equal inputs, which are the digests of the layers one
    -- behind the other.
    have hinput := hfree _ (List.mem_append_left _ List.mem_cons_self) _
      (List.mem_append_right _ List.mem_cons_self) h
    refine map_eq_map_of_imp (fun a ha b hb hdigest => ?_) (map_digest_eq_of_flatMap_eq hinput)
    have hmem : a.digestInput ∈ hashedFor layers ++ hashedFor others :=
      List.mem_append_left _ (List.mem_cons_of_mem _ (List.mem_map_of_mem ha))
    have hmem' : b.digestInput ∈ hashedFor layers ++ hashedFor others :=
      List.mem_append_right _ (List.mem_cons_of_mem _ (List.mem_map_of_mem hb))
    obtain ⟨hseq, hdiff⟩ :=
      (digest_eq_iff (hlayers a ha) (hothers b hb) hfree hmem hmem').mp hdigest
    exact Prod.ext hseq hdiff
  · intro h
    have hdigests : layers.map (·.digest) = others.map (·.digest) := by
      refine map_eq_map_of_imp (fun a _ b _ hcontent => ?_) h
      obtain ⟨hseq, hdiff⟩ := Prod.mk.inj hcontent
      exact congrArg Sha256.digest (digestInput_congr hseq hdiff)
    rw [combinedDigest, combinedDigest, List.flatMap_def, List.flatMap_def, hdigests]

end Layer

end LayeredStore
