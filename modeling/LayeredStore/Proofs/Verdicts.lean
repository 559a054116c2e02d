import LayeredStore.Proofs.Soundness

/-!
# `LayeredStore.Proofs.Verdicts`: what the check of the chains finds

`checkChains?` goes through the levels and then the tables, each from its
oldest layer to its newest, and stops at the first thing that is wrong. It
is compared here with what is asked of the chains, level by level, whatever
tables and levels it is given.

* `Layer.InPlace` says what is asked of a layer at a level, and
  `Chain.Consistent` of a table. `Layer.Defect` says which errors there are
  for a layer that is not in place.
* `Chain.checkLayers?_eq_none_iff` and `Chain.checkLayers?_eq_some`: the
  layers are gone through by induction, along with the levels. The level of
  the oldest of them is a parameter, for it is not 0 any more below the
  first.
* `Chain.check?_eq_none_iff` and `Chain.check?_eq_some`: the same of one
  table, whose count of layers is looked at first.
* `checkChains?_decides`: the check finds nothing exactly where all that is
  asked holds, and it names the first table in order, and there the lowest
  level.
-/

set_option autoImplicit false

namespace LayeredStore

/-! ### What is asked of a layer -/

namespace Layer

/-- What is asked of a layer at a level: it has the level's number, it is
committed if there are layers above it, and its seal is its digest if it
has one. -/
structure InPlace (layer : Layer) (seq? : Option Nat) (below : Prop) : Prop where
  seq : seq? = some layer.seq
  committed : below → layer.committed = true
  sealedAs : ∀ digest, layer.sealedAs = some digest → digest = layer.digest

/-- The errors for a layer that is not in place. Its number is
looked at first, and its seal last. -/
inductive Defect (table : String) (level : Nat) (layer : Layer) (seq? : Option Nat)
    (below : Prop) : StateError → Prop
  | misnumbered (hseq : seq? ≠ some layer.seq) : Defect table level layer seq? below
      (.malformedChain table level "layer sequence number differs from its level")
  | uncommitted (hseq : seq? = some layer.seq) (hbelow : below) (hopen : layer.committed = false) :
      Defect table level layer seq? below
        (.malformedChain table level "uncommitted layer below the head")
  | unsealed (hseq : seq? = some layer.seq) (hcommitted : below → layer.committed = true)
      {digest : Digest} (hsealed : layer.sealedAs = some digest) (hne : digest ≠ layer.digest) :
      Defect table level layer seq? below (.sealMismatch table layer.seq)

variable {layer : Layer} {seq? : Option Nat} {below : Prop}

/-- A layer in its place has no defect. -/
theorem InPlace.not_defect (h : layer.InPlace seq? below) {table : String} {level : Nat}
    {error : StateError} : ¬ layer.Defect table level seq? below error := by
  intro hdefect
  cases hdefect with
  | misnumbered hseq => exact hseq h.seq
  | uncommitted _ hbelow hopen =>
    have hcommitted := h.committed hbelow
    simp [hopen] at hcommitted
  | unsealed _ _ hsealed hne => exact hne (h.sealedAs _ hsealed)

theorem sealMatches_iff :
    layer.sealMatches = true ↔ ∀ digest, layer.sealedAs = some digest → digest = layer.digest := by
  unfold sealMatches
  cases layer.sealedAs with
  | none => simp
  | some digest => simp

/-- A seal that does not match is there, and is not the digest. -/
theorem exists_seal_of_not_sealMatches (h : layer.sealMatches = false) :
    ∃ digest, layer.sealedAs = some digest ∧ digest ≠ layer.digest := by
  by_contra hnone
  have hall : ∀ digest, layer.sealedAs = some digest → digest = layer.digest := by
    intro digest hsealed
    by_contra hne
    exact hnone ⟨digest, hsealed, hne⟩
  rw [sealMatches_iff.mpr hall] at h
  cases h

end Layer

/-! ### Tables -/

namespace Chain

/-- What is asked of the layer at one level of a stack, counted from the
oldest. -/
def InPlaceAt (layers : List Layer) (levels : List Nat) (i : Nat) : Prop :=
  ∀ layer, layers[i]? = some layer → layer.InPlace levels[i]? (i + 1 < layers.length)

/-- What is asked of a table. -/
structure Consistent (chain : Chain) (levels : List Nat) (pending : Nat) : Prop where
  depth : chain.layers.length = levels.length
  pending : chain.pending = pending
  inPlace : ∀ i, InPlaceAt chain.layers levels i

section
variable {layer : Layer} {layers : List Layer} {levels : List Nat} {seq : Nat}

/-- A level above the oldest is a level of the layers above it. -/
theorem inPlaceAt_succ (i : Nat) :
    InPlaceAt (layer :: layers) (seq :: levels) (i + 1) ↔ InPlaceAt layers levels i := by
  simp [InPlaceAt]

theorem inPlaceAt_zero :
    InPlaceAt (layer :: layers) (seq :: levels) 0 ↔ layer.InPlace (some seq) (layers ≠ []) := by
  simp [InPlaceAt, List.length_pos_iff]

/-- The oldest layer and those above it. -/
theorem forall_inPlaceAt_cons :
    (∀ i, InPlaceAt (layer :: layers) (seq :: levels) i) ↔
      layer.InPlace (some seq) (layers ≠ []) ∧ ∀ i, InPlaceAt layers levels i := by
  constructor
  · intro h
    exact ⟨inPlaceAt_zero.mp (h 0), fun i => (inPlaceAt_succ i).mp (h (i + 1))⟩
  · rintro ⟨hfirst, hrest⟩ i
    cases i with
    | zero => exact inPlaceAt_zero.mpr hfirst
    | succ i => exact (inPlaceAt_succ i).mpr (hrest i)

end

/-- What the check says of the oldest layer: it has a defect and the check
stops there, or it is in place and the check goes on. -/
theorem checkLayers?_cons (table : String) (level : Nat) (layer : Layer) (layers : List Layer)
    (seq : Nat) (levels : List Nat) :
    (∃ error, checkLayers? table level (layer :: layers) (seq :: levels) = some error ∧
      layer.Defect table level (some seq) (layers ≠ []) error) ∨
    layer.InPlace (some seq) (layers ≠ []) ∧
      checkLayers? table level (layer :: layers) (seq :: levels) =
        checkLayers? table (level + 1) layers levels := by
  rw [checkLayers?]
  -- The questions come in the order of the check: the number, then whether the
  -- layer is committed, then the seal.
  by_cases hseq : layer.seq = seq
  · subst hseq
    rw [if_neg (not_not_intro rfl)]
    by_cases hopen : layers ≠ [] ∧ layer.committed = false
    · have hfound : (!layers.isEmpty && !layer.committed) = true := by simp [hopen.1, hopen.2]
      rw [if_pos hfound]
      exact .inl ⟨_, rfl, .uncommitted rfl hopen.1 hopen.2⟩
    · have hcommitted : layers ≠ [] → layer.committed = true := by
        intro hne
        by_contra hnot
        exact hopen ⟨hne, by simpa using hnot⟩
      have hpassed : ¬ (!layers.isEmpty && !layer.committed) = true := by
        simp only [Bool.and_eq_true, Bool.not_eq_true', List.isEmpty_eq_false_iff]
        exact hopen
      rw [if_neg hpassed]
      cases hmatch : layer.sealMatches with
      | true => exact .inr ⟨⟨rfl, hcommitted, Layer.sealMatches_iff.mp hmatch⟩, by simp⟩
      | false =>
        obtain ⟨digest, hsealed, hne⟩ := Layer.exists_seal_of_not_sealMatches hmatch
        exact .inl ⟨_, by simp, .unsealed rfl hcommitted hsealed hne⟩
  · rw [if_pos hseq]
    exact .inl ⟨_, rfl, .misnumbered fun h => hseq (Option.some.inj h).symm⟩

/-- The check of the layers finds nothing exactly where all of them are in
place. -/
theorem checkLayers?_eq_none_iff (table : String) (level : Nat) {layers : List Layer}
    {levels : List Nat} (hlength : layers.length = levels.length) :
    checkLayers? table level layers levels = none ↔ ∀ i, InPlaceAt layers levels i := by
  induction layers generalizing level levels with
  | nil => simp [checkLayers?, InPlaceAt]
  | cons layer layers ih =>
    cases levels with
    | nil => simp at hlength
    | cons seq levels =>
    have hrest : layers.length = levels.length := by simpa using hlength
    rw [forall_inPlaceAt_cons]
    rcases checkLayers?_cons table level layer layers seq levels with
      ⟨error, hcheck, hdefect⟩ | ⟨hplace, hcheck⟩
    · rw [hcheck]
      simp only [reduceCtorEq, false_iff]
      exact fun h => h.1.not_defect hdefect
    · rw [hcheck, ih (level + 1) hrest]
      exact ⟨fun h => ⟨hplace, h⟩, fun h => h.2⟩

/-- What the check of the layers finds is a defect of the oldest that is
not in place. -/
theorem checkLayers?_eq_some (table : String) (level : Nat) {layers : List Layer}
    {levels : List Nat} (hlength : layers.length = levels.length) {error : StateError}
    (h : checkLayers? table level layers levels = some error) :
    ∃ i layer, layers[i]? = some layer ∧ (∀ j < i, InPlaceAt layers levels j) ∧
      layer.Defect table (level + i) levels[i]? (i + 1 < layers.length) error := by
  induction layers generalizing level levels with
  | nil => simp [checkLayers?] at h
  | cons layer layers ih =>
    cases levels with
    | nil => simp at hlength
    | cons seq levels =>
    have hrest : layers.length = levels.length := by simpa using hlength
    rcases checkLayers?_cons table level layer layers seq levels with
      ⟨found, hcheck, hdefect⟩ | ⟨hplace, hcheck⟩
    · -- The oldest layer is the one.
      rw [hcheck] at h
      cases h
      refine ⟨0, layer, rfl, by simp, ?_⟩
      simpa [List.length_pos_iff] using hdefect
    · -- It is one of those above, where the levels count from the next.
      rw [hcheck] at h
      obtain ⟨i, other, hother, hlower, hdefect⟩ := ih (level + 1) hrest h
      refine ⟨i + 1, other, by simpa using hother, ?_, ?_⟩
      · intro j hj
        cases j with
        | zero => exact inPlaceAt_zero.mpr hplace
        | succ j => exact (inPlaceAt_succ j).mpr (hlower j (by omega))
      · have hlevel : level + (i + 1) = level + 1 + i := by omega
        rw [hlevel]
        simpa using hdefect

section
variable {chain : Chain} {levels : List Nat} {pending : Nat}

/-- The check of a table finds nothing exactly where it is consistent. -/
theorem check?_eq_none_iff :
    chain.check? levels pending = none ↔ chain.Consistent levels pending := by
  unfold check?
  by_cases hcount : chain.layers.length ≠ levels.length ∨ chain.pending ≠ pending
  · rw [if_pos hcount]
    simp only [reduceCtorEq, false_iff]
    intro h
    rcases hcount with hdepth | hpending
    · exact hdepth h.depth
    · exact hpending h.pending
  · rw [if_neg hcount]
    obtain ⟨hdepth, hpending⟩ : chain.layers.length = levels.length ∧ chain.pending = pending := by
      simpa using hcount
    rw [checkLayers?_eq_none_iff chain.name 0 hdepth]
    exact ⟨fun h => ⟨hdepth, hpending, h⟩, fun h => h.inPlace⟩

/-- The error for a table: its counts are wrong, or they are right and the
oldest layer that is not in place has this defect. -/
inductive Flaw (chain : Chain) (levels : List Nat) (pending : Nat) : StateError → Prop
  | counts (h : chain.layers.length ≠ levels.length ∨ chain.pending ≠ pending) :
      Flaw chain levels pending
        (.depthMismatch chain.name (levels.length - min pending levels.length) chain.depth)
  | level (hdepth : chain.layers.length = levels.length) (hpending : chain.pending = pending)
      {i : Nat} {layer : Layer} (hlayer : chain.layers[i]? = some layer)
      (hlower : ∀ j < i, InPlaceAt chain.layers levels j) {error : StateError}
      (hdefect : layer.Defect chain.name i levels[i]? (i + 1 < chain.layers.length) error) :
      Flaw chain levels pending error

/-- A table with a flaw is not consistent. -/
theorem Flaw.not_consistent {error : StateError} (h : chain.Flaw levels pending error) :
    ¬ chain.Consistent levels pending := by
  intro hconsistent
  cases h with
  | counts hcount =>
    rcases hcount with hdepth | hpending
    · exact hdepth hconsistent.depth
    · exact hpending hconsistent.pending
  | level _ _ hlayer _ hdefect => exact (hconsistent.inPlace _ _ hlayer).not_defect hdefect

theorem check?_eq_some {error : StateError} (h : chain.check? levels pending = some error) :
    chain.Flaw levels pending error := by
  unfold check? at h
  split at h
  · rename_i hcount
    cases h
    exact .counts hcount
  · rename_i hcount
    obtain ⟨hdepth, hpending⟩ : chain.layers.length = levels.length ∧ chain.pending = pending := by
      simpa using hcount
    obtain ⟨i, layer, hlayer, hlower, hdefect⟩ := checkLayers?_eq_some chain.name 0 hdepth h
    rw [Nat.zero_add] at hdefect
    exact .level hdepth hpending hlayer hlower hdefect

end

end Chain

/-! ### All tables -/

/-- Numbers that increase from each to the next increase altogether. -/
theorem increasing_iff (levels : List Nat) :
    increasing levels = true ↔ levels.Pairwise (· < ·) := by
  refine ⟨fun h => ?_, increasing_of_pairwise⟩
  induction levels with
  | nil => exact .nil
  | cons a rest ih =>
    cases rest with
    | nil => exact List.pairwise_singleton _ _
    | cons b rest =>
      have hsteps : a < b ∧ increasing (b :: rest) = true := by simpa [increasing] using h
      have hrest := ih hsteps.2
      refine List.pairwise_cons.mpr ⟨fun seq hmem => ?_, hrest⟩
      rcases List.mem_cons.mp hmem with rfl | hlater
      · exact hsteps.1
      · have hlt := (List.pairwise_cons.mp hrest).1 seq hlater
        omega

/-- The check of the chains finds nothing exactly where the levels increase
and every table is consistent with them. Where the levels increase, what it
finds is a flaw of the first table that is not. -/
theorem checkChains?_decides (tables : List Chain) (levels : List Nat) (pending : Nat) :
    (checkChains? tables levels pending = none ↔
      levels.Pairwise (· < ·) ∧ ∀ chain ∈ tables, chain.Consistent levels pending) ∧
    ∀ error, levels.Pairwise (· < ·) → checkChains? tables levels pending = some error →
      ∃ before chain after, tables = before ++ chain :: after ∧
        (∀ other ∈ before, other.Consistent levels pending) ∧
        ¬ chain.Consistent levels pending ∧ chain.Flaw levels pending error := by
  unfold checkChains?
  constructor
  · rw [← increasing_iff]
    cases increasing levels with
    | false => simp
    | true => simp [List.findSome?_eq_none_iff, Chain.check?_eq_none_iff]
  · intro error hincreasing h
    rw [(increasing_iff levels).mpr hincreasing] at h
    obtain ⟨before, chain, after, htables, hchain, hbefore⟩ := List.findSome?_eq_some_iff.mp h
    have hflaw := Chain.check?_eq_some hchain
    refine ⟨before, chain, after, htables, fun other hmem => ?_, hflaw.not_consistent, hflaw⟩
    exact Chain.check?_eq_none_iff.mp (hbefore other hmem)

/-- Of two tables that are wrong, the one that comes first is found. -/
theorem checkChains?_decides_second :
    let tables : List Chain := [⟨"a", "a", [Layer.new 1], 0⟩, ⟨"b", "b", [Layer.new 2], 0⟩,
      ⟨"c", "c", [], 0⟩]
    [1].Pairwise (· < ·) ∧
    checkChains? tables [1] 0 =
      some (.malformedChain "b" 0 "layer sequence number differs from its level") ∧
    ∃ before chain after, tables = before ++ chain :: after ∧
      (∀ other ∈ before, other.Consistent [1] 0) ∧ ¬ chain.Consistent [1] 0 ∧
      chain.Flaw [1] 0 (.malformedChain "b" 0 "layer sequence number differs from its level") := by
  have hincreasing : [1].Pairwise (· < ·) := List.pairwise_singleton _ _
  exact ⟨hincreasing, by rfl, (checkChains?_decides _ _ _).2 _ hincreasing (by rfl)⟩

end LayeredStore
