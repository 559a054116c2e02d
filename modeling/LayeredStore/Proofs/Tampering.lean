import LayeredStore.Proofs.Popping
import LayeredStore.Proofs.Digests

/-!
# `LayeredStore.Proofs.Tampering`: a verified pop finds what was altered

Every write to a committed layer seals it anew. So while no unit of work
is open, the seal of every layer is the digest of its entries, and someone
who changes entries without sealing the layer again leaves a seal that
belongs to other entries.

* `Coordinator.tamper` changes the entries of any layers of any tables and
  nothing else.
* `Layer.sealMatches_withDiff_iff`: where no two digests collide, a seal
  still matches exactly if the entries are those that were sealed.
* `Coordinator.Aligned.notPoppable?_cases`: among tables that have the
  same numbers and are committed, a pop finds nothing wrong but a seal.
* `popMany_detects_tampering`: a verified pop succeeds exactly if none of
  the layers that it would discard was altered, and else it names one that
  was and discards nothing. A fast pop does not look.
-/

set_option autoImplicit false

namespace LayeredStore

/-! ### Seals -/

namespace Layer

/-- A committed layer whose seal matches is sealed with its digest. -/
theorem sealedAs_eq {layer : Layer} (hcommitted : layer.committed = true)
    (hseal : layer.sealMatches = true) : layer.sealedAs = some layer.digest := by
  obtain ⟨sealed, hsealed⟩ := Option.isSome_iff_exists.mp hcommitted
  rw [sealMatches, hsealed] at hseal
  rw [hsealed, beq_iff_eq.mp hseal]

/-- The layer with other entries and the old seal. -/
def withDiff (layer : Layer) (diff : Diff) : Layer := { layer with diff := diff }

/-- The seal matches other entries only if they are the ones that were
sealed. -/
theorem sealMatches_withDiff_iff {layer : Layer} {diff : Diff}
    (hsealed : layer.sealedAs = some layer.digest) (hfits : layer.Fits)
    (hfits' : (layer.withDiff diff).Fits) {inputs : List Bytes}
    (hfree : Sha256.CollisionFree inputs) (hmem : layer.digestInput ∈ inputs)
    (hmem' : (layer.withDiff diff).digestInput ∈ inputs) :
    (layer.withDiff diff).sealMatches = true ↔ diff = layer.diff := by
  have hmatch : (layer.withDiff diff).sealMatches =
      (layer.digest == (layer.withDiff diff).digest) := by
    have hkept : (layer.withDiff diff).sealedAs = some layer.digest := hsealed
    rw [sealMatches, hkept]
  rw [hmatch, beq_iff_eq, digest_eq_iff hfits hfits' hfree hmem hmem']
  constructor
  · intro h
    exact h.2.symm
  · intro h
    exact ⟨rfl, h.symm⟩

end Layer

/-! ### Altered tables -/

/-- The table after the entries of its layers were changed, level by
level. -/
def Chain.tamper (chain : Chain) (edit : (level : Nat) → Diff → Diff) : Chain :=
  { chain with
    layers := chain.layers.mapIdx fun level layer => layer.withDiff (edit level layer.diff) }

namespace Coordinator

/-- The coordinator after the entries of any layers of any tables were
changed, and nothing else. -/
def tamper (c : Coordinator) (edit : (table level : Nat) → Diff → Diff) : Coordinator :=
  { c with tables := c.tables.mapIdx fun table chain => chain.tamper (edit table) }

/-- The layers of all tables at the `count` newest levels. -/
def newestLayers (c : Coordinator) (count : Nat) : List Layer :=
  c.tables.flatMap fun chain => chain.layers.drop (c.levels.length - count)

/-- The layer is that of the table at the level, which is among the `count`
newest. -/
structure AmongNewest (c : Coordinator) (count table level : Nat) (chain : Chain) (layer : Layer) :
    Prop where
  registered : c.tables[table]? = some chain
  held : chain.layers[level]? = some layer
  newest : c.levels.length ≤ level + count

section
variable {c : Coordinator} {count : Nat}

/-- The layers at the newest levels are the newest of a table. -/
theorem AmongNewest.mem_drop {table level : Nat} {chain : Chain} {layer : Layer}
    (h : c.AmongNewest count table level chain layer) :
    layer ∈ chain.layers.drop (c.levels.length - count) := by
  have hle : c.levels.length - count ≤ level := Nat.sub_le_of_le_add h.newest
  obtain ⟨place, rfl⟩ := Nat.exists_eq_add_of_le hle
  refine List.mem_of_getElem? (i := place) ?_
  rw [List.getElem?_drop]
  exact h.held

theorem AmongNewest.mem_newestLayers {table level : Nat} {chain : Chain} {layer : Layer}
    (h : c.AmongNewest count table level chain layer) : layer ∈ c.newestLayers count :=
  List.mem_flatMap.mpr ⟨chain, List.mem_of_getElem? h.registered, h.mem_drop⟩

theorem exists_amongNewest {chain : Chain} {layer : Layer} (hchain : chain ∈ c.tables)
    (hlayer : layer ∈ chain.layers.drop (c.levels.length - count)) :
    ∃ table level, c.AmongNewest count table level chain layer := by
  obtain ⟨table, hregistered⟩ := List.mem_iff_getElem?.mp hchain
  obtain ⟨place, hheld⟩ := List.mem_iff_getElem?.mp hlayer
  rw [List.getElem?_drop] at hheld
  exact ⟨table, _, hregistered, hheld, by omega⟩

variable (edit : (table level : Nat) → Diff → Diff)

/-- Every layer is found altered in its altered table. -/
theorem AmongNewest.altered {table level : Nat} {chain : Chain} {layer : Layer}
    (h : c.AmongNewest count table level chain layer) :
    (c.tamper edit).AmongNewest count table level (chain.tamper (edit table))
      (layer.withDiff (edit table level layer.diff)) where
  registered := by rw [tamper, List.getElem?_mapIdx, h.registered, Option.map_some]
  held := by rw [Chain.tamper, List.getElem?_mapIdx, h.held, Option.map_some]
  newest := h.newest

/-- An altered table has no other layers. -/
theorem AmongNewest.of_altered {table level : Nat} {chain' : Chain} {layer' : Layer}
    (h : (c.tamper edit).AmongNewest count table level chain' layer') :
    ∃ chain layer, c.AmongNewest count table level chain layer ∧ chain'.name = chain.name ∧
      layer' = layer.withDiff (edit table level layer.diff) := by
  obtain ⟨hregistered, hheld, hnewest⟩ := h
  rw [tamper, List.getElem?_mapIdx] at hregistered
  obtain ⟨chain, hchain, rfl⟩ := Option.map_eq_some_iff.mp hregistered
  rw [Chain.tamper, List.getElem?_mapIdx] at hheld
  obtain ⟨layer, hlayer, rfl⟩ := Option.map_eq_some_iff.mp hheld
  exact ⟨chain, layer, ⟨hchain, hlayer, hnewest⟩, rfl, rfl⟩

end

/-! ### What a pop finds wrong -/

/-- The tables have the levels' numbers and are committed. -/
def Aligned (c : Coordinator) : Prop :=
  ∀ chain ∈ c.tables, chain.layers.map (·.seq) = c.levels ∧
    ∀ layer ∈ chain.layers, layer.committed = true

/-- While no unit of work is open, the tables of a sound coordinator are
aligned, and every layer is sealed with its digest. -/
theorem Sound.aligned {c : Coordinator} (h : c.Sound) (hunit : c.openUnit = none) :
    c.Aligned ∧ ∀ chain ∈ c.tables, ∀ layer ∈ chain.layers,
      layer.sealedAs = some layer.digest := by
  have hopen : c.openSeq? = none := openSeq?_of_none hunit
  have hcommitted : ∀ chain ∈ c.tables, ∀ layer ∈ chain.layers, layer.committed = true := by
    intro chain hchain layer hlayer
    rw [(h.chains chain hchain).committed layer hlayer, hopen]
    exact nofun
  refine ⟨fun chain hchain => ⟨(h.chains chain hchain).seqs, hcommitted chain hchain⟩, ?_⟩
  intro chain hchain layer hlayer
  exact Layer.sealedAs_eq (hcommitted chain hchain layer hlayer)
    ((h.chains chain hchain).seals layer hlayer)

/-- Altered tables are still aligned. -/
theorem Aligned.tamper {c : Coordinator} (h : c.Aligned)
    (edit : (table level : Nat) → Diff → Diff) : (c.tamper edit).Aligned := by
  intro chain' hmem
  obtain ⟨table, htable, rfl⟩ := List.mem_mapIdx.mp hmem
  obtain ⟨hseqs, hcommitted⟩ := h _ (List.getElem_mem htable)
  constructor
  · refine Eq.trans (List.ext_getElem? fun level => ?_) hseqs
    rw [Chain.tamper, List.getElem?_map, List.getElem?_mapIdx, List.getElem?_map, Option.map_map]
    rfl
  · intro layer' hlayer
    obtain ⟨level, hlevel, rfl⟩ := List.mem_mapIdx.mp hlayer
    show (c.tables[table].layers[level]).committed = true
    exact hcommitted _ (List.getElem_mem hlevel)

/-- Among committed layers with the levels' numbers, the check finds the
first whose seal does not match, if it looks at seals. -/
theorem checkPop?_eq_of_committed {operation : String} {verify : Bool} {table : String}
    {level : Nat} {layers : List Layer} (h : ∀ layer ∈ layers, layer.committed = true) :
    checkPop? operation verify table level layers (layers.map (·.seq)) =
      (layers.find? fun layer => verify && !layer.sealMatches).map
        fun layer => .sealMismatch table layer.seq := by
  induction layers generalizing level with
  | nil => rfl
  | cons layer layers ih =>
    have hlayer := h layer List.mem_cons_self
    have hrest := @ih (level + 1) fun other hmem => h other (List.mem_cons_of_mem _ hmem)
    rw [List.map_cons, checkPop?, if_neg (by simp), if_neg (by simp [hlayer]), hrest,
      List.find?_cons]
    cases verify && !layer.sealMatches <;> rfl

/-- A pop of such tables finds nothing, or it looks at seals and finds one
that does not match among the layers that it would discard. -/
theorem Aligned.notPoppable?_cases {c : Coordinator} (h : c.Aligned) (operation : String)
    (count : Nat) (verify : Bool) :
    (c.notPoppable? operation count verify = none ∧ (verify = true →
      ∀ table level chain layer, c.AmongNewest count table level chain layer →
        layer.sealMatches = true)) ∨
    (verify = true ∧ ∃ table level chain layer, c.AmongNewest count table level chain layer ∧
      layer.sealMatches = false ∧
      c.notPoppable? operation count verify = some (.sealMismatch chain.name layer.seq)) := by
  -- What is found on one table.
  have htable : ∀ chain ∈ c.tables,
      (if chain.layers.length ≠ c.levels.length then some (c.depthMismatch chain)
        else checkPop? operation verify chain.name (c.levels.length - count)
          (chain.layers.drop (c.levels.length - count)) (c.levels.drop (c.levels.length - count))) =
      ((chain.layers.drop (c.levels.length - count)).find?
        fun layer => verify && !layer.sealMatches).map
          fun layer => .sealMismatch chain.name layer.seq := by
    intro chain hmem
    obtain ⟨hseqs, hcommitted⟩ := h chain hmem
    have hlength : chain.layers.length = c.levels.length := by rw [← hseqs, List.length_map]
    have hdrop : c.levels.drop (c.levels.length - count) =
        (chain.layers.drop (c.levels.length - count)).map (·.seq) := by
      rw [List.map_drop, hseqs]
    rw [if_neg (not_not.mpr hlength), hdrop]
    exact checkPop?_eq_of_committed fun layer hlayer =>
      hcommitted layer (List.mem_of_mem_drop hlayer)
  unfold notPoppable?
  cases hfound : c.tables.findSome? _ with
  | none =>
    refine .inl ⟨rfl, fun hverify table level chain layer hnewest => ?_⟩
    have hchain := List.mem_of_getElem? hnewest.registered
    have hnone := List.findSome?_eq_none_iff.mp hfound chain hchain
    rw [htable chain hchain, Option.map_eq_none_iff, List.find?_eq_none] at hnone
    simpa [hverify] using hnone layer hnewest.mem_drop
  | some error =>
    obtain ⟨chain, hchain, herror⟩ := List.exists_of_findSome?_eq_some hfound
    rw [htable chain hchain] at herror
    obtain ⟨layer, hlayer, rfl⟩ := Option.map_eq_some_iff.mp herror
    have hbroken := List.find?_some hlayer
    rw [Bool.and_eq_true, Bool.not_eq_true'] at hbroken
    obtain ⟨table, level, hnewest⟩ :=
      exists_amongNewest hchain (List.mem_of_find?_eq_some hlayer)
    exact .inr ⟨hbroken.1, table, level, chain, layer, hnewest, hbroken.2, rfl⟩

end Coordinator

namespace Operation

open World

/-- Someone changes the entries of any layers in a database that runs, with
no unit of work open, and seals nothing anew. Before that, every layer was
sealed with the entries it had. Say that the layers which a pop looks at
can be encoded, now and as they were, and that no two of these encodings
collide. Then a verified pop succeeds exactly if the layers that it
discards have the entries that they were sealed with. Else it names one
that has not and discards nothing. A fast pop succeeds. -/
theorem popMany_detects_tampering (disk : Disk) (configuration : Configuration) (journal : String)
    (handlers : List Handler) (moves : List Move) (edit : (table level : Nat) → Diff → Diff)
    (count : Nat) :
    let w := (opened disk configuration journal handlers).play moves
    let c := w.db.coordinator
    let v := w.withCoordinator (c.tamper edit)
    c.stopped? = none → c.openUnit = none → 1 ≤ count → count ≤ c.depth →
    (∀ layer ∈ c.newestLayers count ++ (c.tamper edit).newestLayers count, layer.Fits) →
    Sha256.CollisionFree
      ((c.newestLayers count ++ (c.tamper edit).newestLayers count).map (·.digestInput)) →
    (∀ chain ∈ c.tables, ∀ layer ∈ chain.layers, layer.sealedAs = some layer.digest) ∧
    (((popMany count true).perform v).1 = .ok () ↔
      ∀ table level chain layer, c.AmongNewest count table level chain layer →
        edit table level layer.diff = layer.diff) ∧
    (((popMany count true).perform v).1 ≠ .ok () →
      ∃ table level chain layer, c.AmongNewest count table level chain layer ∧
        edit table level layer.diff ≠ layer.diff ∧
        (popMany count true).perform v =
          (.error (.error (.illegalState (.sealMismatch chain.name layer.seq))), v)) ∧
    ((popMany count false).perform v).1 = .ok () := by
  intro w c v hstopped hunit hcount hdepth hfits hfree
  have hsound : c.Sound := play_sound disk configuration journal handlers moves
  obtain ⟨haligned, hsealed⟩ := hsound.aligned hunit
  have hrefusal : ∀ verify, v.db.coordinator.popRefusal? count verify =
      ((c.tamper edit).notPoppable? (popName verify) count verify).map .illegalState :=
    fun verify => Coordinator.popRefusal?_eq_map hstopped hunit hcount hdepth
  have hpops : ∀ {verify}, (c.tamper edit).notPoppable? (popName verify) count verify = none →
      (popMany count verify).perform v = (.ok (), v.afterPops verify count) := by
    intro verify hnone
    rw [perform_popMany, hrefusal, hnone]
    rfl
  have hrefuses : ∀ {verify error},
      (c.tamper edit).notPoppable? (popName verify) count verify = some error →
      (popMany count verify).perform v = (.error (.error (.illegalState error)), v) := by
    intro verify error herror
    rw [perform_popMany, hrefusal, herror]
    rfl
  -- A seal is that of the altered entries only if these are the old ones.
  have hmatches : ∀ {table level chain layer}, c.AmongNewest count table level chain layer →
      ((layer.withDiff (edit table level layer.diff)).sealMatches = true ↔
        edit table level layer.diff = layer.diff) := by
    intro table level chain layer hnewest
    have hold := List.mem_append_left ((c.tamper edit).newestLayers count) hnewest.mem_newestLayers
    have hnew := List.mem_append_right (c.newestLayers count)
      (hnewest.altered edit).mem_newestLayers
    have hseal : layer.sealedAs = some layer.digest :=
      hsealed chain (List.mem_of_getElem? hnewest.registered) layer
        (List.mem_of_getElem? hnewest.held)
    exact Layer.sealMatches_withDiff_iff hseal (hfits _ hold) (hfits _ hnew) hfree
      (List.mem_map_of_mem hold) (List.mem_map_of_mem hnew)
  refine ⟨hsealed, ?_⟩
  have hfast : ((popMany count false).perform v).1 = .ok () := by
    rcases (haligned.tamper edit).notPoppable?_cases (popName false) count false with
      ⟨hnone, -⟩ | ⟨hverify, -⟩
    · rw [hpops hnone]
    · cases hverify
  rcases (haligned.tamper edit).notPoppable?_cases (popName true) count true with
    ⟨hnone, hall⟩ | ⟨-, table, level, chain', layer', hnewest', hbroken, herror⟩
  · -- All seals that are looked at match, so these layers are the old ones.
    have hok : ((popMany count true).perform v).1 = .ok () := by
      rw [hpops hnone]
    refine ⟨iff_of_true hok fun table level chain layer hnewest => ?_, fun hne => absurd hok hne,
      hfast⟩
    exact (hmatches hnewest).mp (hall rfl _ _ _ _ (hnewest.altered edit))
  · -- A seal that does not match is that of an altered layer.
    have hrefused := hrefuses herror
    obtain ⟨chain, layer, hnewest, hname, rfl⟩ := hnewest'.of_altered edit
    have hedited : edit table level layer.diff ≠ layer.diff := by
      intro hsame
      rw [(hmatches hnewest).mpr hsame] at hbroken
      cases hbroken
    refine ⟨iff_of_false ?_ fun h => hedited (h _ _ _ _ hnewest), fun _ => ?_, hfast⟩
    · rw [hrefused]
      exact nofun
    · rw [hname] at hrefused
      exact ⟨table, level, chain, layer, hnewest, hedited, hrefused⟩

/-- Of the two layers of a table the older was altered. A verified pop of
the newer one succeeds, one of both names the altered one, and a fast pop
of both succeeds. -/
theorem popMany_detects_tampering_below :
    let moves : List Move := [.call (.addTable "a" "left"), .call (.openSession false),
      .call (.commitSession ⟨0, false, false⟩), .call (.openSession false),
      .call (.commitSession ⟨1, false, false⟩)]
    let edit : (table level : Nat) → Diff → Diff := fun _ level diff =>
      if level = 0 then diff.insert [1] (.value [10]) else diff
    let w := (opened .empty {} "journal" []).play moves
    let v := w.withCoordinator (w.db.coordinator.tamper edit)
    ((popMany 1 true).perform v).1 = .ok () ∧
      (∃ table level chain layer, w.db.coordinator.AmongNewest 2 table level chain layer ∧
        edit table level layer.diff ≠ layer.diff ∧ (popMany 2 true).perform v =
          (.error (.error (.illegalState (.sealMismatch chain.name layer.seq))), v)) ∧
      ((popMany 2 false).perform v).1 = .ok () := by
  intro moves edit w v
  obtain ⟨-, hone, -, -⟩ := popMany_detects_tampering .empty {} "journal" [] moves edit 1
    (by decide +kernel) (by decide +kernel) (by decide) (by decide +kernel) (by decide +kernel)
    (by decide +kernel)
  obtain ⟨-, -, htwo, hfast⟩ := popMany_detects_tampering .empty {} "journal" [] moves edit 2
    (by decide +kernel) (by decide +kernel) (by decide) (by decide +kernel) (by decide +kernel)
    (by decide +kernel)
  refine ⟨hone.mpr fun table level chain layer hnewest => ?_, htwo (by decide +kernel), hfast⟩
  have hlevels : 2 ≤ level + 1 := hnewest.newest
  exact if_neg (by omega)

end Operation

end LayeredStore
