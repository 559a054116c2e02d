import LayeredStore.Proofs.Silence
import LayeredStore.Proofs.Digests

/-!
# `LayeredStore.Proofs.Commitments`: what the digest of a commit covers

The event of a commit carries one digest for the layers of all tables. It
is the digest of their digests, one behind the other in the order of the
tables.

* `World.CommitsOnce`: a change publishes no commit, or that of the open
  unit of work, with the digest over the newest layers. `act_commitsOnce`
  says this of every move.
* `World.Covers` ties a commit that a run published to the layers that it
  committed, one on each table. `exists_covers` says that every commit has
  such layers.
* `digests_commit_to_contents`: two commits, of one run or of two, carry
  the same digest exactly if they cover the same number of tables and the
  same entries on each, under the same number.
-/

set_option autoImplicit false

namespace LayeredStore

open World Operation

/-! ### What a move commits -/

/-- What is done to the newest live layer is seen where this layer is read. -/
theorem Chain.head?_modifyHead (chain : Chain) (f : Layer → Layer) :
    (chain.modifyHead f).head? = chain.head?.map f := by
  by_cases hdepth : chain.depth = 0
  · rw [modifyHead, if_pos hdepth, head?, if_pos hdepth]
    rfl
  · have hmodified : (chain.modifyHead f).depth = chain.depth := by
      rw [modifyHead, if_neg hdepth, depth, depth, modifyLayer, List.length_modify]
    rw [head?, hmodified, if_neg hdepth, head?, if_neg hdepth, modifyHead, if_neg hdepth,
      modifyLayer, List.getLast?_eq_getElem?, List.getLast?_eq_getElem?, List.length_modify,
      List.getElem?_modify]
    simp

namespace World

/-- Between the two worlds no commit was published, or one of the unit of
work that was open, with the digest over the newest live layers. -/
def CommitsOnce (w w' : World) : Prop :=
  w'.db.coordinator.commits = w.db.coordinator.commits ∨
    ∃ seq, w.db.coordinator.openSeq? = some seq ∧
      w'.db.coordinator.commits =
        w.db.coordinator.commits ++ [(seq, w.db.coordinator.sealHeads.headsDigest)]

theorem CommitsOnce.silent {α : Type} {w w' : World} (h : w.CommitsOnce w') {body : Operation α}
    (hbody : Silent body) : body.Ends w' fun _ w'' => w.CommitsOnce w'' := by
  refine (hbody w').mono fun _ w'' hsame => ?_
  rw [CommitsOnce, hsame]
  exact h

end World

namespace Operation

/-- Committing the unit of work publishes one commit, or none for a unit
that writes straight into the roots, and none if no one hears of it. -/
theorem finishUnit_commitsOnce (w : World) : finishUnit.Ends w fun _ w' => w.CommitsOnce w' := by
  apply finishUnit_rule
  case idle => exact fun _ => .inl rfl
  case passed =>
    intro _ _ _
    refine CommitsOnce.silent ?_ silent_settleForced
    exact .inl rfl
  case sealed =>
    rintro unit seq c hunit hseq rfl
    have hopen : w.db.coordinator.openSeq? = some seq := by
      rw [Coordinator.openSeq?_of_some hunit, hseq]
    have hcommits := w.db.coordinator.withoutUnit.sealHeads.commits_announce
      (.commitSession seq w.db.coordinator.sealHeads.headsDigest)
    refine CommitsOnce.silent ?_ silent_settleForced
    split at hcommits
    · exact .inr ⟨seq, hopen, hcommits⟩
    · exact .inl hcommits

/-- Committing a session commits the unit of work if it is the last to be
resolved and none before it has failed. -/
theorem commitSession_commitsOnce (w : World) (session : Nat) :
    (commitSession session).Ends w fun _ w' => w.CommitsOnce w' := by
  apply commitSession_rule
  case committed => exact fun _ => .inl rfl
  case failed => exact fun _ => .inl rfl
  case refused => exact fun _ _ _ => .inl rfl
  case stray => exact fun _ _ _ => .inl rfl
  case resolved =>
    intro unit _ _ _ _ w₁
    -- How sessions stand matters neither to the layers nor to the commits.
    have hsame : w.CommitsOnce w₁ := .inl rfl
    refine ⟨fun _ => hsame, fun _ _ => ?_, fun _ _ => finishUnit_commitsOnce w₁⟩
    -- A unit of work that has failed is discarded after all.
    exact (hsame.silent silent_revokeUnit).mono_cases (fun _ _ => id) fun _ _ => id

end Operation

namespace World

/-- No move publishes more than one commit, and none but that of the open
unit of work. -/
theorem act_commitsOnce (w : World) (move : Move) : w.CommitsOnce (move.act w) := by
  have hsame : w.CommitsOnce w := .inl rfl
  -- The lock adds nothing to what is published, whether it lets anyone in or not.
  have hlocked : ∀ {body : Operation Unit}, (body.Ends w fun _ w' => w.CommitsOnce w') →
      (locked body).Ends w fun _ w' => w.CommitsOnce w' := by
    intro body h
    rw [ends_locked]
    split
    · exact hsame
    · refine h.mono fun r w' hend => ?_
      match r with
      | .ok _ => exact hend
      | .error (.error _) => exact hend
      | .error .panic => exact hend
  cases move with
  | setPlan store plan => exact hsame
  | close => exact hsame.silent Database.silent_drop
  | call command =>
    by_cases hcommits : command.Commits
    swap
    · exact hsame.silent (Command.silent_run hcommits)
    cases command with
    | commitSession session =>
      have hcommit : session.commit.Ends w fun _ w' => w.CommitsOnce w' := by
        unfold Session.commit
        rw [ends_useUp]
        refine (hlocked (commitSession_commitsOnce w session.id)).mono fun r w₁ hend => ?_
        refine (hend.silent session.silent_drop).mono fun later w' hend' => ?_
        cases r <;> cases later <;> exact hend'
      have hrun : (Command.commitSession session).run.Ends w fun _ w' => w.CommitsOnce w' :=
        Ends.done hcommit
      exact hrun
    | commit =>
      have hcommit : commitInnermost.Ends w fun _ w' => w.CommitsOnce w' := by
        rw [ends_commitInnermost]
        cases w.db.coordinator.innermost? with
        | none => exact hsame
        | some session => exact commitSession_commitsOnce w session
      have hrun : Command.commit.run.Ends w fun _ w' => w.CommitsOnce w' :=
        Ends.done (hlocked hcommit)
      exact hrun
    | _ => cases hcommits

/-! ### The layers of a commit -/

/-- The run published this commit of these layers: before the move that
published it, they were the newest live layers of the tables, one of each.
Here they are as the commit seals them. -/
def Covers (w : World) (moves : List Move) (commit : Nat × Digest) (layers : List Layer) : Prop :=
  ∃ before move after, moves = before ++ move :: after ∧
    (move.act (w.play before)).db.coordinator.commits =
      (w.play before).db.coordinator.commits ++ [commit] ∧
    (w.play before).db.coordinator.sealHeads.tables.map (·.head?) = layers.map some

end World

/-- What is found of every item is found of all of them. -/
theorem exists_map_eq_map_some {α β : Type} {f : α → Option β} {P : β → Prop} {items : List α}
    (h : ∀ a ∈ items, ∃ b, f a = some b ∧ P b) :
    ∃ found : List β, items.map f = found.map some ∧ ∀ b ∈ found, P b := by
  induction items with
  | nil => exact ⟨[], rfl, nofun⟩
  | cons a items ih =>
    obtain ⟨b, hb, hP⟩ := h a List.mem_cons_self
    obtain ⟨found, hfound, hall⟩ := ih fun c hc => h c (List.mem_cons_of_mem _ hc)
    refine ⟨b :: found, ?_, List.forall_mem_cons.mpr ⟨hP, hall⟩⟩
    rw [List.map_cons, hb, hfound, List.map_cons]

/-- While a unit of work with a layer is open, every table has a newest live
layer, which is that of the unit. -/
theorem Coordinator.Sound.exists_sealedHeads {c : Coordinator} (h : c.Sound) {seq : Nat}
    (hopen : c.openSeq? = some seq) :
    ∃ layers : List Layer, c.sealHeads.tables.map (·.head?) = layers.map some ∧
      ∀ layer ∈ layers, layer.seq = seq := by
  refine exists_map_eq_map_some fun sealed hmem => ?_
  obtain ⟨chain, hchain, rfl⟩ := List.mem_map.mp hmem
  have hlive := h.openLive (Option.isSome_iff_exists.mpr ⟨seq, hopen⟩)
  obtain ⟨older, head, hlayers, hlevels⟩ := (h.chains chain hchain).exists_head hlive
  have hdepth := (h.chains chain hchain).depth_pos hlive
  have hhead : chain.head? = some head := by
    rw [Chain.head?, if_neg (Nat.ne_of_gt hdepth), hlayers, List.getLast?_concat]
  have hlast := h.openLast seq hopen
  rw [hlevels, List.getLast?_concat] at hlast
  refine ⟨head.commit, ?_, Option.some.inj hlast⟩
  rw [Chain.head?_modifyHead, hhead, Option.map_some]

namespace World

section
variable {disk : Disk} {configuration : Configuration} {journal : String} {handlers : List Handler}
  {moves : List Move}

/-- What covers some layers carries their number and the digest of their
digests. -/
theorem Covers.spec {seq : Nat} {digest : Digest} {layers : List Layer}
    (h : Covers (opened disk configuration journal handlers) moves (seq, digest) layers) :
    digest = Layer.combinedDigest layers ∧ ∀ layer ∈ layers, layer.seq = seq := by
  obtain ⟨before, move, after, -, hcommits, hheads⟩ := h
  have hsound := play_sound disk configuration journal handlers before
  generalize (opened disk configuration journal handlers).play before = u at *
  rcases act_commitsOnce u move with hsame | ⟨number, hopen, hnew⟩
  · rw [hsame] at hcommits
    simp at hcommits
  · have hcommit := List.append_cancel_left (hcommits.symm.trans hnew)
    obtain ⟨rfl, rfl⟩ := Prod.mk.inj (List.singleton_inj.mp hcommit)
    obtain ⟨sealed, hsealed, hseqs⟩ := hsound.exists_sealedHeads hopen
    have hlayers : layers = sealed :=
      (List.map_inj_right fun _ _ => Option.some.inj).mp (hheads.symm.trans hsealed)
    have hfilter : u.db.coordinator.sealHeads.tables.filterMap (·.head?) = layers :=
      calc u.db.coordinator.sealHeads.tables.filterMap (·.head?)
        _ = (u.db.coordinator.sealHeads.tables.map (·.head?)).filterMap id := by
          rw [List.filterMap_map, Function.id_comp]
        _ = layers := by
          rw [hheads, List.filterMap_map, Function.id_comp, List.filterMap_some]
    constructor
    · rw [Coordinator.headsDigest, hfilter, Layer.combinedDigest]
    · exact hlayers ▸ hseqs

/-- Every commit that a run has published covers layers, one of each
table. -/
theorem exists_covers {commit : Nat × Digest}
    (h : commit ∈
      ((opened disk configuration journal handlers).play moves).db.coordinator.commits) :
    ∃ layers, Covers (opened disk configuration journal handlers) moves commit layers := by
  induction moves using List.reverseRecOn with
  | nil => cases h
  | append_singleton moves move ih =>
    rw [play_snoc] at h
    -- A commit of the run before the last move still covers what it covered.
    have hold : commit ∈
        ((opened disk configuration journal handlers).play moves).db.coordinator.commits →
        ∃ layers, Covers (opened disk configuration journal handlers) (moves ++ [move]) commit
          layers := by
      intro hmem
      obtain ⟨layers, before, earlier, after, rfl, hcovers⟩ := ih hmem
      exact ⟨layers, before, earlier, after ++ [move], by simp, hcovers⟩
    rcases act_commitsOnce ((opened disk configuration journal handlers).play moves) move with
      hsame | ⟨seq, hopen, hnew⟩
    · exact hold (hsame ▸ h)
    · rw [hnew] at h
      rcases List.mem_append.mp h with hmem | hmem
      · exact hold hmem
      · obtain rfl := List.mem_singleton.mp hmem
        have hsound := play_sound disk configuration journal handlers moves
        obtain ⟨layers, hlayers, -⟩ := hsound.exists_sealedHeads hopen
        exact ⟨layers, moves, move, [], rfl, hnew, hlayers⟩

end

end World

/-- Layers under one number each say the same if their entries are the same
and, where there are any layers, the number is. -/
theorem Layer.map_content_eq_iff {layers others : List Layer} {seq seq' : Nat}
    (hlayers : ∀ layer ∈ layers, layer.seq = seq) (hothers : ∀ layer ∈ others, layer.seq = seq') :
    layers.map content = others.map content ↔
      layers.map (·.diff) = others.map (·.diff) ∧ (0 < layers.length → seq = seq') := by
  have hnumbered : ∀ {layers : List Layer} {seq : Nat}, (∀ layer ∈ layers, layer.seq = seq) →
      layers.map content = (layers.map (·.diff)).map (seq, ·) := by
    intro layers seq hseqs
    rw [List.map_map]
    exact List.map_congr_left fun layer hmem => Prod.ext (hseqs layer hmem) rfl
  rw [hnumbered hlayers, hnumbered hothers]
  constructor
  · intro h
    constructor
    · simpa [Function.comp_def] using congrArg (List.map Prod.snd) h
    · intro hlength
      -- The number stands in front of every one of the entries.
      cases layers with
      | nil => cases hlength
      | cons layer layers =>
        cases others with
        | nil => cases h
        | cons other others => exact (Prod.mk.inj (List.cons.inj h).1).1
  · rintro ⟨hdiffs, hseq⟩
    cases layers with
    | nil =>
      obtain rfl := List.map_eq_nil_iff.mp hdiffs.symm
      rfl
    | cons layer layers => rw [hdiffs, hseq (Nat.succ_pos _)]

/-- The bytes that are hashed for a layer tell its number and all of its
entries, as long as these can be encoded. So it is with commits. Every
commit that a run publishes covers layers, one of each table. If no two of
the encodings collide, two commits have the same digest exactly if they
cover the same number of tables, with the same entries on each and, where
there are tables, under the same number. -/
theorem World.digests_commit_to_contents :
    (∀ layer other : Layer, layer.Fits → other.Fits → layer.digestInput = other.digestInput →
      layer.seq = other.seq ∧ layer.diff = other.diff) ∧
    ∀ (disk disk' : Disk) (configuration configuration' : Configuration) (journal journal' : String)
      (handlers handlers' : List Handler) (moves moves' : List Move),
      let w := opened disk configuration journal handlers
      let w' := opened disk' configuration' journal' handlers'
      (∀ commit ∈ (w.play moves).db.coordinator.commits,
        ∃ layers, w.Covers moves commit layers) ∧
      ∀ (seq seq' : Nat) (digest digest' : Digest) (layers layers' : List Layer),
        w.Covers moves (seq, digest) layers → w'.Covers moves' (seq', digest') layers' →
        (∀ layer ∈ layers, layer.Fits) → (∀ layer ∈ layers', layer.Fits) →
        Sha256.CollisionFree (Layer.hashedFor layers ++ Layer.hashedFor layers') →
        (∀ layer ∈ layers, layer.seq = seq) ∧ (∀ layer ∈ layers', layer.seq = seq') ∧
        (digest = digest' ↔ layers.length = layers'.length ∧
          layers.map (·.diff) = layers'.map (·.diff) ∧ (0 < layers.length → seq = seq')) := by
  refine ⟨fun layer other => Layer.eq_of_digestInput_eq, ?_⟩
  intro disk disk' configuration configuration' journal journal' handlers handlers' moves moves'
    w w'
  refine ⟨fun commit hcommit => exists_covers hcommit, ?_⟩
  intro seq seq' digest digest' layers layers' hcovers hcovers' hfits hfits' hfree
  obtain ⟨rfl, hseqs⟩ := hcovers.spec
  obtain ⟨rfl, hseqs'⟩ := hcovers'.spec
  refine ⟨hseqs, hseqs', ?_⟩
  calc Layer.combinedDigest layers = Layer.combinedDigest layers'
    _ ↔ layers.map Layer.content = layers'.map Layer.content :=
      Layer.combinedDigest_eq_iff hfits hfits' hfree
    _ ↔ layers.map (·.diff) = layers'.map (·.diff) ∧ (0 < layers.length → seq = seq') :=
      Layer.map_content_eq_iff hseqs hseqs'
    _ ↔ layers.length = layers'.length ∧ layers.map (·.diff) = layers'.map (·.diff) ∧
        (0 < layers.length → seq = seq') := by
      constructor
      · intro h
        have hlength := congrArg List.length h.1
        simp only [List.length_map] at hlength
        exact ⟨hlength, h⟩
      · exact And.right

/-- Two runs commit one entry each, and the digests differ because the
values do. -/
theorem World.digests_commit_to_contents_values :
    let w := opened .empty {} "journal" [⟨.commitSession, false⟩]
    let before : Bytes → List Move := fun value =>
      [.call (.addTable "a" "left"), .call (.openSession false),
        .call (.write ⟨0, "a"⟩ [1] (.value value))]
    let commit : Move := .call (.commitSession ⟨0, false, false⟩)
    let sealed : Bytes → Coordinator := fun value =>
      (w.play (before value)).db.coordinator.sealHeads
    let heads : Bytes → List Layer := fun value => (sealed value).tables.filterMap (·.head?)
    w.Covers (before [10] ++ [commit]) (1, (sealed [10]).headsDigest) (heads [10]) ∧
      w.Covers (before [11] ++ [commit]) (1, (sealed [11]).headsDigest) (heads [11]) ∧
      (sealed [10]).headsDigest ≠ (sealed [11]).headsDigest := by
  intro w before commit sealed heads
  have hten : w.Covers (before [10] ++ [commit]) (1, (sealed [10]).headsDigest) (heads [10]) :=
    ⟨before [10], commit, [], rfl, by decide +kernel, by decide +kernel⟩
  have heleven : w.Covers (before [11] ++ [commit]) (1, (sealed [11]).headsDigest) (heads [11]) :=
    ⟨before [11], commit, [], rfl, by decide +kernel, by decide +kernel⟩
  refine ⟨hten, heleven, fun heq => ?_⟩
  have hagree := ((digests_commit_to_contents.2 .empty .empty {} {} "journal" "journal"
    [⟨.commitSession, false⟩] [⟨.commitSession, false⟩] (before [10] ++ [commit])
    (before [11] ++ [commit])).2 1 1 _ _ (heads [10]) (heads [11]) hten heleven
    (by decide +kernel) (by decide +kernel) (by decide +kernel)).2.2.mp heq
  have hdiffer : (heads [10]).map (·.diff) ≠ (heads [11]).map (·.diff) := by decide +kernel
  exact hdiffer hagree.2.1

end LayeredStore
