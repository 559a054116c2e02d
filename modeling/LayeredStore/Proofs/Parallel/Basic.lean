import LayeredStore.Proofs.Paths

/-!
# `LayeredStore.Proofs.Parallel.Basic`: changes that treat all tables alike

Two databases are compared whose tables are not the same. Most of what the
coordinator does to its tables it does to all of them in one way, whatever
they hold, and writes no entry by it. Such a change is the same change in
both.

* `Chain.WritesNothing` is a change to one chain that writes no entry, and
  `Chain.Blank` is what it keeps.
* `Coordinator.retabled` is a coordinator with other tables, and
  `Coordinator.Evenly` says of a change that it treats all tables alike.
* `evenly_push`, `evenly_discardHead`, `evenly_solidify`, ...: the changes
  that do.
-/

set_option autoImplicit false

namespace LayeredStore

/-- The event as it is without the digest over the newest layers of all
tables. -/
def Event.undigested : Event → Event
  | commitSession seq _ => commitSession seq []
  | event => event

theorem Event.undigested_commitSession (seq : Nat) (digest digest' : Digest) :
    (commitSession seq digest).undigested = (commitSession seq digest').undigested := rfl

/-! ### Chains -/

namespace Chain

/-- No layer of the chain says anything. -/
def Blank (chain : Chain) : Prop := ∀ layer ∈ chain.layers, layer.diff = .empty

/-- A change to a chain that writes no entry. -/
structure WritesNothing (g : Chain → Chain) : Prop where
  name_root : ∀ chain, (g chain).name = chain.name ∧ (g chain).root = chain.root
  blank : ∀ {chain}, chain.Blank → (g chain).Blank

theorem writesNothing_id : WritesNothing id := ⟨fun _ => ⟨rfl, rfl⟩, id⟩

theorem WritesNothing.comp {g k : Chain → Chain} (hk : WritesNothing k) (hg : WritesNothing g) :
    WritesNothing (k ∘ g) where
  name_root chain := ⟨(hk.name_root _).1.trans (hg.name_root chain).1,
    (hk.name_root _).2.trans (hg.name_root chain).2⟩
  blank h := hk.blank (hg.blank h)

theorem writesNothing_push (seq : Nat) : WritesNothing (·.push seq) where
  name_root _ := ⟨rfl, rfl⟩
  blank h layer hmem := by
    rcases List.mem_append.mp hmem with hold | hnew
    · exact h layer hold
    · rw [List.mem_singleton.mp hnew]
      rfl

theorem writesNothing_discardHead : WritesNothing discardHead where
  name_root := Coordinator.name_root_discardHead
  blank {chain} h := by
    unfold discardHead
    split
    · exact h
    · exact fun layer hmem => h layer (List.dropLast_subset _ hmem)

theorem writesNothing_solidify (count : Nat) : WritesNothing (·.solidify count) :=
  ⟨fun _ => ⟨rfl, rfl⟩, fun h => h⟩

theorem writesNothing_dropOldest (count : Nat) : WritesNothing (·.dropOldest count) :=
  ⟨fun _ => ⟨rfl, rfl⟩, fun h layer hmem => h layer (List.mem_of_mem_drop hmem)⟩

theorem writesNothing_commitHead : WritesNothing (·.modifyHead (·.commit)) where
  name_root := Coordinator.name_root_modifyHead _
  blank {chain} h layer hmem := by
    unfold modifyHead at hmem
    split at hmem
    · exact h layer hmem
    · obtain ⟨level, hlayer⟩ := List.getElem?_of_mem hmem
      unfold modifyLayer at hlayer
      rw [List.getElem?_modify] at hlayer
      obtain ⟨old, hold, rfl⟩ := Option.map_eq_some_iff.mp hlayer
      have hblank := h old (List.mem_of_getElem? hold)
      split
      · exact hblank
      · exact hblank

end Chain

/-! ### Coordinators -/

namespace Coordinator

variable {d : Coordinator} {f g : Coordinator → Coordinator}

/-- The coordinator with other tables. It has counted some changes more, and
it has published other events. -/
def retabled (d : Coordinator) (chains : List Chain) (ahead : Nat) (published : List Event) :
    Coordinator :=
  { d with
    tables := chains
    generation := ahead + d.generation
    published := published }

theorem retabled_self (d : Coordinator) : d.retabled d.tables 0 d.published = d := by
  unfold retabled
  rw [Nat.zero_add]

/-- A change that treats all tables alike and writes nothing to them. It does
not depend on what the tables hold, nor on how many there are. -/
structure Evenly (d : Coordinator) (f : Coordinator → Coordinator) : Prop where
  retabled : ∃ g, Chain.WritesNothing g ∧ ∀ chains ahead published,
    f (d.retabled chains ahead published) = (f d).retabled (chains.map g) ahead published
  published : (f d).published = d.published
  journal : (f d).journal = d.journal

/-- The coordinator's own tables are changed in this way too. -/
theorem Evenly.exists_map (h : d.Evenly f) : ∃ g, Chain.WritesNothing g ∧
    (f d).tables = d.tables.map g ∧ ∀ chains ahead published,
      f (d.retabled chains ahead published) = (f d).retabled (chains.map g) ahead published := by
  obtain ⟨g, hg, hretabled⟩ := h.retabled
  refine ⟨g, hg, ?_, hretabled⟩
  have hown := hretabled d.tables 0 d.published
  rw [retabled_self] at hown
  exact congrArg (·.tables) hown

/-- A change to other things than the tables. -/
theorem Evenly.settings
    (h : ∀ chains ahead published,
      f (d.retabled chains ahead published) = (f d).retabled chains ahead published)
    (hpublished : (f d).published = d.published) (hjournal : (f d).journal = d.journal) :
    d.Evenly f where
  retabled := ⟨id, Chain.writesNothing_id, fun chains ahead published => by rw [List.map_id, h]⟩
  published := hpublished
  journal := hjournal

theorem Evenly.comp (hf : d.Evenly f) (hg : (f d).Evenly g) : d.Evenly fun c => g (f c) where
  retabled := by
    obtain ⟨k, hk, hfirst⟩ := hf.retabled
    obtain ⟨l, hl, hsecond⟩ := hg.retabled
    refine ⟨l ∘ k, hl.comp hk, fun chains ahead published => ?_⟩
    rw [hfirst, hsecond, List.map_map]
  published := hg.published.trans hf.published
  journal := hg.journal.trans hf.journal

theorem evenly_bump (d : Coordinator) : d.Evenly bump := .settings (fun _ _ _ => rfl) rfl rfl

theorem evenly_halted (d : Coordinator) : d.Evenly fun c => { c with halted := true } :=
  .settings (fun _ _ _ => rfl) rfl rfl

theorem evenly_clampCursor (d : Coordinator) : d.Evenly clampCursor := by
  have hretabled : ∀ chains ahead published, (d.retabled chains ahead published).view = d.view :=
    fun _ _ _ => rfl
  cases hview : d.view with
  | head hidden =>
    refine .settings (fun chains ahead published => ?_) ?_ ?_
    · simp only [clampCursor, hretabled, hview]
      rfl
    · simp only [clampCursor, hview]
    · simp only [clampCursor, hview]
  | solidity =>
    refine .settings (fun chains ahead published => ?_) ?_ ?_
    · simp only [clampCursor, hretabled, hview]
    · simp only [clampCursor, hview]
    · simp only [clampCursor, hview]

theorem evenly_push (d : Coordinator) : d.Evenly push :=
  ⟨⟨_, Chain.writesNothing_push d.nextSeq, fun _ _ _ => rfl⟩, rfl, rfl⟩

theorem evenly_discardHead (d : Coordinator) : d.Evenly discardHead :=
  ⟨⟨_, Chain.writesNothing_discardHead, fun _ _ _ => rfl⟩, rfl, rfl⟩

theorem evenly_solidify (d : Coordinator) (count : Nat) : d.Evenly (·.solidify count) :=
  ⟨⟨_, Chain.writesNothing_solidify count, fun _ _ _ => rfl⟩, rfl, rfl⟩

theorem evenly_dropOldest (d : Coordinator) (count : Nat) : d.Evenly (·.dropOldest count) :=
  ⟨⟨_, Chain.writesNothing_dropOldest count, fun _ _ _ => rfl⟩, rfl, rfl⟩

theorem evenly_sealHeads (d : Coordinator) : d.Evenly sealHeads :=
  ⟨⟨_, Chain.writesNothing_commitHead, fun _ _ _ => rfl⟩, rfl, rfl⟩

theorem evenly_setStatus (d : Coordinator) (session : Nat) (status : SessionStatus) :
    d.Evenly (·.setStatus session status) := .settings (fun _ _ _ => rfl) rfl rfl

theorem evenly_unforce (d : Coordinator) : d.Evenly unforce :=
  .settings (fun _ _ _ => rfl) rfl rfl

theorem evenly_setUnit (d : Coordinator) (unit : Option UnitOfWork) :
    d.Evenly fun c => { c with openUnit := unit } := .settings (fun _ _ _ => rfl) rfl rfl

theorem evenly_openNewUnit (d : Coordinator) (seq : Option Nat) : d.Evenly (·.openNewUnit seq) :=
  .settings (fun _ _ _ => rfl) rfl rfl

theorem evenly_joinUnit (d : Coordinator) (unit : UnitOfWork) : d.Evenly (·.joinUnit unit) :=
  .settings (fun _ _ _ => rfl) rfl rfl

theorem evenly_countRevoke (d : Coordinator) :
    d.Evenly fun c => { c with passThroughRevokes := c.passThroughRevokes + 1 } :=
  .settings (fun _ _ _ => rfl) rfl rfl

theorem resolveOpen_retabled (d : Coordinator) (unit : UnitOfWork) (status : SessionStatus)
    (chains : List Chain) (ahead : Nat) (published : List Event) :
    (d.retabled chains ahead published).resolveOpen unit status =
      (d.resolveOpen unit status).retabled chains ahead published := by
  unfold resolveOpen
  induction unit.sessions generalizing d with
  | nil => rfl
  | cons session rest ih =>
    have hopen : (d.retabled chains ahead published).isOpen session = d.isOpen session := rfl
    rw [List.foldl_cons, List.foldl_cons, hopen]
    split
    · exact ih (d.setStatus session status)
    · exact ih d

/-- Resolving sessions leaves the tables alone. -/
theorem evenly_resolveOpen (d : Coordinator) (unit : UnitOfWork) (status : SessionStatus) :
    d.Evenly (·.resolveOpen unit status) := by
  obtain ⟨statuses, hresolve⟩ := d.resolveOpen_eq unit status
  refine .settings (d.resolveOpen_retabled unit status) ?_ ?_
  · rw [hresolve]
  · rw [hresolve]

/-! ### What is not changed by other tables -/

section
variable (d : Coordinator) (chains : List Chain) (ahead : Nat) (published : List Event)

@[simp] theorem openUnit_retabled : (d.retabled chains ahead published).openUnit = d.openUnit := rfl

@[simp] theorem status_retabled (session : Nat) :
    (d.retabled chains ahead published).status session = d.status session := rfl

@[simp] theorem innermost?_retabled :
    (d.retabled chains ahead published).innermost? = d.innermost? := rfl

@[simp] theorem levels_retabled : (d.retabled chains ahead published).levels = d.levels := rfl

@[simp] theorem pending_retabled : (d.retabled chains ahead published).pending = d.pending := rfl

end

end Coordinator

end LayeredStore
