import LayeredStore.Proofs.Execution

/-!
# `LayeredStore.Proofs.Retelling`: a copy of the levels, made from the events

Whoever hears all events can keep a copy of the levels: a push adds one,
a revoke or a pop takes the newest away, and a flush takes the oldest.
This works only if no change goes without its event, and none is told out
of order.

* `Event.retellAll` makes the copy, and is stuck where an event does not
  fit it. `Copy.hear` also keeps count of the pending levels, so that it
  tells how many are live right after the event.
* `Coordinator.Tells`: one change to the levels and the event that tells
  of it. `Tells.hear` says that the copy goes along with it.
* `Coordinator.Faithful` is what holds between any two changes: the copy
  is right so far. `Tells.faithful` says that every change keeps it.
-/

set_option autoImplicit false

namespace LayeredStore

/-! ### The copy -/

namespace Event

/-- The levels after an event, made from those before it; `none` if they
are not what it tells of. -/
def retell (levels : List Nat) : Event → Option (List Nat)
  | pushLayer seq _ => some (levels ++ [seq])
  | commitSession _ _ => some levels
  | revokeLayer seq _ => if levels.getLast? = some seq then some levels.dropLast else none
  | popLayer seq _ _ => if levels.getLast? = some seq then some levels.dropLast else none
  | flush layers _ _ => if layers ≤ levels.length then some (levels.drop layers) else none

/-- The levels after events, the first of which finds none. -/
def retellAll (events : List Event) : Option (List Nat) := events.foldlM retell []

/-- How many of the oldest levels it takes away. -/
def flushed : Event → Nat
  | flush layers _ _ => layers
  | _ => 0

/-- How many levels are live after it, as the event says. -/
def depth? : Event → Option Nat
  | pushLayer _ depth => some depth
  | commitSession _ _ => none
  | revokeLayer _ depth => some depth
  | popLayer _ depth _ => some depth
  | flush _ _ depth => some depth

/-- The layer that was pushed. -/
def pushed? : Event → Option Nat
  | pushLayer seq _ => some seq
  | _ => none

/-- The layer that was committed. -/
def committed? : Event → Option Nat
  | commitSession seq _ => some seq
  | _ => none

/-- Whether it was revoked or popped, the newest level is taken away. -/
theorem retell_discardEvent {levels : List Nat} {seq : Nat} (hlast : levels.getLast? = some seq)
    (depth : Nat) (verified? : Option Bool) :
    (Operation.discardEvent seq depth verified?).retell levels = some levels.dropLast := by
  cases verified? <;> exact if_pos hlast

theorem retellAll_concat (events : List Event) (event : Event) :
    retellAll (events ++ [event]) = (retellAll events).bind (retell · event) := by
  unfold retellAll
  rw [List.foldlM_append]
  cases events.foldlM retell [] with
  | none => rfl
  | some levels => exact bind_pure (retell levels event)

end Event

/-- The layers that events say were pushed, in their order. -/
def pushedIn (events : List Event) : List Nat := events.filterMap (·.pushed?)

/-- The layers that events say were committed, in their order. -/
def committedIn (events : List Event) : List Nat := events.filterMap (·.committed?)

theorem pushedIn_concat (events : List Event) (event : Event) :
    pushedIn (events ++ [event]) = pushedIn events ++ event.pushed?.toList := by
  unfold pushedIn
  rw [List.filterMap_append, List.filterMap_cons, List.filterMap_nil]
  cases event.pushed? <;> rfl

theorem committedIn_concat (events : List Event) (event : Event) :
    committedIn (events ++ [event]) = committedIn events ++ event.committed?.toList := by
  unfold committedIn
  rw [List.filterMap_append, List.filterMap_cons, List.filterMap_nil]
  cases event.committed? <;> rfl

/-- What `P` says of an event and those told before it holds of each of
these events. -/
def EachTold (P : List Event → Event → Prop) (events : List Event) : Prop :=
  ∀ before event after, events = before ++ event :: after → P before event

theorem eachTold_nil (P : List Event → Event → Prop) : EachTold P [] := by
  intro before event after heq
  cases before <;> cases heq

theorem EachTold.concat {P : List Event → Event → Prop} {events : List Event}
    (h : EachTold P events) {event : Event} (hevent : P events event) :
    EachTold P (events ++ [event]) := by
  intro before other after heq
  -- The other event is the newest, or it was told before.
  rcases List.eq_nil_or_concat after with rfl | ⟨older, newest, rfl⟩
  · obtain ⟨rfl, hother⟩ := List.append_inj' heq rfl
    cases hother
    exact hevent
  · rw [List.concat_eq_append, ← List.cons_append, ← List.append_assoc] at heq
    exact h before other older (List.append_inj' heq rfl).1

/-- Told after `before`, a commit names the level that is the newest at that
moment, and a pop takes away only one that was committed. -/
def Event.InTurn (before : List Event) : Event → Prop
  | .commitSession seq _ => (retellAll before).bind (·.getLast?) = some seq
  | .popLayer seq _ _ => seq ∈ committedIn before
  | _ => True

/-- A copy of the levels, and of how many of them are pending. -/
structure Copy where
  levels : List Nat
  pending : Nat
  deriving DecidableEq, Repr

namespace Copy

/-- How many levels of the copy are live. -/
def depth (copy : Copy) : Nat := copy.levels.length - copy.pending

/-- The copy right after an event; `none` if the levels are not what the
event tells of. Only a flush takes pending levels away. -/
def hear (copy : Copy) (event : Event) : Option Copy :=
  (event.retell copy.levels).map fun levels => ⟨levels, copy.pending - event.flushed⟩

/-- The copy after events. -/
def hearAll (copy : Copy) (events : List Event) : Option Copy := events.foldlM hear copy

theorem hearAll_concat {copy last : Copy} {events : List Event}
    (h : copy.hearAll events = some last) (event : Event) :
    copy.hearAll (events ++ [event]) = last.hear event := by
  unfold hearAll at h ⊢
  rw [List.foldlM_append, h]
  exact bind_pure (last.hear event)

/-- Each event gives the number of live levels right after it. -/
def GivesDepths (copy : Copy) (events : List Event) : Prop :=
  EachTold (fun before event => ∀ depth, event.depth? = some depth →
    ∃ next, copy.hearAll (before ++ [event]) = some next ∧ next.depth = depth) events

end Copy

/-- The next number lies above all that were given out. -/
theorem increasing_concat {seqs : List Nat} {next : Nat} (h : seqs.Pairwise (· < ·))
    (hlt : ∀ seq ∈ seqs, seq < next) :
    (seqs ++ [next]).Pairwise (· < ·) ∧ ∀ seq ∈ seqs ++ [next], seq < next + 1 := by
  refine ⟨List.pairwise_append.mpr
    ⟨h, List.pairwise_singleton _ _, fun seq hmem other hother => ?_⟩, fun seq hmem => ?_⟩
  · rw [List.mem_singleton.mp hother]
    exact hlt seq hmem
  · rcases List.mem_append.mp hmem with hold | hnew
    · exact Nat.lt_succ_of_lt (hlt seq hold)
    · rw [List.mem_singleton.mp hnew]
      exact Nat.lt_succ_self next

/-! ### The changes that are told -/

namespace Coordinator

/-- The levels, and how many of them are pending. -/
def copy (c : Coordinator) : Copy := ⟨c.levels, c.pending⟩

/-- A change to the levels, or to how many of them are pending, and the
event that tells of it. The event says how many levels are live after the
change. -/
inductive Tells (c : Coordinator) : Option Event → Coordinator → Prop
  | aside {c' : Coordinator} (hlevels : c'.levels = c.levels) (hpending : c'.pending = c.pending)
      (hnext : c'.nextSeq = c.nextSeq) (hopen : c'.openSeq? = c.openSeq?) : Tells c none c'
  | push {c' : Coordinator} (hlevels : c'.levels = c.levels ++ [c.nextSeq])
      (hpending : c'.pending = c.pending) (hnext : c'.nextSeq = c.nextSeq + 1)
      (hclosed : c.openSeq? = none) (hopen : c'.openSeq? = some c.nextSeq) :
      Tells c (some (.pushLayer c.nextSeq c'.depth)) c'
  | commit {c' : Coordinator} {seq : Nat} (hlevels : c'.levels = c.levels)
      (hpending : c'.pending = c.pending) (hnext : c'.nextSeq = c.nextSeq)
      (hopen : c.openSeq? = some seq) (hlast : c.levels.getLast? = some seq)
      (hclosed : c'.openSeq? = none) : Tells c (some (.commitSession seq c'.headsDigest)) c'
  -- Only a level that no unit of work has open is popped.
  | discard {c' : Coordinator} {seq : Nat} {verified? : Option Bool}
      (hlevels : c'.levels = c.levels.dropLast) (hpending : c'.pending = c.pending)
      (hnext : c'.nextSeq = c.nextSeq) (hlast : c.levels.getLast? = some seq)
      (hpop : verified?.isSome → c.openSeq? = none) (hclosed : c'.openSeq? = none) :
      Tells c (some (Operation.discardEvent seq c'.depth verified?)) c'
  | flush {c' : Coordinator} {count keys : Nat} (hcount : count ≤ c.levels.length)
      (hlevels : c'.levels = c.levels.drop count) (hpending : c'.pending = c.pending - count)
      (hnext : c'.nextSeq = c.nextSeq) (hopen : c'.openSeq? = c.openSeq?) :
      Tells c (some (.flush count keys c'.depth)) c'

/-- The levels after the change are those that its event makes. -/
theorem Tells.retell {c c' : Coordinator} {event : Event} (h : c.Tells (some event) c') :
    event.retell c.levels = some c'.levels := by
  cases h with
  | push hlevels | commit hlevels => exact congrArg some hlevels.symm
  | discard hlevels _ _ hlast =>
    exact (Event.retell_discardEvent hlast _ _).trans (congrArg some hlevels.symm)
  | flush hcount hlevels => exact (if_pos hcount).trans (congrArg some hlevels.symm)

/-- And so is the number of those that are pending. -/
theorem Tells.hear {c c' : Coordinator} {event : Event} (h : c.Tells (some event) c') :
    c.copy.hear event = some c'.copy := by
  have hpending : c'.pending = c.pending - event.flushed := by
    cases h with
    | push _ hpending | commit _ hpending => exact hpending
    | @discard _ _ verified? _ hpending => cases verified? <;> exact hpending
    | flush _ _ hpending => exact hpending
  unfold Copy.hear copy
  rw [h.retell, hpending]
  rfl

/-- The event gives the number of live levels after the change. -/
theorem Tells.depth {c c' : Coordinator} {event : Event} {depth : Nat}
    (h : c.Tells (some event) c') (hdepth : event.depth? = some depth) : c'.depth = depth := by
  cases h with
  | push | flush => exact Option.some.inj hdepth
  | commit => cases hdepth
  | @discard _ _ verified? => cases verified? <;> exact Option.some.inj hdepth

/-- What is not told changes neither. -/
theorem Tells.copy_eq {c c' : Coordinator} (h : c.Tells none c') : c'.copy = c.copy := by
  cases h with
  | aside hlevels hpending => exact congrArg₂ Copy.mk hlevels hpending

/-- The events so far, retold, give the levels, and each event was told at
its time: a push of a number above all before it, one commit of every
level but that of the open unit of work, and of no other. -/
structure Faithful (c : Coordinator) : Prop where
  retold : Event.retellAll c.published = some c.levels
  inTurn : EachTold Event.InTurn c.published
  increasing : c.levels.Pairwise (· < ·)
  levels_lt : ∀ seq ∈ c.levels, seq < c.nextSeq
  pushes_increase : (pushedIn c.published).Pairwise (· < ·)
  pushed_lt : ∀ seq ∈ pushedIn c.published, seq < c.nextSeq
  committed_once : (committedIn c.published).Nodup
  committed_lt : ∀ seq ∈ committedIn c.published, seq < c.nextSeq
  held : ∀ seq ∈ c.levels, seq ∈ committedIn c.published ∨
    c.openSeq? = some seq ∧ c.levels.getLast? = some seq
  uncommitted : ∀ seq, c.openSeq? = some seq → seq ∉ committedIn c.published

theorem faithful_new (configuration : Configuration) (journal : String) (publishing : Bool) :
    (new configuration journal publishing).Faithful where
  retold := rfl
  inTurn := eachTold_nil _
  increasing := .nil
  levels_lt _ hmem := absurd hmem List.not_mem_nil
  pushes_increase := .nil
  pushed_lt _ hmem := absurd hmem List.not_mem_nil
  committed_once := .nil
  committed_lt _ hmem := absurd hmem List.not_mem_nil
  held _ hmem := absurd hmem List.not_mem_nil
  uncommitted _ hopen := nomatch hopen

section
variable {c c' : Coordinator}

theorem Faithful.congr (h : c.Faithful) (hpublished : c'.published = c.published)
    (hlevels : c'.levels = c.levels) (hnext : c'.nextSeq = c.nextSeq)
    (hopen : c'.openSeq? = c.openSeq?) : c'.Faithful where
  retold := by rw [hpublished, hlevels, h.retold]
  inTurn := hpublished ▸ h.inTurn
  increasing := hlevels ▸ h.increasing
  levels_lt := by
    rw [hlevels, hnext]
    exact h.levels_lt
  pushes_increase := hpublished ▸ h.pushes_increase
  pushed_lt := by
    rw [hpublished, hnext]
    exact h.pushed_lt
  committed_once := hpublished ▸ h.committed_once
  committed_lt := by
    rw [hpublished, hnext]
    exact h.committed_lt
  held := by
    rw [hpublished, hlevels, hopen]
    exact h.held
  uncommitted := by
    rw [hpublished, hopen]
    exact h.uncommitted

theorem Faithful.push (h : c.Faithful) {depth : Nat}
    (hpublished : c'.published = c.published ++ [.pushLayer c.nextSeq depth])
    (hlevels : c'.levels = c.levels ++ [c.nextSeq]) (hnext : c'.nextSeq = c.nextSeq + 1)
    (hclosed : c.openSeq? = none) (hopen : c'.openSeq? = some c.nextSeq) : c'.Faithful where
  retold := by
    rw [hpublished, hlevels, Event.retellAll_concat, h.retold]
    rfl
  inTurn := hpublished ▸ h.inTurn.concat trivial
  -- The new number is greater than every level, and than every number pushed
  -- so far.
  increasing := by
    rw [hlevels]
    exact (increasing_concat h.increasing h.levels_lt).1
  levels_lt := by
    rw [hlevels, hnext]
    exact (increasing_concat h.increasing h.levels_lt).2
  pushes_increase := by
    rw [hpublished, pushedIn_concat]
    exact (increasing_concat h.pushes_increase h.pushed_lt).1
  pushed_lt := by
    rw [hpublished, pushedIn_concat, hnext]
    exact (increasing_concat h.pushes_increase h.pushed_lt).2
  committed_once := by
    rw [hpublished, committedIn_concat]
    simpa [Event.committed?] using h.committed_once
  committed_lt seq hmem := by
    rw [hpublished, committedIn_concat] at hmem
    rw [hnext]
    exact Nat.lt_succ_of_lt (h.committed_lt seq (by simpa [Event.committed?] using hmem))
  held seq hmem := by
    rw [hlevels] at hmem ⊢
    rw [hpublished, committedIn_concat]
    rcases List.mem_append.mp hmem with hold | hnew
    · -- No level but the new one is open.
      rcases h.held seq hold with hcommitted | ⟨hsome, -⟩
      · exact .inl (List.mem_append_left _ hcommitted)
      · exact absurd (hclosed.symm.trans hsome) nofun
    · rw [List.mem_singleton.mp hnew]
      exact .inr ⟨hopen, List.getLast?_concat⟩
  uncommitted seq hsome hmem := by
    obtain rfl : c.nextSeq = seq := Option.some.inj (hopen.symm.trans hsome)
    rw [hpublished, committedIn_concat] at hmem
    exact Nat.lt_irrefl _ (h.committed_lt _ (by simpa [Event.committed?] using hmem))

theorem Faithful.commit (h : c.Faithful) {seq : Nat} {digest : Digest}
    (hpublished : c'.published = c.published ++ [.commitSession seq digest])
    (hlevels : c'.levels = c.levels) (hnext : c'.nextSeq = c.nextSeq)
    (hopen : c.openSeq? = some seq) (hlast : c.levels.getLast? = some seq)
    (hclosed : c'.openSeq? = none) : c'.Faithful where
  retold := by
    rw [hpublished, hlevels, Event.retellAll_concat, h.retold]
    rfl
  inTurn := by
    rw [hpublished]
    refine h.inTurn.concat ?_
    show (Event.retellAll c.published).bind _ = _
    rw [h.retold]
    exact hlast
  increasing := hlevels ▸ h.increasing
  levels_lt := by
    rw [hlevels, hnext]
    exact h.levels_lt
  pushes_increase := by
    rw [hpublished, pushedIn_concat]
    simpa [Event.pushed?] using h.pushes_increase
  pushed_lt other hmem := by
    rw [hpublished, pushedIn_concat] at hmem
    rw [hnext]
    exact h.pushed_lt other (by simpa [Event.pushed?] using hmem)
  -- The open level has not been committed, and is the only one that could be.
  committed_once := by
    rw [hpublished, committedIn_concat]
    exact List.concat_eq_append ▸
      (List.nodup_concat _ seq).mpr ⟨h.uncommitted seq hopen, h.committed_once⟩
  committed_lt other hmem := by
    rw [hpublished, committedIn_concat] at hmem
    rw [hnext]
    rcases List.mem_append.mp hmem with hold | hnew
    · exact h.committed_lt other hold
    · rw [List.mem_singleton.mp hnew]
      exact h.levels_lt seq (List.mem_of_getLast? hlast)
  held other hmem := by
    rw [hlevels] at hmem
    rw [hpublished, committedIn_concat]
    rcases h.held other hmem with hcommitted | ⟨hsome, -⟩
    · exact .inl (List.mem_append_left _ hcommitted)
    · obtain rfl : seq = other := Option.some.inj (hopen.symm.trans hsome)
      exact .inl (List.mem_append_right _ List.mem_cons_self)
  uncommitted other hsome := absurd (hclosed.symm.trans hsome) nofun

/-- A change that takes levels away, and pushes and commits none. -/
theorem Faithful.shrink (h : c.Faithful) {event : Event} (hpush : event.pushed? = none)
    (hcommit : event.committed? = none) (hturn : event.InTurn c.published)
    (hpublished : c'.published = c.published ++ [event])
    (hretell : event.retell c.levels = some c'.levels) (hsub : c'.levels.Sublist c.levels)
    (hnext : c'.nextSeq = c.nextSeq)
    (hheld : ∀ seq ∈ c'.levels, c.openSeq? = some seq → c.levels.getLast? = some seq →
      c'.openSeq? = some seq ∧ c'.levels.getLast? = some seq)
    (huncommitted : ∀ seq, c'.openSeq? = some seq → c.openSeq? = some seq) : c'.Faithful := by
  have hpushed : pushedIn c'.published = pushedIn c.published := by
    rw [hpublished, pushedIn_concat, hpush]
    exact List.append_nil _
  have hcommitted : committedIn c'.published = committedIn c.published := by
    rw [hpublished, committedIn_concat, hcommit]
    exact List.append_nil _
  exact
    { retold := by
        rw [hpublished, Event.retellAll_concat, h.retold]
        exact hretell
      inTurn := hpublished ▸ h.inTurn.concat hturn
      increasing := h.increasing.sublist hsub
      levels_lt := fun seq hmem => hnext ▸ h.levels_lt seq (hsub.subset hmem)
      pushes_increase := hpushed ▸ h.pushes_increase
      pushed_lt := fun seq hmem => hnext ▸ h.pushed_lt seq (hpushed ▸ hmem)
      committed_once := hcommitted ▸ h.committed_once
      committed_lt := fun seq hmem => hnext ▸ h.committed_lt seq (hcommitted ▸ hmem)
      held := fun seq hmem => by
        rw [hcommitted]
        rcases h.held seq (hsub.subset hmem) with hold | ⟨hopen, hlast⟩
        · exact .inl hold
        · exact .inr (hheld seq hmem hopen hlast)
      uncommitted := fun seq hopen => hcommitted ▸ h.uncommitted seq (huncommitted seq hopen) }

/-- The newest level goes, and the unit of work that has it open is closed. -/
theorem Faithful.discard (h : c.Faithful) {seq depth : Nat} {verified? : Option Bool}
    (hpublished : c'.published = c.published ++ [Operation.discardEvent seq depth verified?])
    (hlevels : c'.levels = c.levels.dropLast) (hnext : c'.nextSeq = c.nextSeq)
    (hlast : c.levels.getLast? = some seq) (hpop : verified?.isSome → c.openSeq? = none)
    (hclosed : c'.openSeq? = none) : c'.Faithful := by
  have hturn : (Operation.discardEvent seq depth verified?).InTurn c.published := by
    cases verified? with
    | none => trivial
    | some verified =>
      -- No unit of work is open, so the newest level was committed.
      refine (h.held seq (List.mem_of_getLast? hlast)).resolve_right ?_
      rintro ⟨hopen, -⟩
      cases (hpop rfl).symm.trans hopen
  refine h.shrink ?_ ?_ hturn hpublished ?_ (hlevels ▸ List.dropLast_sublist _) hnext ?_ ?_
  · cases verified? <;> rfl
  · cases verified? <;> rfl
  · rw [Event.retell_discardEvent hlast, hlevels]
  · -- None of the levels that are left is the newest, so none was open.
    intro other hmem _ hlast'
    obtain rfl : seq = other := Option.some.inj (hlast.symm.trans hlast')
    exact absurd (lt_newest_of_pairwise h.increasing hlast (hlevels ▸ hmem)) (Nat.lt_irrefl seq)
  · exact fun other hopen => absurd (hclosed.symm.trans hopen) nofun

/-- The oldest levels go; the unit of work stays open if its level is left. -/
theorem Faithful.flush (h : c.Faithful) {count keys depth : Nat}
    (hpublished : c'.published = c.published ++ [.flush count keys depth])
    (hcount : count ≤ c.levels.length) (hlevels : c'.levels = c.levels.drop count)
    (hnext : c'.nextSeq = c.nextSeq) (hopen : c'.openSeq? = c.openSeq?) : c'.Faithful := by
  have hturn : (Event.flush count keys depth).InTurn c.published := trivial
  refine h.shrink rfl rfl hturn hpublished ?_ (hlevels ▸ List.drop_sublist _ _) hnext ?_
    fun seq hsome => hopen.symm.trans hsome
  · exact (if_pos hcount).trans (congrArg some hlevels.symm)
  · -- As long as a level is left, the newest one is.
    intro seq hmem hsome hlast
    rw [hlevels] at hmem ⊢
    have hlt : ¬c.levels.length ≤ count := by
      intro hle
      rw [List.drop_eq_nil_of_le hle] at hmem
      cases hmem
    rw [List.getLast?_drop, if_neg hlt]
    exact ⟨hopen.trans hsome, hlast⟩

/-- A change that is told keeps the copy right. -/
theorem Tells.faithful {event? : Option Event} (h : c.Tells event? c')
    (hpublished : c'.published = c.published ++ event?.toList) (hc : c.Faithful) :
    c'.Faithful := by
  cases h with
  | aside hlevels _ hnext hopen =>
    exact hc.congr (hpublished.trans (List.append_nil _)) hlevels hnext hopen
  -- Each change is published as one event, and has its own lemma.
  | push hlevels _ hnext hclosed hopen => exact hc.push hpublished hlevels hnext hclosed hopen
  | commit hlevels _ hnext hopen hlast hclosed =>
    exact hc.commit hpublished hlevels hnext hopen hlast hclosed
  | discard hlevels _ hnext hlast hpop hclosed =>
    exact hc.discard hpublished hlevels hnext hlast hpop hclosed
  | flush hcount hlevels _ hnext hopen =>
    exact hc.flush hpublished hcount hlevels hnext hopen

end

end Coordinator

end LayeredStore
