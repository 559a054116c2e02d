import LayeredStore.Proofs.Soundness

/-!
# `LayeredStore.Proofs.Units`: units of work and their sessions

`Coordinator.Attended` is what sessions and the unit of work that is open
know of each other: every session that is open belongs to the unit, the
unit has one that is open, and it is poisoned exactly if one of its
sessions was resolved otherwise than by a commit.

The changes that opening and resolving sessions make to a coordinator
are functions on it:

* `joinUnit` and `openNewUnit` add a session.
* `resolve` resolves a session while others of its unit are open.
* `keep` and `lose` close the unit when its last session is resolved. It
  is `Closes` that says which sessions this resolves.

Each keeps the coordinator attended (`Attended.join`, `Attended.openNew`,
`Attended.resolve`, `attended_of_closed`), and none changes how a session
stands that was resolved before.
-/

set_option autoImplicit false

namespace LayeredStore

namespace Coordinator

/-! ### How sessions stand -/

theorem isOpen_iff (c : Coordinator) (session : Nat) :
    c.isOpen session = true ↔ c.status session = .opened :=
  decide_eq_true_iff

theorem isOpen_eq_false_iff (c : Coordinator) (session : Nat) :
    c.isOpen session = false ↔ c.status session ≠ .opened :=
  decide_eq_false_iff_not

theorem status_congr {c c' : Coordinator} (h : c'.statuses = c.statuses) (session : Nat) :
    c'.status session = c.status session := by
  rw [status, h]
  rfl

theorem isOpen_congr {c c' : Coordinator} (h : c'.statuses = c.statuses) (session : Nat) :
    c'.isOpen session = c.isOpen session := by
  rw [isOpen, status_congr h]
  rfl

/-- Sessions that were never opened count as abandoned. -/
theorem lt_of_status_ne {c : Coordinator} {session : Nat} (h : c.status session ≠ .abandoned) :
    session < c.statuses.length := by
  by_contra hge
  rw [status, List.getD_eq_getElem?_getD, List.getElem?_eq_none (Nat.le_of_not_lt hge)] at h
  exact h rfl

theorem lt_of_isOpen {c : Coordinator} {session : Nat} (h : c.isOpen session = true) :
    session < c.statuses.length := by
  rw [isOpen_iff] at h
  exact lt_of_status_ne (h ▸ nofun)

theorem status_setStatus (c : Coordinator) (session : Nat) (status : SessionStatus) (other : Nat) :
    (c.setStatus session status).status other =
      if session = other ∧ session < c.statuses.length then status else c.status other := by
  unfold setStatus Coordinator.status
  simp only [List.getD_eq_getElem?_getD, List.getElem?_set]
  by_cases heq : session = other
  · subst heq
    by_cases hlt : session < c.statuses.length
    · simp [hlt]
    · simp [hlt]
  · simp [heq]

/-- Adding a session leaves the others as they stand. -/
theorem status_addSession (c : Coordinator) (session : Nat) :
    c.addSession.status session =
      if session = c.statuses.length then .opened else c.status session := by
  unfold addSession Coordinator.status
  simp only [List.getD_eq_getElem?_getD]
  split
  · rename_i heq
    rw [heq, List.getElem?_concat_length]
    rfl
  · rename_i hne
    by_cases hlt : session < c.statuses.length
    · rw [List.getElem?_append_left hlt]
    · rw [List.getElem?_eq_none (by simp; omega), List.getElem?_eq_none (by omega)]

/-- Resolving the open sessions of a unit leaves all others as they
stand. -/
theorem status_resolveOpen (c : Coordinator) (unit : UnitOfWork) (status : SessionStatus)
    (session : Nat) :
    (c.resolveOpen unit status).status session =
      if session ∈ unit.sessions ∧ c.isOpen session = true then status else c.status session := by
  unfold resolveOpen
  induction unit.sessions generalizing c with
  | nil => simp
  | cons first rest ih =>
    rw [List.foldl_cons, ih]
    -- The first session is passed over unless it is open.
    cases hopen : c.isOpen first with
    | false =>
      have hne : c.isOpen session = true → session ≠ first := by
        rintro hsession rfl
        rw [hopen] at hsession
        cases hsession
      by_cases hsession : c.isOpen session = true
      · simp [hsession, hne hsession]
      · simp [hsession]
    | true =>
      have hstatus := c.status_setStatus first status session
      simp only [lt_of_isOpen hopen, and_true] at hstatus
      simp only [if_true]
      by_cases heq : first = session
      · subst heq
        rw [if_pos rfl] at hstatus
        simp [hstatus, hopen]
      · rw [if_neg heq] at hstatus
        simp only [hstatus, isOpen, Ne.symm heq, List.mem_cons, false_or]

theorem length_resolveOpen (c : Coordinator) (unit : UnitOfWork) (status : SessionStatus) :
    (c.resolveOpen unit status).statuses.length = c.statuses.length := by
  unfold resolveOpen
  induction unit.sessions generalizing c with
  | nil => rfl
  | cons first rest ih =>
    rw [List.foldl_cons, ih]
    split
    · exact List.length_set
    · rfl

theorem openCount_pos_iff (c : Coordinator) (unit : UnitOfWork) :
    0 < c.openCount unit ↔ ∃ session ∈ unit.sessions, c.isOpen session = true := by
  simp [openCount, List.length_pos_iff_exists_mem]

/-! ### Sessions and the unit of work that is open -/

/-- What sessions and the open unit of work know of each other. -/
structure Attended (c : Coordinator) : Prop where
  /-- The sessions of the unit stand in the order they were opened. -/
  ascending : ∀ unit, c.openUnit = some unit → unit.sessions.Pairwise (· < ·)
  known : ∀ unit, c.openUnit = some unit → ∀ session ∈ unit.sessions, session < c.statuses.length
  /-- A session that is open belongs to the unit. -/
  owned : ∀ session, c.isOpen session = true → ∃ unit, c.openUnit = some unit ∧
    session ∈ unit.sessions
  /-- The unit waits for one of its sessions. -/
  awaited : ∀ unit, c.openUnit = some unit → ∃ session ∈ unit.sessions, c.isOpen session = true
  /-- The unit is poisoned if a session of it has failed. -/
  poisoned : ∀ unit, c.openUnit = some unit → (unit.poisoned = true ↔
    ∃ session ∈ unit.sessions, c.isOpen session = false ∧ c.status session ≠ .committed)

theorem attended_new (configuration : Configuration) (journal : String) (publishing : Bool) :
    (new configuration journal publishing).Attended where
  ascending _ h := nomatch h
  known _ h := nomatch h
  owned session h := absurd (lt_of_isOpen h) (Nat.not_lt_zero session)
  awaited _ h := nomatch h
  poisoned _ h := nomatch h

section
variable {c : Coordinator}

theorem Attended.congr (h : c.Attended) {c' : Coordinator} (hunit : c'.openUnit = c.openUnit)
    (hstatuses : c'.statuses = c.statuses) : c'.Attended where
  ascending := by rw [hunit]; exact h.ascending
  known := by rw [hunit, hstatuses]; exact h.known
  owned := by simp only [hunit, isOpen_congr hstatuses]; exact h.owned
  awaited := by simp only [hunit, isOpen_congr hstatuses]; exact h.awaited
  poisoned := by simp only [hunit, isOpen_congr hstatuses, status_congr hstatuses]; exact h.poisoned

/-- A session that is open belongs to this unit. -/
theorem Attended.mem_of_isOpen (h : c.Attended) {unit : UnitOfWork} (hunit : c.openUnit = some unit)
    {session : Nat} (hopen : c.isOpen session = true) : session ∈ unit.sessions := by
  obtain ⟨other, hother, hmem⟩ := h.owned session hopen
  rw [hunit] at hother
  cases hother
  exact hmem

theorem Attended.not_isOpen (h : c.Attended) (hunit : c.openUnit = none) (session : Nat) :
    c.isOpen session = false := by
  by_contra hopen
  obtain ⟨unit, hsome, -⟩ := h.owned session (by simpa using hopen)
  rw [hunit] at hsome
  cases hsome

/-! ### Opening sessions -/

theorem isOpen_addSession (c : Coordinator) (session : Nat) :
    c.addSession.isOpen session = (decide (session = c.statuses.length) || c.isOpen session) := by
  rw [isOpen, status_addSession]
  split
  · rename_i heq
    simp [heq]
  · rename_i hne
    simp [hne, isOpen]

/-- A session joins the unit of work that is open. -/
theorem Attended.join (h : c.Attended) {unit : UnitOfWork} (hunit : c.openUnit = some unit) :
    (c.joinUnit unit).Attended := by
  have hknown := h.known unit hunit
  have hlength : (c.joinUnit unit).statuses.length = c.statuses.length + 1 := by
    simp [joinUnit, addSession]
  have hstatus : ∀ session, (c.joinUnit unit).status session = _ := c.status_addSession
  have hopen : ∀ session, (c.joinUnit unit).isOpen session = _ := c.isOpen_addSession
  refine ⟨?_, ?_, fun session hsession => ?_, ?_, ?_⟩
  · rintro _ ⟨⟩
    refine List.pairwise_append.mpr ⟨h.ascending unit hunit, List.pairwise_singleton _ _, ?_⟩
    intro session hmem new hnew
    rw [List.mem_singleton.mp hnew]
    exact hknown session hmem
  · rintro _ ⟨⟩ session hmem
    rw [hlength]
    rcases List.mem_append.mp hmem with hold | hnew
    · exact Nat.lt_succ_of_lt (hknown session hold)
    · rw [List.mem_singleton.mp hnew]
      exact Nat.lt_succ_self _
  · refine ⟨_, rfl, ?_⟩
    simp only [hopen, Bool.or_eq_true, decide_eq_true_eq] at hsession
    rcases hsession with heq | hsession
    · exact List.mem_append_right _ (by simp [heq])
    · exact List.mem_append_left _ (h.mem_of_isOpen hunit hsession)
  · rintro _ ⟨⟩
    exact ⟨c.statuses.length, List.mem_append_right _ List.mem_cons_self, by simp [hopen]⟩
  · rintro _ ⟨⟩
    rw [show ({ unit with sessions := unit.sessions ++ [c.statuses.length] } :
      UnitOfWork).poisoned = unit.poisoned from rfl, h.poisoned unit hunit]
    -- The new session is open, and the others stand as before.
    constructor
    · rintro ⟨session, hmem, hfailed⟩
      have hne := Nat.ne_of_lt (hknown session hmem)
      refine ⟨session, List.mem_append_left _ hmem, ?_⟩
      rw [hopen, hstatus, if_neg hne]
      simpa [hne] using hfailed
    · rintro ⟨session, hmem, hclosed, hfailed⟩
      rw [hopen, Bool.or_eq_false_iff, decide_eq_false_iff_not] at hclosed
      rw [hstatus, if_neg hclosed.1] at hfailed
      rcases List.mem_append.mp hmem with hold | hnew
      · exact ⟨session, hold, hclosed.2, hfailed⟩
      · exact absurd (List.mem_singleton.mp hnew) hclosed.1

/-- A session opens a unit of work of its own. -/
theorem Attended.openNew (h : c.Attended) (hunit : c.openUnit = none) (seq : Option Nat) :
    (c.openNewUnit seq).Attended := by
  have hstatus : ∀ session, (c.openNewUnit seq).status session = _ := c.status_addSession
  have hopen : ∀ session, (c.openNewUnit seq).isOpen session = _ := c.isOpen_addSession
  -- The new session is the only one of its unit, and the only one open.
  refine ⟨?_, ?_, fun session hsession => ?_, ?_, ?_⟩
  · rintro _ ⟨⟩
    exact List.pairwise_singleton _ _
  · rintro _ ⟨⟩ session hmem
    rw [List.mem_singleton.mp hmem]
    simp [openNewUnit, addSession]
  · rw [hopen, h.not_isOpen hunit, Bool.or_false, decide_eq_true_eq] at hsession
    exact ⟨_, rfl, List.mem_singleton.mpr hsession⟩
  · rintro _ ⟨⟩
    exact ⟨c.statuses.length, List.mem_cons_self, by simp [hopen]⟩
  · rintro _ ⟨⟩
    refine iff_of_false Bool.false_ne_true ?_
    rintro ⟨session, hmem, hclosed, -⟩
    rw [List.mem_singleton.mp hmem, hopen] at hclosed
    simp at hclosed

/-! ### Resolving sessions -/

/-- The coordinator after a session was resolved while others of its unit
are open. -/
def resolve (c : Coordinator) (unit : UnitOfWork) (session : Nat) (status : SessionStatus) :
    Coordinator :=
  { c.setStatus session status with
    openUnit := some { unit with poisoned := unit.poisoned || status != .committed } }

/-- The coordinator after its unit of work was committed. -/
def keep (c : Coordinator) (unit : UnitOfWork) (statuses : List SessionStatus) : Coordinator :=
  let closed := { c with openUnit := none, statuses := statuses }
  if unit.seq.isSome then closed.sealHeads else closed

/-- The coordinator after its unit of work was discarded. A database that
was enabled only for this unit is disabled again. -/
def lose (c : Coordinator) (unit : UnitOfWork) (statuses : List SessionStatus) : Coordinator :=
  let closed := { c with openUnit := none, statuses := statuses }
  let left := if unit.seq.isSome then closed.discardHead.bump else closed
  if c.disableOnExit then left.unforce.bump else left

/-- When the open unit of work is closed, its sessions come to stand like
this: all are resolved, and those resolved before stand as they did. -/
structure Closes (c : Coordinator) (unit : UnitOfWork) (statuses : List SessionStatus) : Prop where
  openUnit : c.openUnit = some unit
  length : statuses.length = c.statuses.length
  stays : ∀ session, c.isOpen session = false →
    statuses.getD session .abandoned = c.status session
  resolved : ∀ session ∈ unit.sessions, statuses.getD session .abandoned ≠ .opened

/-- Every session of the unit was resolved by a commit. -/
def AllCommitted (statuses : List SessionStatus) (unit : UnitOfWork) : Prop :=
  ∀ session ∈ unit.sessions, statuses.getD session .abandoned = .committed

/-- A session is resolved while others of its unit are open. -/
theorem Attended.resolve (h : c.Attended) {unit : UnitOfWork} (hunit : c.openUnit = some unit)
    {session : Nat} (hsession : c.isOpen session = true) {status : SessionStatus}
    (hstatus : status ≠ .opened) (hothers : 0 < (c.setStatus session status).openCount unit) :
    (c.resolve unit session status).Attended := by
  have hset : ∀ other, (c.resolve unit session status).status other =
      if session = other then status else c.status other := by
    intro other
    have hset := c.status_setStatus session status other
    simp only [lt_of_isOpen hsession, and_true] at hset
    exact hset
  have hopen : ∀ other, (c.resolve unit session status).isOpen other = true ↔
      session ≠ other ∧ c.isOpen other = true := by
    intro other
    rw [isOpen_iff, hset, isOpen_iff]
    split
    · rename_i heq
      exact iff_of_false hstatus fun hne => hne.1 heq
    · rename_i hne
      exact ⟨fun hother => ⟨hne, hother⟩, And.right⟩
  refine ⟨?_, ?_, fun other hother => ?_, ?_, ?_⟩
  · rintro _ ⟨⟩
    exact h.ascending unit hunit
  · rintro _ ⟨⟩ other hother
    show other < (c.statuses.set session status).length
    rw [List.length_set]
    exact h.known unit hunit other hother
  · exact ⟨_, rfl, h.mem_of_isOpen hunit ((hopen other).mp hother).2⟩
  · rintro _ ⟨⟩
    exact (openCount_pos_iff _ unit).mp hothers
  · rintro _ ⟨⟩
    show (unit.poisoned || status != .committed) = true ↔ ∃ other ∈ unit.sessions, _
    rw [Bool.or_eq_true, h.poisoned unit hunit, bne_iff_ne]
    simp only [← Bool.not_eq_true, hopen, hset, not_and]
    -- This session has failed if its status says so, and the others as before.
    constructor
    · rintro (⟨other, hother, hclosed, hfailed⟩ | hfailed)
      · have hne : session ≠ other := fun heq => hclosed (heq ▸ hsession)
        exact ⟨other, hother, fun _ => hclosed, by rwa [if_neg hne]⟩
      · exact ⟨session, h.mem_of_isOpen hunit hsession, fun hne => absurd rfl hne,
          by rwa [if_pos rfl]⟩
    · rintro ⟨other, hother, hclosed, hfailed⟩
      split at hfailed
      · exact .inr hfailed
      · rename_i hne
        exact .inl ⟨other, hother, hclosed hne, hfailed⟩

/-- Once the unit of work is closed, no session is open. -/
theorem attended_of_closed (h : c.Attended) {unit : UnitOfWork} {statuses : List SessionStatus}
    (hcloses : c.Closes unit statuses) {c' : Coordinator} (hunit : c'.openUnit = none)
    (hstatuses : c'.statuses = statuses) : c'.Attended where
  ascending _ h := by rw [hunit] at h; cases h
  known _ h := by rw [hunit] at h; cases h
  awaited _ h := by rw [hunit] at h; cases h
  poisoned _ h := by rw [hunit] at h; cases h
  owned session hsession := by
    rw [isOpen_iff, status, hstatuses] at hsession
    cases hopen : c.isOpen session with
    | true =>
      exact absurd hsession (hcloses.resolved session (h.mem_of_isOpen hcloses.openUnit hopen))
    | false =>
      rw [hcloses.stays session hopen] at hsession
      exact absurd hsession ((c.isOpen_eq_false_iff session).mp hopen)

/-- The last session of a unit of work is resolved. -/
theorem closes_set {unit : UnitOfWork} (hunit : c.openUnit = some unit) {session : Nat}
    (hsession : c.isOpen session = true) {status : SessionStatus}
    (hlast : ¬0 < (c.setStatus session status).openCount unit) :
    c.Closes unit (c.statuses.set session status) where
  openUnit := hunit
  length := List.length_set
  stays other hother := by
    have hset := c.status_setStatus session status other
    have hne : session ≠ other := by
      rintro rfl
      rw [hsession] at hother
      cases hother
    rwa [if_neg fun h => hne h.1] at hset
  resolved other hother := by
    intro hopen
    exact hlast ((openCount_pos_iff _ unit).mpr ⟨other, hother, (isOpen_iff _ other).mpr hopen⟩)

/-- All open sessions of a unit of work are resolved at once. -/
theorem closes_resolveOpen {unit : UnitOfWork} (hunit : c.openUnit = some unit)
    {status : SessionStatus} (hstatus : status ≠ .opened) :
    c.Closes unit (c.resolveOpen unit status).statuses where
  openUnit := hunit
  length := c.length_resolveOpen unit status
  stays other hother := by
    have hresolve := c.status_resolveOpen unit status other
    rwa [if_neg fun h => by rw [hother] at h; exact Bool.false_ne_true h.2] at hresolve
  resolved other hother := by
    have hresolve := c.status_resolveOpen unit status other
    intro hopen
    rw [show (c.resolveOpen unit status).status other = .opened from hopen] at hresolve
    split at hresolve
    · exact hstatus hresolve.symm
    · rename_i hnot
      exact hnot ⟨hother, (c.isOpen_iff other).mpr hresolve.symm⟩

/-- A unit of work that is open was not committed, so revoking its open
sessions makes it fail. -/
theorem Attended.not_allCommitted_resolveOpen (h : c.Attended) {unit : UnitOfWork}
    (hunit : c.openUnit = some unit) :
    ¬AllCommitted (c.resolveOpen unit .revoked).statuses unit := by
  intro hall
  obtain ⟨session, hmem, hopen⟩ := h.awaited unit hunit
  have hresolve := c.status_resolveOpen unit .revoked session
  rw [if_pos ⟨hmem, hopen⟩] at hresolve
  exact absurd ((hall session hmem).symm.trans hresolve) nofun

end

end Coordinator

end LayeredStore
