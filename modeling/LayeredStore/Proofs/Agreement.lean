import LayeredStore.Proofs.Simulation.Operations
import LayeredStore.Proofs.Rollback

/-!
# `LayeredStore.Proofs.Agreement`: the database is told apart from plain maps by nothing

Every command does what the plain model does. So a whole run of a
database gives the answers of the plain model, and after each of its
commands the database reads as the plain model does.

* `Command.run_follows`: one command.
* `World.replies_follows`: a list of commands, by induction on it.
* `World.agrees_with_plain`: the run of a database that was just opened.
-/

set_option autoImplicit false

namespace LayeredStore

open World

/-! ### Handles -/

namespace Operation

section
variable {α β : Type} {stores : String → Contents} {w : World}

/-- Under the lock, which is free, an operation does what it does. -/
theorem locked_follows (h : w.Ready stores) {expected : Except Error α × PlainDatabase}
    {body : Operation α} (hbody : body.Ends w (Follows stores expected)) :
    (locked body).Ends w (Follows stores expected) := by
  rw [ends_locked, if_neg (by rw [h.running.1]; exact Bool.false_ne_true)]
  refine hbody.mono fun r w' hend => ?_
  match r, hend with
  | .ok a, hend => exact hend
  | .error (.error error), hend => exact hend
  | .error .panic, hend =>
    -- No operation that follows the plain model panics.
    obtain hio | ⟨hreply, -⟩ := hend
    · cases hio
    · cases hresult : expected.1 <;> rw [hresult] at hreply <;> cases hreply

/-- What is answered can be put into another form. -/
theorem map_follows {expected : Except Error α × PlainDatabase} {body : Operation α} (f : α → β)
    (hbody : body.Ends w (Follows stores expected)) :
    (do return f (← body)).Ends w (Follows stores (expected.map (Except.map f) id)) := by
  rw [ends_bind]
  refine hbody.mono fun r w' hend => ?_
  obtain rfl | ⟨rfl, hplain, hready⟩ := hend
  · exact .inl rfl
  cases hresult : expected.1 with
  | ok a => exact .inr ⟨by rw [Prod.map_fst, hresult]; rfl, hplain, hready⟩
  | error error => exact .inr ⟨by rw [Prod.map_fst, hresult]; rfl, hplain, hready⟩

theorem done_follows {expected : Except Error Unit × PlainDatabase} {body : Operation Unit}
    (hbody : body.Ends w (Follows stores expected)) :
    (do body; return Reply.done).Ends w
      (Follows stores (expected.map (Except.map fun _ => Reply.done) id)) :=
  map_follows (fun _ => Reply.done) hbody

/-- An operation that leaves the disk alone, under the lock. -/
theorem locked_answers (h : w.Ready stores) {expected : Except Error α × PlainDatabase}
    {body : Operation α} (hled : body.Ends w (Led Actually w))
    (hbody : body.Ends w (Answers expected w)) :
    (locked body).Ends w (Follows stores expected) := by
  refine locked_follows h ((hbody.and hled).mono fun r w' hend => ?_)
  obtain ⟨hanswers, hpath⟩ := hend
  match r, hpath with
  | .ok a, hpath => exact h.follows hpath hanswers
  | .error (.error error), hpath => exact h.follows hpath hanswers
  | .error .panic, hpath =>
    have hreply := hanswers.reply
    cases hresult : expected.1 <;> rw [hresult] at hreply <;> cases hreply

end

end Operation

namespace Session

open Operation

section
variable {stores : String → Contents} {w : World}

/-- Letting go of a session never fails. -/
theorem drop_ok (hsound : w.db.coordinator.Sound) (session : Session) :
    session.drop.Ends w fun r _ => r = .ok () := by
  apply drop_rule
  case closed => exact fun _ => rfl
  case lockedOut => exact fun _ _ => rfl
  case abandoned =>
    intro _ hfree
    have hsay : (w.say .sessionAbandoned).db.coordinator.Sound := hsound
    have hfree : ¬(w.say .sessionAbandoned).db.poisoned = true := ne_true_of_eq_false hfree
    rw [ends_locked, if_neg hfree]
    refine (abandonSession_answers hsay session.id .abandoned).mono fun r w' hend => ?_
    rw [hend.reply]
    rfl

/-- Letting go of a session revokes it if it is open. -/
theorem drop_follows (h : w.Ready stores) (session : Session) :
    session.drop.Ends w (Follows stores (.ok (), w.plain.abandon session.id .abandoned)) := by
  have hsay : w.Still (w.say .sessionAbandoned) := ⟨rfl, rfl, rfl⟩
  have hready : (w.say .sessionAbandoned).Ready stores := h.acts (Actually.say .refl rfl) hsay
  apply drop_rule
  case closed =>
    intro hresolved
    have hresolved : ¬w.plain.status session.id = .opened := of_decide_eq_false hresolved
    rw [PlainDatabase.abandon, if_neg hresolved]
    exact h.follows_self (.ok ())
  case lockedOut =>
    intro _ hpoisoned
    cases hpoisoned.symm.trans h.running.1
  case abandoned =>
    intro _ hfree
    have hfree : ¬(w.say .sessionAbandoned).db.poisoned = true := ne_true_of_eq_false hfree
    rw [ends_locked, if_neg hfree]
    refine ((abandonSession_answers hready.sound session.id .abandoned).and
      (abandonSession_led hready.sound hready.running.1 session.id .abandoned)).mono
      fun r w' hend => ?_
    obtain ⟨⟨rfl, hplain, hstill⟩, hpath⟩ := hend
    exact .inr ⟨rfl, hplain, hready.acts hpath hstill⟩

/-- Whatever an operation that uses a handle up answers, the handle is
let go of after it. -/
theorem useUp_follows (session : Session)
    {expected : Except Error Unit × PlainDatabase} {body : Operation Unit}
    (hsound : w.db.coordinator.Sound) (hpath : body.Ends w fun _ w' => Actually w w')
    (hbody : body.Ends w (Follows stores expected)) :
    (session.useUp body).Ends w
      (Follows stores (expected.1, expected.2.abandon session.id .abandoned)) := by
  rw [ends_useUp]
  refine (hbody.and hpath).mono fun r w₁ hend => ?_
  obtain ⟨rfl | ⟨rfl, hplain, hready⟩, hpath⟩ := hend
  · -- The database has halted. Letting go of the handle adds no other fault.
    refine (drop_ok (hpath.sound hsound) session).mono fun later w' hok => ?_
    rw [hok]
    exact .inl rfl
  · have hdrop := drop_follows hready session
    rw [hplain] at hdrop
    refine (hdrop.and (drop_ok hready.sound session)).mono fun later w' hend => ?_
    obtain ⟨hend, rfl⟩ := hend
    obtain hio | ⟨-, hplain', hready'⟩ := hend
    · cases hio
    cases hresult : expected.1 with
    | ok u => exact .inr ⟨rfl, hplain', hready'⟩
    | error error => exact .inr ⟨rfl, hplain', hready'⟩

theorem commit_follows (h : w.Ready stores) (session : Session) :
    session.commit.Ends w (Follows stores
      ((w.plain.commitSession session.id).1,
        (w.plain.commitSession session.id).2.abandon session.id .abandoned)) :=
  useUp_follows session h.sound
    (locked_path (fun _ => .refl) fun hpoisoned =>
      commitSession_led h.sound hpoisoned session.id)
    (locked_follows h (commitSession_follows h session.id))

theorem revoke_follows (h : w.Ready stores) (session : Session) :
    session.revoke.Ends w (Follows stores
      (.ok (), (w.plain.abandon session.id .revoked).abandon session.id .abandoned)) :=
  useUp_follows session h.sound
    (locked_path (fun _ => .refl) fun hpoisoned =>
      abandonSession_led h.sound hpoisoned session.id .revoked)
    (locked_answers h (abandonSession_led h.sound h.running.1 session.id .revoked)
      (abandonSession_answers h.sound session.id .revoked))

end

end Session

namespace Database

open Operation

theorem withoutBus_still (w : World) : w.withoutBus.plain = w.plain ∧ w.Still w.withoutBus := by
  unfold World.withoutBus
  dsimp only
  split
  · exact ⟨rfl, .refl w⟩
  · split <;> exact ⟨rfl, rfl, rfl, rfl⟩

theorem shutdown_follows {stores : String → Contents} {w : World} (h : w.Ready stores) :
    shutdown.Ends w (Follows stores (.ok (), w.plain.shutdown)) := by
  apply shutdown_rule
  case lockedOut =>
    intro hpoisoned
    cases hpoisoned.symm.trans h.running.1
  case stopped =>
    intro _
    refine (locked_follows h (stop_follows h)).mono fun r w₁ hend => ?_
    obtain rfl | ⟨rfl, hplain, hready⟩ := hend
    · exact .inl rfl
    · obtain ⟨hplain', hstill⟩ := withoutBus_still w₁
      exact .inr ⟨rfl, hplain'.trans hplain,
        hready.acts (Quietly.actually (withoutBus_quiets w₁)) hstill⟩

end Database

/-! ### Commands -/

open Operation in
/-- Every command does what the plain model does, if the stores are
distinct also after it. -/
theorem Command.run_follows {stores : String → Contents} {w : World} (h : w.Ready stores)
    (hlimit : w.plain.WithinLimit) (command : Command)
    (hdistinct : (command.run.perform w).2.db.coordinator.DistinctStores) :
    command.run.Ends w (Follows stores (w.plain.run stores command)) := by
  have hsound := h.sound
  have hrun := h.running
  have hfree := h.running.1
  cases command with
  | addTable name root =>
    -- The answer and the lock are taken off to get at the registration.
    have hdistinct' : (do return ⟨← Operation.addTable name root, name⟩ : Operation Table).Ends w
        fun _ w' => w'.db.coordinator.DistinctStores := by
      have hend : (Command.addTable name root).run.Ends w
          fun _ w' => w'.db.coordinator.DistinctStores := hdistinct
      unfold Command.run Database.addTable at hend
      rw [ends_bind, ends_locked, if_neg (by rw [hfree]; exact Bool.false_ne_true)] at hend
      refine hend.mono fun r w' hend => ?_
      match r, hend with
      | .ok table, hend => exact hend
      | .error (.error error), hend => exact hend
      | .error .panic, hend => exact hend
    have hadd := (addTable_follows h name root).and hdistinct'
    exact map_follows _ (locked_follows h (hadd.mono fun r w' hend => hend.1 hend.2))
  | openSession force =>
    exact map_follows _ (locked_follows h (openSession_follows h hlimit.live_le force))
  | commitSession session => exact done_follows (session.commit_follows h)
  | revokeSession session => exact done_follows (session.revoke_follows h)
  | dropSession session => exact done_follows (session.drop_follows h)
  | commit => exact done_follows (locked_follows h (commitInnermost_follows h))
  | revoke =>
    exact done_follows (locked_answers h (revoke_led hsound hfree) (revoke_answers hsound hrun))
  | merge => exact done_follows (locked_follows h (merge_follows h))
  | popMany count verify =>
    exact done_follows (locked_answers h (popMany_led hsound hfree count verify)
      (popMany_answers hsound hrun count verify))
  | enable => exact done_follows (locked_answers h enable_led (enable_answers hrun))
  | disable => exact done_follows (locked_answers h disable_led (disable_answers hsound hrun))
  | setCursor cursor offset =>
    exact done_follows
      (locked_answers h (setCursor_led cursor offset) (setCursor_answers hrun cursor offset))
  | setMaxSize limit => exact done_follows (locked_follows h (setMaxSize_follows h limit))
  | setMaxFlushCount limit =>
    exact done_follows (locked_follows h (setMaxFlushCount_follows h limit))
  | check =>
    exact map_follows _
      (locked_answers h (check_led_of_noRecord hsound h.noRecord) (check_answers h))
  | shutdown => exact done_follows (Database.shutdown_follows h)
  | write table key entry =>
    exact done_follows (locked_follows h (writeEntry_follows h table.index key entry))

/-! ### Runs -/

/-- What a run answers. -/
def World.replies (w : World) : List Command → List (Except Fault Reply)
  | [] => []
  | command :: rest => (command.run.perform w).1 :: replies (command.run.perform w).2 rest

/-- What a run answers over plain maps. -/
def PlainDatabase.replies (stores : String → Contents) (p : PlainDatabase) :
    List Command → List (Except Error Reply)
  | [] => []
  | command :: rest => (p.run stores command).1 :: replies stores (p.run stores command).2 rest

namespace World

/-- A run of commands is one of moves. -/
theorem runAll_eq_play (w : World) (commands : List Command) :
    w.runAll commands = w.play (commands.map .call) := by
  rw [play, List.foldl_map]
  rfl

theorem runAll_append (w : World) (before after : List Command) :
    w.runAll (before ++ after) = (w.runAll before).runAll after := List.foldl_append

theorem replies_append (w : World) (before after : List Command) :
    w.replies (before ++ after) = w.replies before ++ (w.runAll before).replies after := by
  induction before generalizing w with
  | nil => rfl
  | cons command before ih => exact congrArg _ (ih _)

/-- Stores that are distinct at the end of a run of commands were so all
along. -/
theorem distinctStores_of_runAll {w : World} (hsound : w.db.coordinator.Sound)
    (before after : List Command)
    (h : (w.runAll (before ++ after)).db.coordinator.DistinctStores) :
    (w.runAll before).db.coordinator.DistinctStores := by
  rw [runAll_append, runAll_eq_play w, runAll_eq_play] at h
  rw [runAll_eq_play]
  exact distinctStores_of_play (sound_of_play hsound _).1 h

/-- A run from a world that is ready answers and leads to what the plain
model does, as long as every record of a flush can be encoded. -/
theorem runAll_follows {stores : String → Contents} {w : World} (h : w.Ready stores)
    (hlimit : w.plain.WithinLimit) (commands : List Command)
    (hdistinct : (w.runAll commands).db.coordinator.DistinctStores)
    (hencodable : .error (.error .unencodable) ∉ w.replies commands) :
    w.replies commands =
        (w.plain.replies stores commands).map (·.mapError Fault.error) ∧
      ∀ before after, commands = before ++ after →
        (w.runAll before).plain = w.plain.runAll stores before ∧
          (w.runAll before).Ready stores := by
  induction commands generalizing w with
  | nil =>
    refine ⟨rfl, fun before after hsplit => ?_⟩
    rw [(List.append_eq_nil_iff.mp hsplit.symm).1]
    exact ⟨rfl, h⟩
  | cons command rest ih =>
    have hrest : (command.run.perform w).2.runAll rest = w.runAll (command :: rest) := rfl
    have hdistinct₁ : (command.run.perform w).2.db.coordinator.DistinctStores :=
      distinctStores_of_runAll h.sound [command] rest hdistinct
    have hend : Follows stores (w.plain.run stores command) (command.run.perform w).1
        (command.run.perform w).2 := command.run_follows h hlimit hdistinct₁
    obtain hfault | ⟨hreply, hplain, hready⟩ := hend
    · -- A record that could not be encoded would be among the answers.
      refine absurd ?_ hencodable
      rw [replies, hfault]
      exact List.mem_cons_self
    · have hlimit₁ := hlimit.run stores command
      rw [← hplain] at hlimit₁
      obtain ⟨hreplies, hsteps⟩ := ih hready hlimit₁ (hrest ▸ hdistinct)
        fun hmem => hencodable (List.mem_cons_of_mem _ hmem)
      rw [hplain] at hreplies hsteps
      refine ⟨?_, fun before after hsplit => ?_⟩
      · rw [replies, hreply, hreplies]
        rfl
      · cases before with
        | nil => exact ⟨rfl, h⟩
        | cons first before =>
          obtain ⟨rfl, htail⟩ := List.cons.inj hsplit
          exact hsteps before after htail

/-- A database that was just opened is ready, if no store is set to fail
and the journal holds no record. -/
theorem ready_opened {disk : Disk} (configuration : Configuration) {journal : String}
    (handlers : List Handler) (hhealthy : disk.Healthy)
    (hrecord : (disk.contents journal).get? Journal.key = none) :
    (opened disk configuration journal handlers).Ready disk.contents where
  sound := Coordinator.sound_new configuration journal _
  running := ⟨rfl, rfl⟩
  distinct := List.nodup_singleton journal
  healthy := hhealthy
  noRecord := hrecord
  untouched _ _ _ := rfl

/-- A database over distinct stores that are not set to fail, with no
record in its journal, is told apart from plain maps by nothing. Every
run of commands answers what the plain model answers, and after each of
them the database agrees with the plain model: in every table's root, its
pending and its live diffs, in what every lookup and every walk finds
through the cursor, in its settings, and in how sessions stand. What the
stores cannot prevent is excluded: that the record of a flush has a
length that four bytes do not hold, which halts the database. -/
theorem agrees_with_plain (disk : Disk) (configuration : Configuration) (journal : String)
    (handlers : List Handler) (hhealthy : disk.Healthy)
    (hrecord : (disk.contents journal).get? Journal.key = none) (commands : List Command)
    (hdistinct : ((opened disk configuration journal handlers).runAll
      commands).db.coordinator.DistinctStores)
    (hencodable : .error (.error .unencodable) ∉
      (opened disk configuration journal handlers).replies commands) :
    (opened disk configuration journal handlers).replies commands =
        ((PlainDatabase.opened configuration).replies disk.contents commands).map
          (·.mapError Fault.error) ∧
      ∀ before after, commands = before ++ after →
        ((opened disk configuration journal handlers).runAll before).Agrees
          ((PlainDatabase.opened configuration).runAll disk.contents before) := by
  let w := opened disk configuration journal handlers
  have hready : w.Ready disk.contents := ready_opened configuration handlers hhealthy hrecord
  have hlimit : w.plain.WithinLimit := PlainDatabase.withinLimit_opened configuration
  obtain ⟨hreplies, hsteps⟩ := runAll_follows hready hlimit commands hdistinct hencodable
  refine ⟨hreplies, fun before after hsplit => ?_⟩
  obtain ⟨hplain, hready'⟩ := hsteps before after hsplit
  have hagrees := agrees_plain hready'.sound hready'.running.1
  rw [hplain] at hagrees
  exact hagrees

/-- A table takes two units of work, the second of which moves the layer
of the first into the root. -/
theorem agrees_with_plain_second_unit :
    let configuration : Configuration := { maxSize := 1, maxFlushCount := 1 }
    let commands := [Command.addTable "a" "root", .openSession false,
      .write ⟨0, "a"⟩ [1] (.value [2]), .commit, .openSession false]
    Disk.Healthy .empty ∧ (Disk.empty.contents "journal").get? Journal.key = none ∧
      ((opened .empty configuration "journal" []).runAll
        commands).db.coordinator.DistinctStores ∧
      .error (.error .unencodable) ∉ (opened .empty configuration "journal" []).replies commands ∧
      ((PlainDatabase.opened configuration).runAll Disk.empty.contents commands).tables.map
        (·.root.toList) = [[([1], [2])]] ∧
      ((opened .empty configuration "journal" []).runAll commands).Agrees
        ((PlainDatabase.opened configuration).runAll Disk.empty.contents commands) := by
  intro configuration commands
  have hdistinct : ((opened .empty configuration "journal" []).runAll
      commands).db.coordinator.DistinctStores :=
    (Coordinator.distinctStores_iff _).mpr (by decide +kernel)
  have hencodable : .error (.error .unencodable) ∉
      (opened .empty configuration "journal" []).replies commands := by decide +kernel
  have hroots : ((PlainDatabase.opened configuration).runAll Disk.empty.contents
      commands).tables.map (·.root.toList) = [[([1], [2])]] := by decide +kernel
  have hagrees := agrees_with_plain .empty configuration "journal" [] (fun _ => rfl) rfl commands
    hdistinct hencodable
  exact ⟨fun _ => rfl, rfl, hdistinct, hencodable, hroots,
    hagrees.2 commands [] (List.append_nil _).symm⟩

end World

end LayeredStore
