import LayeredStore.Proofs.Newest
import LayeredStore.Proofs.Agreement
import LayeredStore.Proofs.Forcing

/-!
# `LayeredStore.Proofs.Draining`: layers that are drained leave what direct writes leave

A database with layers is run next to a disabled one that is only given
the writes and the registrations. The tables of both read the same with
all their diffs, whatever else the first one is asked for. So once its
layers are drained, the roots hold the same.

* `Command.registeredAfter`: which tables are registered follows from the
  commands alone, so the two databases have the same ones.
* `World.Alongside` relates the two worlds. `Alongside.both` and
  `Alongside.aside` say that a command keeps it, and `Alongside.runAll`
  that a run does.
* `PlainDatabase.Layered.drained`: draining leaves no diffs, and the
  tables read as they did.
* `World.layered_agrees_with_direct`: the two databases, opened over the
  same stores.
-/

set_option autoImplicit false

namespace LayeredStore

open World

/-! ### Tables -/

/-- The tables' names and roots after a command. A table is registered if
its name is not taken. -/
def Command.registeredAfter (registered : List (String × String)) :
    Command → List (String × String)
  | addTable name root =>
    if (registered.map (·.1)).contains name then registered else registered ++ [(name, root)]
  | _ => registered

/-- Every table has one diff for every level. -/
theorem Coordinator.Sound.even_plain {c : Coordinator} (h : c.Sound) (held : String → Contents) :
    (c.plain held).Even := by
  intro table hmem
  obtain ⟨chain, hchain, rfl⟩ := List.mem_map.mp hmem
  have hstep := h.chains chain hchain
  constructor
  · show ((chain.layers.take chain.pending).map _).length = c.pending
    rw [List.length_map, List.length_take, hstep.length_layers, hstep.pending,
      Nat.min_eq_left h.pending_le]
  · show ((chain.layers.drop chain.pending).map _).length = c.depth
    rw [List.length_map, List.length_drop, hstep.length_layers, hstep.pending]
    rfl

namespace Operation

/-- Registering a table never fails for the length of a record. -/
theorem addTable_registers {w : World} (hrun : w.Running) (hup : w.plain.shutDown = false)
    (name root : String) :
    (addTable name root).Ends w fun r w' => r ≠ .error (.error .unencodable) ∧
      w'.db.coordinator.registered =
        (Command.addTable name root).registeredAfter w.db.coordinator.registered := by
  have hstopped := Coordinator.stopped?_eq_none hrun.2 hup
  unfold Command.registeredAfter
  dsimp only
  rw [← Coordinator.tableNames_eq]
  apply addTable_rule
  case refused =>
    intro error herror
    cases hstopped.symm.trans herror
  case duplicate =>
    intro _ htaken
    rw [if_pos (List.contains_iff_mem.mpr htaken)]
    exact ⟨by rintro ⟨⟩, rfl⟩
  case registered =>
    intro _ hfresh
    rw [if_neg (mt List.contains_iff_mem.mp hfresh)]
    exact ⟨by rintro ⟨⟩, List.map_append⟩

end Operation

namespace World

section
variable {stores : String → Contents} {w v : World}

/-- The same of the command. -/
theorem Ready.addTable_registers (h : w.Ready stores) (hup : w.plain.shutDown = false)
    (name root : String) :
    (Command.addTable name root).run.Ends w fun r w' => r ≠ .error (.error .unencodable) ∧
      w'.db.coordinator.registered =
        (Command.addTable name root).registeredAfter w.db.coordinator.registered := by
  unfold Command.run Database.addTable
  rw [Operation.ends_bind, Operation.ends_locked, if_neg (ne_true_of_eq_false h.running.1),
    Operation.ends_bind]
  refine (Operation.addTable_registers h.running hup name root).mono fun r w' hend => ?_
  match r, hend with
  | .ok table, hend => exact ⟨nofun, hend.2⟩
  | .error (.error error), hend => exact ⟨fun heq => hend.1 (by cases heq; rfl), hend.2⟩
  | .error .panic, hend => exact ⟨nofun, hend.2⟩

/-- Which tables are registered follows from the commands. -/
theorem Ready.registered_run (h : w.Ready stores) (hup : w.plain.shutDown = false)
    (command : Command) : (command.run.perform w).2.db.coordinator.registered =
      command.registeredAfter w.db.coordinator.registered := by
  have hother : (∀ name root, command ≠ .addTable name root) →
      (command.run.perform w).2.db.coordinator.registered = w.db.coordinator.registered := by
    intro hne
    rcases act_cases h.sound (.call command) with hcalm | ⟨_, _, hopens⟩ | ⟨name, root, hmove, _⟩
    · exact hcalm.keeps.registered
    · exact hopens.registered.1
    · cases hmove
      exact absurd rfl (hne name root)
  cases command with
  | addTable name root => exact (h.addTable_registers hup name root).2
  | _ => exact hother nofun

/-- Where there are no layers, no record is written, so none is too
long. -/
theorem Ready.encodable_of_straight (h : v.Ready stores) (hstraight : v.plain.Straight)
    {command : Command} (hcommand : command.straight = true) :
    (command.run.perform v).1 ≠ .error (.error .unencodable) := by
  obtain ⟨name, root, rfl⟩ | ⟨table, key, entry, rfl⟩ := Command.straight_cases hcommand
  · exact (h.addTable_registers hstraight.running name root).1
  have hpending : v.db.coordinator.pending = 0 := hstraight.pending
  have hdepth : v.db.coordinator.depth = 0 := hstraight.live
  have hlevels : v.db.coordinator.levels = [] := by
    rw [Coordinator.depth, hpending] at hdepth
    exact List.eq_nil_of_length_eq_zero hdepth
  have hstopped := Coordinator.stopped?_eq_none h.running.2 hstraight.running
  cases hchain : v.db.coordinator.tables[table.index]? with
  | some chain =>
    obtain ⟨hanswer, -⟩ := h.sound.writesThrough hlevels h.running.1 hstopped table chain key
      entry hchain
    rw [hanswer.mpr (h.healthy.write chain.root [(key, entry)]).1]
    rintro ⟨⟩
  | none =>
    -- The table is not one of the database, so nothing is written.
    show (Command.write table key entry).run.Ends v fun r _ => r ≠ .error (.error .unencodable)
    unfold Command.run Table.write
    rw [Operation.ends_bind, Operation.ends_locked, if_neg (ne_true_of_eq_false h.running.1)]
    apply Operation.writeEntry_rule
    case unknown => rintro _ _ ⟨⟩
    case refused =>
      intro error herror
      cases hstopped.symm.trans herror
    all_goals
      intro _ _ hsome
      cases hchain.symm.trans hsome

/-- A command whose records can be encoded leads to what the plain model
does. -/
theorem Ready.run (h : w.Ready stores) (hlimit : w.plain.WithinLimit) {command : Command}
    (hdistinct : (command.run.perform w).2.db.coordinator.DistinctStores)
    (hencodable : (command.run.perform w).1 ≠ .error (.error .unencodable)) :
    (command.run.perform w).2.Ready stores ∧
      (command.run.perform w).2.plain = (w.plain.run stores command).2 ∧
      (command.run.perform w).2.plain.WithinLimit := by
  have hend : Follows stores (w.plain.run stores command) (command.run.perform w).1
      (command.run.perform w).2 := command.run_follows h hlimit hdistinct
  obtain hfault | ⟨-, hplain, hready⟩ := hend
  · exact absurd hfault hencodable
  · exact ⟨hready, hplain, hplain ▸ hlimit.run stores command⟩

/-! ### Two databases -/

/-- Two databases have the same tables over the same stores. One has
layers and the other has not, and with all their diffs the tables read
the same. -/
structure Alongside (stores : String → Contents) (w v : World) : Prop where
  layered : w.plain.Layered
  straight : v.plain.Straight
  ready : w.Ready stores
  straightReady : v.Ready stores
  limit : w.plain.WithinLimit
  straightLimit : v.plain.WithinLimit
  registered : v.db.coordinator.registered = w.db.coordinator.registered
  journal : v.db.coordinator.journal = w.db.coordinator.journal
  newest : v.plain.newest = w.plain.newest

variable {command : Command}

/-- What only the database with layers is asked for changes nothing of
how the tables read. -/
theorem Alongside.aside (h : Alongside stores w v) (hscheduled : command.scheduled = true)
    (hcommand : command.straight = false)
    (hdistinct : (command.run.perform w).2.db.coordinator.DistinctStores)
    (hencodable : (command.run.perform w).1 ≠ .error (.error .unencodable)) :
    Alongside stores (command.run.perform w).2 v := by
  obtain ⟨hready, hplain, hlimit⟩ := h.ready.run h.limit hdistinct hencodable
  obtain ⟨hnewest, hlayered⟩ := h.layered.run_reads stores hscheduled hcommand
  rw [← hplain] at hnewest hlayered
  have hsame : command.registeredAfter w.db.coordinator.registered =
      w.db.coordinator.registered := by
    cases command with
    | addTable => cases hcommand
    | _ => rfl
  exact { h with
    layered := hlayered
    ready := hready
    limit := hlimit
    registered := by rw [h.ready.registered_run h.layered.running, hsame, h.registered]
    journal := h.journal.trans (registered_act h.ready.sound (.call command)).2.symm
    newest := h.newest.trans hnewest.symm }

/-- What both databases are asked for changes how the tables read in the
same way. -/
theorem Alongside.both (h : Alongside stores w v) (hcommand : command.straight = true)
    (hdistinct : (command.run.perform w).2.db.coordinator.DistinctStores)
    (hencodable : (command.run.perform w).1 ≠ .error (.error .unencodable)) :
    Alongside stores (command.run.perform w).2 (command.run.perform v).2 := by
  have hregistered : (command.run.perform v).2.db.coordinator.registered =
      (command.run.perform w).2.db.coordinator.registered := by
    rw [h.ready.registered_run h.layered.running,
      h.straightReady.registered_run h.straight.running, h.registered]
  have hjournal : (command.run.perform v).2.db.coordinator.journal =
      (command.run.perform w).2.db.coordinator.journal :=
    calc (command.run.perform v).2.db.coordinator.journal
      _ = v.db.coordinator.journal := (registered_act h.straightReady.sound (.call command)).2
      _ = w.db.coordinator.journal := h.journal
      _ = _ := (registered_act h.ready.sound (.call command)).2.symm
  have hdistinct' : (command.run.perform v).2.db.coordinator.DistinctStores := by
    rw [Coordinator.distinctStores_iff, hregistered, hjournal]
    exact (Coordinator.distinctStores_iff _).mp hdistinct
  -- Each of the two follows its own plain database, and these are compared.
  obtain ⟨hready, hplain, hlimit⟩ := h.ready.run h.limit hdistinct hencodable
  obtain ⟨hready', hplain', hlimit'⟩ := h.straightReady.run h.straightLimit hdistinct'
    (h.straightReady.encodable_of_straight h.straight hcommand)
  have hnames : v.plain.tables.map (·.name) = w.plain.tables.map (·.name) := by
    show (v.db.coordinator.plain _).tables.map _ = (w.db.coordinator.plain _).tables.map _
    rw [Coordinator.names_plain, Coordinator.names_plain, Coordinator.tableNames_eq,
      Coordinator.tableNames_eq, h.registered]
  exact {
    layered := hplain ▸ h.layered.run_straight stores hcommand
    straight := hplain' ▸ h.straight.run stores hcommand
    ready := hready
    straightReady := hready'
    limit := hlimit
    straightLimit := hlimit'
    registered := hregistered
    journal := hjournal
    newest := by
      rw [hplain, hplain']
      exact PlainDatabase.newest_run_congr h.layered h.straight (h.ready.sound.even_plain _)
        (h.straightReady.sound.even_plain _) hnames h.newest stores hcommand }

/-- So after a schedule, of which the other database is given the writes
and the registrations. -/
theorem Alongside.runAll (h : Alongside stores w v) {commands : List Command}
    (hscheduled : ∀ command ∈ commands, command.scheduled = true)
    (hdistinct : (w.runAll commands).db.coordinator.DistinctStores)
    (hencodable : .error (.error .unencodable) ∉ w.replies commands) :
    Alongside stores (w.runAll commands) (v.runAll (commands.filter Command.straight)) := by
  induction commands generalizing w v with
  | nil => exact h
  | cons command rest ih =>
    obtain ⟨hcommand, hrest⟩ := List.forall_mem_cons.mp hscheduled
    rw [replies, List.mem_cons, not_or] at hencodable
    obtain ⟨hanswer, hanswers⟩ := hencodable
    have hdistinct₁ : (command.run.perform w).2.db.coordinator.DistinctStores :=
      distinctStores_of_runAll h.ready.sound [command] rest hdistinct
    cases hstraight : command.straight with
    | true =>
      rw [List.filter_cons_of_pos hstraight]
      exact ih (h.both hstraight hdistinct₁ (Ne.symm hanswer)) hrest hdistinct hanswers
    | false =>
      rw [List.filter_cons_of_neg (ne_true_of_eq_false hstraight)]
      exact ih (h.aside hcommand hstraight hdistinct₁ (Ne.symm hanswer)) hrest hdistinct hanswers

end

end World

/-! ### Draining -/

/-- Commands by which layers are drained of which this many are live: as
many merges or more, or a shutdown. -/
inductive Command.Drains (live : Nat) : List Command → Prop
  | merges {count : Nat} (h : live ≤ count) : Drains live (List.replicate count .merge)
  | shutdown : Drains live [.shutdown]

namespace PlainDatabase

section
variable {p : PlainDatabase}

/-- Merging some diffs after the other. -/
theorem Layered.merges (h : p.Layered) (hclosed : p.openUnit = none) (stores : String → Contents)
    (count : Nat) : p.Reads (p.runAll stores (List.replicate count .merge)) ∧
      (p.runAll stores (List.replicate count .merge)).live = p.live - count := by
  induction count generalizing p with
  | zero => exact ⟨h.reads, rfl⟩
  | succ count ih =>
    obtain ⟨hnewest, hlayered⟩ := h.merge_reads
    obtain ⟨hlive, hclosed'⟩ := h.merge hclosed
    obtain ⟨⟨hnewest', hlayered'⟩, hlive'⟩ := ih hlayered hclosed'
    refine ⟨⟨hnewest'.trans hnewest, hlayered'⟩, hlive'.trans ?_⟩
    rw [hlive]
    omega

/-- With no unit of work open, draining leaves no diffs, and the tables
read as they did with them. -/
theorem Layered.drained (h : p.Layered) (hclosed : p.openUnit = none)
    (stores : String → Contents) {drain : List Command} (hdrain : Command.Drains p.live drain) :
    (p.runAll stores drain).newest = p.newest ∧ (p.runAll stores drain).pending = 0 ∧
      (p.runAll stores drain).live = 0 := by
  cases hdrain with
  | merges hcount =>
    obtain ⟨⟨hnewest, hlayered⟩, hlive⟩ := h.merges hclosed stores _
    have hdry := hlive.trans (Nat.sub_eq_zero_of_le hcount)
    exact ⟨hnewest, hlayered.settled hdry, hdry⟩
  | shutdown => exact h.shutdown hclosed

end

end PlainDatabase

namespace World

section
variable {stores : String → Contents} {w v : World}

/-- A table without diffs reads as what its store holds. -/
theorem newest_of_dry (hsound : w.db.coordinator.Sound) (hpending : w.plain.pending = 0)
    (hlive : w.plain.live = 0) :
    w.plain.newest = w.db.coordinator.registered.map fun table => w.disk.contents table.2 := by
  have heven : w.plain.Even := hsound.even_plain _
  have hroots : w.plain.newest = w.plain.tables.map (·.root) := by
    refine List.map_congr_left fun table hmem => ?_
    obtain ⟨hpendings, hlives⟩ := heven table hmem
    exact PlainTable.newest_of_nil
      (List.eq_nil_of_length_eq_zero (hpendings.trans hpending))
      (List.eq_nil_of_length_eq_zero (hlives.trans hlive))
  rw [hroots, Coordinator.registered, List.map_map]
  exact List.map_map

/-- Databases without diffs that have the same tables, which read the
same, have left the same in every store but the journal. -/
theorem Ready.contents_eq (h : w.Ready stores) (h' : v.Ready stores)
    (hregistered : v.db.coordinator.registered = w.db.coordinator.registered)
    (hjournal : v.db.coordinator.journal = w.db.coordinator.journal)
    (hnewest : w.plain.newest = v.plain.newest) (hpending : w.plain.pending = 0)
    (hlive : w.plain.live = 0) (hstraight : v.plain.Straight) {store : String}
    (hstore : store ≠ w.db.coordinator.journal) :
    w.disk.contents store = v.disk.contents store := by
  rw [newest_of_dry h.sound hpending hlive,
    newest_of_dry h'.sound hstraight.pending hstraight.live, hregistered] at hnewest
  by_cases hroot : store ∈ w.db.coordinator.registered.map (·.2)
  · obtain ⟨table, hmem, rfl⟩ := List.mem_map.mp hroot
    exact List.map_inj_left.mp hnewest table hmem
  · rw [h.untouched store hstore hroot,
      h'.untouched store (hjournal ▸ hstore) (hregistered ▸ hroot)]

/-- Once the database with layers is drained, both have left the same. -/
theorem Alongside.drained (h : Alongside stores w v) (hclosed : w.db.coordinator.openUnit = none)
    {drain : List Command} (hdrain : Command.Drains w.db.coordinator.depth drain)
    (hdistinct : (w.runAll drain).db.coordinator.DistinctStores)
    (hencodable : .error (.error .unencodable) ∉ w.replies drain) :
    (w.runAll drain).db.coordinator.depth = 0 ∧ (w.runAll drain).db.coordinator.pending = 0 ∧
      ∀ store, store ≠ w.db.coordinator.journal →
        (w.runAll drain).disk.contents store = v.disk.contents store := by
  obtain ⟨hplain, hready⟩ := (runAll_follows h.ready h.limit drain hdistinct hencodable).2 drain []
    (List.append_nil drain).symm
  obtain ⟨hnewest, hpending, hlive⟩ := h.layered.drained hclosed stores hdrain
  rw [← hplain] at hnewest hpending hlive
  obtain ⟨hgrown, hjournal⟩ := registered_play h.ready.sound (drain.map .call)
  rw [← runAll_eq_play] at hgrown hjournal
  -- As many tables read the same as before, so none was registered.
  have hlength := congrArg List.length hnewest
  simp only [PlainDatabase.newest, plain, Coordinator.plain, List.length_map,
    ← Coordinator.length_registered] at hlength
  have hregistered := hgrown.eq_of_length hlength.symm
  refine ⟨hlive, hpending, fun store hstore => ?_⟩
  exact hready.contents_eq h.straightReady (h.registered.trans hregistered)
    (h.journal.trans hjournal.symm) (hnewest.trans h.newest.symm) hpending hlive h.straight
    (hjournal.symm ▸ hstore)

end

/-- Layers change nothing of what the stores hold in the end. A database
that is enabled takes any schedule of writes, registrations, sessions that
are committed, merges and settings, and is drained once no unit of work is
open. Then no layers are left, and every store but the journal holds what
it holds after a disabled database over the same stores, which has
settings of its own, was only given the writes and the registrations. The
stores are distinct, none is set to fail, and there is no record in the
journal. What they cannot prevent is excluded: that the record of a flush
has a length that four bytes do not hold, which halts the database. -/
theorem layered_agrees_with_direct (disk : Disk) (layered direct : Configuration)
    (journal : String) (handlers handlers' : List Handler) (hhealthy : disk.Healthy)
    (hrecord : (disk.contents journal).get? Journal.key = none)
    (henabled : layered.enabled = true) (hdisabled : direct.enabled = false)
    (commands drain : List Command)
    (hscheduled : ∀ command ∈ commands, command.scheduled = true)
    (hclosed : ((opened disk layered journal handlers).runAll
      commands).db.coordinator.openUnit = none)
    (hdrain : Command.Drains ((opened disk layered journal handlers).runAll
      commands).db.coordinator.depth drain)
    (hdistinct : ((opened disk layered journal handlers).runAll
      (commands ++ drain)).db.coordinator.DistinctStores)
    (hencodable : .error (.error .unencodable) ∉
      (opened disk layered journal handlers).replies (commands ++ drain)) :
    let drained := (opened disk layered journal handlers).runAll (commands ++ drain)
    let written := (opened disk direct journal handlers').runAll
      (commands.filter Command.straight)
    drained.db.coordinator.depth = 0 ∧ drained.db.coordinator.pending = 0 ∧
      ∀ store, store ≠ journal → drained.disk.contents store = written.disk.contents store := by
  intro drained written
  let start := opened disk layered journal handlers
  have hstart : Alongside disk.contents start (opened disk direct journal handlers') :=
    { layered := ⟨rfl, henabled, rfl, nofun, fun _ => rfl⟩
      straight := ⟨rfl, hdisabled, rfl, rfl⟩
      ready := ready_opened layered handlers hhealthy hrecord
      straightReady := ready_opened direct handlers' hhealthy hrecord
      limit := PlainDatabase.withinLimit_opened layered
      straightLimit := PlainDatabase.withinLimit_opened direct
      registered := rfl
      journal := rfl
      newest := rfl }
  have hjournal := (registered_play hstart.ready.sound (commands.map .call)).2
  rw [← runAll_eq_play] at hjournal
  have hdrained : drained = (start.runAll commands).runAll drain :=
    runAll_append start commands drain
  rw [replies_append, List.mem_append, not_or] at hencodable
  -- The two go side by side through the schedule; the one with layers is then
  -- drained on its own.
  have h : Alongside disk.contents (start.runAll commands) written :=
    hstart.runAll hscheduled
      (distinctStores_of_runAll hstart.ready.sound commands drain hdistinct) hencodable.1
  obtain ⟨hdepth, hpending, hcontents⟩ :=
    h.drained hclosed hdrain (hdrained ▸ hdistinct) hencodable.2
  rw [hdrained]
  exact ⟨hdepth, hpending, fun store hstore => hcontents store (hjournal.symm ▸ hstore)⟩

/-- A unit of work of two sessions writes two keys and the next one
removes the first. One merge moves what is pending and what is live. -/
theorem layered_agrees_with_direct_removal :
    let layered : Configuration := { maxSize := 1, maxFlushCount := 2 }
    let direct : Configuration := { enabled := false }
    let commands := [Command.addTable "a" "root", .openSession false,
      .write ⟨0, "a"⟩ [1] (.value [2]), .openSession false, .write ⟨0, "a"⟩ [3] (.value [4]),
      .commit, .commit, .openSession false, .write ⟨0, "a"⟩ [1] .tombstone, .commit]
    Disk.Healthy .empty ∧ (Disk.empty.contents "journal").get? Journal.key = none ∧
      (∀ command ∈ commands, command.scheduled = true) ∧
      ((opened .empty layered "journal" []).runAll commands).db.coordinator.openUnit = none ∧
      Command.Drains ((opened .empty layered "journal" []).runAll commands).db.coordinator.depth
        [.merge] ∧
      ((opened .empty layered "journal" []).runAll
        (commands ++ [.merge])).db.coordinator.DistinctStores ∧
      .error (.error .unencodable) ∉
        (opened .empty layered "journal" []).replies (commands ++ [.merge]) ∧
      ((opened .empty layered "journal" []).runAll commands).db.coordinator.pending = 1 ∧
      (((opened .empty direct "journal" []).runAll
        (commands.filter Command.straight)).disk.contents "root").toList = [([3], [4])] ∧
      ((opened .empty layered "journal" []).runAll (commands ++ [.merge])).disk.contents "root" =
        ((opened .empty direct "journal" []).runAll
          (commands.filter Command.straight)).disk.contents "root" := by
  intro layered direct commands
  have hscheduled : ∀ command ∈ commands, command.scheduled = true := by decide +kernel
  have hclosed : ((opened .empty layered "journal" []).runAll
      commands).db.coordinator.openUnit = none := by decide +kernel
  have hdepth :
      ((opened .empty layered "journal" []).runAll commands).db.coordinator.depth ≤ 1 := by
    decide +kernel
  have hdistinct : ((opened .empty layered "journal" []).runAll
      (commands ++ [.merge])).db.coordinator.DistinctStores :=
    (Coordinator.distinctStores_iff _).mpr (by decide +kernel)
  have hencodable : .error (.error .unencodable) ∉
      (opened .empty layered "journal" []).replies (commands ++ [.merge]) := by decide +kernel
  have hagrees := layered_agrees_with_direct .empty layered direct "journal" [] [] (fun _ => rfl)
    rfl rfl rfl commands [.merge] hscheduled hclosed (.merges hdepth) hdistinct hencodable
  exact ⟨fun _ => rfl, rfl, hscheduled, hclosed, .merges hdepth, hdistinct, hencodable,
    by decide +kernel, by decide +kernel, hagrees.2.2 "root" (by decide)⟩

end World

end LayeredStore
