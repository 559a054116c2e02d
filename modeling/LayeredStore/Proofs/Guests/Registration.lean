import LayeredStore.Proofs.Guests.Operations
import LayeredStore.Proofs.Rollback
import LayeredStore.Proofs.Standstill

/-!
# `LayeredStore.Proofs.Guests.Registration`: registering a table late

A table that nothing is written to is a guest, so a database does not
notice how long it has been there. Once it is registered in both of two
runs, these go on in the same way.

* `Move.PassesBy`: a move that leaves the guests alone. `play_beside`:
  worlds that differ in their guests alone do so after such moves.
* `Beside.register`: registering a guest late makes it the same as if it
  had been there before.
* `World.Matches`: what can be told of a database is the same in two
  worlds.
* `late_registration`: a table registered late is as one registered
  early, for the rest of the run.
-/

set_option autoImplicit false

namespace LayeredStore

theorem Disk.Alike.setPlan {disk other : Disk} {hole : Option String} (h : disk.Alike hole other)
    (store : String) (plan : Option FaultPlan) :
    (disk.setPlan store plan).Alike hole (other.setPlan store plan) := by
  intro name
  unfold Disk.setPlan
  rw [Disk.store_setStore, Disk.store_setStore]
  split
  · rename_i heq
    subst heq
    exact ⟨rfl, (h store).writes, (h store).contents⟩
  · exact h name

/-! ### Registering a table -/

namespace World

/-- A table of this name can be registered. -/
structure Admits (w : World) (name : String) : Prop where
  free : w.db.poisoned = false
  running : w.db.coordinator.stopped? = none
  fresh : name ∉ w.db.coordinator.tableNames

/-- The table that is registered next, with an empty layer for every
level. -/
def newTable (w : World) (name root : String) : Chain :=
  .padded name root w.db.coordinator.levels w.db.coordinator.pending w.db.coordinator.openSeq?

/-- The world after a table was registered. -/
def register (w : World) (name root : String) : World :=
  (w.withCoordinator { w.db.coordinator with
    tables := w.db.coordinator.tables ++ [w.newTable name root] }.bump).say
    (.tableRegistered name w.db.coordinator.depth w.db.coordinator.pending)

end World

open World

namespace Operation

/-- How registering a table ends: it is registered if it can be, and else
nothing happens. -/
inductive RegisterEnd (w : World) (name root : String) : Except Fault Reply → World → Prop
  | admitted (h : w.Admits name) :
      RegisterEnd w name root (.ok (.table ⟨w.db.coordinator.tables.length, name⟩))
        (w.register name root)
  | refused (h : ¬w.Admits name) (error : Error) : RegisterEnd w name root (.error (.error error)) w

theorem addTable_ends (w : World) (name root : String) :
    (Command.addTable name root).run.Ends w (RegisterEnd w name root) := by
  unfold Command.run Database.addTable
  rw [ends_bind, ends_locked]
  split
  · rename_i hpoisoned
    exact .refused (fun h => Bool.eq_false_iff.mp h.free hpoisoned) _
  rename_i hfree
  rw [ends_bind]
  apply addTable_rule
  case refused =>
    intro error herror
    refine .refused (fun h => ?_) _
    cases herror.symm.trans h.running
  case duplicate => exact fun _ htaken => .refused (fun h => h.fresh htaken) _
  case registered =>
    exact fun hstopped hfresh => .admitted ⟨Bool.eq_false_iff.mpr hfree, hstopped, hfresh⟩

end Operation

namespace World

variable {w v : World} {name root : String}

theorem addTable_of_admits (h : w.Admits name) (root : String) :
    (Command.addTable name root).run.Ends w fun r w' =>
      r = .ok (.table ⟨w.db.coordinator.tables.length, name⟩) ∧ w' = w.register name root := by
  refine (Operation.addTable_ends w name root).mono fun r w' hend => ?_
  cases hend with
  | admitted => exact ⟨rfl, rfl⟩
  | refused hnot => exact absurd h hnot

theorem admits_of_ok {reply : Reply}
    (h : ((Command.addTable name root).run.perform w).1 = .ok reply) : w.Admits name := by
  have hend : Operation.RegisterEnd w name root ((Command.addTable name root).run.perform w).1
    ((Command.addTable name root).run.perform w).2 := Operation.addTable_ends w name root
  rw [h] at hend
  generalize ((Command.addTable name root).run.perform w).2 = w' at hend
  cases hend with
  | admitted hadmits => exact hadmits

theorem registered_register (w : World) (name root : String) :
    (w.register name root).db.coordinator.registered =
      w.db.coordinator.registered ++ [(name, root)] := List.map_append

end World

/-! ### Moves that leave the guests alone -/

/-- The move registers no table, writes to no guest, lets no store fail,
and carries out no record that names a guest. -/
structure Move.PassesBy (guests : List (String × String)) (v : World) (move : Move) : Prop where
  registered : (move.act v).db.coordinator.registered = v.db.coordinator.registered
  writes : ∀ table key entry, move = .call (.write table key entry) →
    table.index < v.db.coordinator.tables.length ∨
      v.db.coordinator.tables.length + guests.length ≤ table.index
  omits : move = .call .check → ∀ guest ∈ guests, v.RecordOmits guest.1
  plans : ∀ store plan, move = .setPlan store plan → plan = none

namespace World

variable {guests : List (String × String)} {w v : World}

open Operation in
/-- A check ends in the same way, but for the number of tables in its
report. -/
theorem check_both (h : w.Beside guests v) (hw : w.db.coordinator.Sound)
    (hv : v.db.coordinator.Sound) (homits : ∀ guest ∈ guests, v.RecordOmits guest.1) :
    Command.check.run.Ends w fun r w' => Command.check.run.Ends v fun r' v' =>
      (guests = [] → r = r') ∧ w'.Beside guests v' := by
  have hcheck := Agree.locked h fun hpoisoned => check_agree h hw hv hpoisoned homits
  show (do return Reply.report (← locked check)).Ends w _
  rw [ends_map]
  refine Ends.mono hcheck fun r w' hend => ?_
  refine (ends_map v (locked check) Reply.report _).mpr
    (((ends_locked_map v check (·.counting guests.length) _).mp hend).mono ?_)
  rintro r' v' ⟨rfl, h'⟩
  refine ⟨fun hguests => ?_, h'⟩
  subst hguests
  cases r' <;> rfl

open Operation in
/-- A command ends in the same way with guests or without. -/
theorem run_both (h : w.Beside guests v) (hw : w.db.coordinator.Sound) (hv : v.db.coordinator.Sound)
    (command : Command) (hpasses : guests ≠ [] → (Move.call command).PassesBy guests v) :
    command.run.Ends w fun r w' => command.run.Ends v fun r' v' =>
      (guests = [] → r = r') ∧ w'.Beside guests v' := by
  have hanswer : ∀ {body : Operation Reply}, Agree none guests body body w v →
      body.Ends w fun r w' => body.Ends v fun r' v' =>
        (guests = [] → r = r') ∧ w'.Beside guests v' :=
    fun hbody => ⟨fun _ => hbody.1, hbody.2⟩
  cases command with
  | addTable name root =>
    refine hanswer (Agree.bind (Agree.locked h fun hpoisoned =>
      (addTable_agree h name root fun hrunning => ?_).bind
        fun index w' v' h' => agree_pure h' (⟨index, name⟩ : Table))
        fun table w' v' h' => agree_pure h' (Reply.table table))
    by_contra hneither
    obtain ⟨hguests, hfresh⟩ := not_or.mp hneither
    -- The table would be registered.
    have hsame := (hpasses hguests).registered
    have hact : (Move.call (.addTable name root)).act v = v.register name root :=
      (addTable_of_admits ⟨hpoisoned, hrunning, hfresh⟩ root).2
    rw [hact, registered_register] at hsame
    exact absurd (List.append_right_eq_self.mp hsame) (List.cons_ne_nil _ _)
  | write table key entry =>
    refine hanswer (Agree.bind (Agree.locked h fun _ => writeEntry_agree h ?_ key entry)
      fun _ w' v' h' => agree_pure h' Reply.done)
    obtain ⟨chains, published, hc, hchains, -⟩ := h.coordinator
    have hlength : w.db.coordinator.tables.length =
        v.db.coordinator.tables.length + guests.length := by
      rw [hc, ← hchains, List.length_map]
      exact List.length_append
    rw [hlength]
    by_cases hguests : guests = []
    · subst hguests
      exact Nat.lt_or_ge _ _
    · exact (hpasses hguests).writes table key entry rfl
  | check =>
    exact check_both h hw hv fun guest hmem =>
      (hpasses (List.ne_nil_of_mem hmem)).omits rfl guest hmem
  | _ =>
    exact hanswer (agree_iff_both.mpr (Command.run_both (parallel_besideBut none guests)
      (flushes_beside guests) h hw hv trivial))

theorem act_beside (h : w.Beside guests v) (hw : w.db.coordinator.Sound)
    (hv : v.db.coordinator.Sound) (move : Move) (hpasses : guests ≠ [] → move.PassesBy guests v) :
    (move.act w).Beside guests (move.act v) := by
  cases move with
  | call command => exact (run_both h hw hv command hpasses).2
  | close => exact (Database.drop_agree h).2
  | setPlan store plan =>
    refine ⟨h.coordinator, Disk.Alike.setPlan h.disk store plan, h.poisoned, fun hguests => ?_,
      h.fits⟩
    obtain rfl := (hpasses hguests).plans store plan rfl
    exact (h.healthy hguests).setPlan_none store

/-- A run that leaves the guests alone goes the same way with them or
without. -/
theorem play_beside (h : w.Beside guests v) (hw : w.db.coordinator.Sound)
    (hv : v.db.coordinator.Sound) (moves : List Move)
    (hpasses : guests ≠ [] → ∀ ran move rest, moves = ran ++ move :: rest →
      move.PassesBy guests (v.play ran)) :
    (w.play moves).Beside guests (v.play moves) := by
  induction moves generalizing w v with
  | nil => exact h
  | cons move moves ih =>
    have hfirst := act_beside h hw hv move fun hguests => hpasses hguests [] move moves rfl
    refine ih hfirst (act_sound hw move).1 (act_sound hv move).1
      fun hguests ran other rest hmoves => ?_
    exact hpasses hguests (move :: ran) other rest (congrArg (move :: ·) hmoves)

/-! ### Early and late -/

variable {name root : String}

/-- A table just registered is a guest. -/
theorem register_hosts (w : World) (name root : String) (hhealthy : w.disk.Healthy)
    (hname : Wire.fits (Utf8.encode name).length = true)
    (hroom : Wire.fits (w.db.coordinator.tables.length + 1) = true) :
    (w.register name root).Beside [(name, root)] w where
  coordinator := by
    refine ⟨[w.newTable name root], w.db.coordinator.published, ?_, rfl, ?_, rfl⟩
    · show { w.db.coordinator with tables := _ }.bump = _
      unfold Coordinator.bump Coordinator.hosting
      simp only [List.length_singleton, Nat.add_comm 1]
    · intro chain hmem
      rw [List.mem_singleton.mp hmem]
      exact Chain.blank_padded _ _ _ _ _
  disk _ := ⟨rfl, rfl, fun _ _ => rfl⟩
  poisoned := rfl
  healthy _ := hhealthy
  fits guest hmem := by
    rw [List.mem_singleton.mp hmem]
    exact ⟨hname, hroom⟩

/-- A guest is as the table that would be registered now. -/
theorem BesideBut.register (h : w.Beside [(name, root)] v) (hw : w.db.coordinator.Sound) :
    w.Beside [] (v.register name root) := by
  obtain ⟨chains, published, hc, hguests, hblank, hpublished⟩ := h.coordinator
  obtain ⟨chain, rfl, hchain⟩ := List.map_eq_singleton_iff.mp hguests
  have hmem : chain ∈ w.db.coordinator.tables := by
    rw [hc]
    exact List.mem_append_right _ List.mem_cons_self
  -- The chains of a sound coordinator are in step, and this one is blank.
  have hnew : chain = v.newTable name root := by
    have hpadded := (hblank chain List.mem_cons_self).eq_padded (hw.chains chain hmem)
    rw [(Prod.mk.inj hchain).1, (Prod.mk.inj hchain).2, hc] at hpadded
    exact hpadded
  subst hnew
  refine ⟨⟨[], published, ?_, rfl, nofun, hpublished⟩, h.disk, h.poisoned, nofun, nofun⟩
  rw [hc]
  show _ = { v.db.coordinator with tables := _ }.bump.hosting [] published
  unfold Coordinator.bump Coordinator.hosting
  simp only [List.append_nil, List.length_singleton, List.length_nil, Nat.zero_add, Nat.add_comm 1]

/-- A poisoned lock stays poisoned. -/
theorem play_poisoned (hsound : w.db.coordinator.Sound) (hpoisoned : w.db.poisoned = true)
    (moves : List Move) : (w.play moves).db.poisoned = true := by
  induction moves generalizing w with
  | nil => exact hpoisoned
  | cons move moves ih =>
    refine ih (act_sound hsound move).1 ?_
    rcases act_cases hsound move with
      hcalm | ⟨_, _, w₁, hpath, hend | hpush⟩ | ⟨_, _, _, hregister⟩
    · exact hcalm.keeps.poisoned hpoisoned
    · rw [hend]
      exact hpath.keeps.poisoned hpoisoned
    · cases (hpath.keeps.poisoned hpoisoned).symm.trans hpush.running.1
    · cases hpoisoned.symm.trans hregister.running.1

/-- What can be registered after a run could be registered before. -/
theorem admits_of_play (hsound : w.db.coordinator.Sound) {moves : List Move}
    (h : (w.play moves).Admits name) : w.Admits name where
  free := by
    cases hpoisoned : w.db.poisoned with
    | false => rfl
    | true => cases (play_poisoned hsound hpoisoned moves).symm.trans h.free
  running := by
    cases hstopped : w.db.coordinator.stopped? with
    | none => rfl
    | some error =>
      -- What has stopped stays so.
      have hstopped : w.db.coordinator.Stopped := .of_stopped? hstopped
      obtain ⟨error', hstopped'⟩ :=
        ((play_rests hsound hstopped moves).stopped hstopped).exists_stopped?
      cases hstopped'.symm.trans h.running
  fresh := by
    intro hmem
    refine h.fresh ?_
    rw [Coordinator.tableNames_eq] at hmem ⊢
    exact ((registered_play hsound moves).1.map _).subset hmem

/-- A move of a run that registers no table passes by the table that would be
registered next. -/
theorem passesBy_of_split (hsound : w.db.coordinator.Sound) {ran rest : List Move} {move : Move}
    (hregistered : (w.play (ran ++ move :: rest)).db.coordinator.registered =
      w.db.coordinator.registered)
    (hplans : ∀ store plan, move ≠ .setPlan store (some plan))
    (hwrites : ∀ table key entry, move = .call (.write table key entry) →
      table.index ≠ w.db.coordinator.tables.length)
    (homits : move = .call .check → (w.play ran).RecordOmits name) :
    move.PassesBy [(name, root)] (w.play ran) := by
  obtain ⟨hsound₁, -⟩ := sound_of_play hsound ran
  -- Tables are only ever added, so none was up to the move or at it.
  have hbefore := (registered_play hsound ran).1
  have hmove := (registered_act hsound₁ move).1
  have hafter := (registered_play (act_sound hsound₁ move).1 rest).1
  rw [← play_cons, ← play_append, hregistered] at hafter
  have hran : (w.play ran).db.coordinator.registered = w.db.coordinator.registered :=
    (hbefore.sublist.antisymm (hmove.trans hafter).sublist).symm
  have hlength := Coordinator.length_tables_of_registered hran
  refine ⟨?_, fun table key entry heq => ?_, fun heq guest hmem => ?_, fun store plan heq => ?_⟩
  · exact hmove.sublist.antisymm (hafter.trans hbefore).sublist |>.symm
  · have hne := hwrites table key entry heq
    rw [hlength, List.length_singleton]
    omega
  · rw [List.mem_singleton.mp hmem]
    exact homits heq
  · cases plan with
    | none => rfl
    | some plan => exact absurd heq (hplans store plan)

/-- Where the journal holds no record, a check has none to carry out. -/
theorem RecordOmits.of_noRecord (h : w.NoRecord) : w.RecordOmits name :=
  fun _ hload => absurd h (Operation.not_noRecord_of_load hload)

/-! ### What can be told of a database -/

/-- What can be told of a database is the same in both worlds: its state,
what the stores hold, every answer and every read. The digests over the
newest layers in the events it has published can differ. -/
structure Matches (w v : World) : Prop where
  coordinator : w.db.coordinator =
    { v.db.coordinator with published := w.db.coordinator.published }
  published : w.db.coordinator.published.map Event.undigested =
    v.db.coordinator.published.map Event.undigested
  stores : ∀ store, w.disk.store store = v.disk.store store
  poisoned : w.db.poisoned = v.db.poisoned
  answers : ∀ command : Command, (command.run.perform w).1 = (command.run.perform v).1
  get : ∀ (table : Table) (key : Bytes),
    ((table.get? key).perform w).1 = ((table.get? key).perform v).1
  iterate : ∀ table : Table, (table.iterate.perform w).1 = (table.iterate.perform v).1
  next : ∀ iter : TableIter, iter.next w = iter.next v

/-- Two worlds without guests in either match. -/
theorem BesideBut.matches (h : w.Beside [] v) (hw : w.db.coordinator.Sound)
    (hv : v.db.coordinator.Sound) : w.Matches v := by
  obtain ⟨chains, published, hc, hguests, -, hpublished⟩ := h.coordinator
  obtain rfl := List.map_eq_nil_iff.mp hguests
  -- Without guests the coordinators differ in what was published, which
  -- nothing reads.
  have hcoordinator : w.db.coordinator = { v.db.coordinator with published := published } := by
    rw [hc]
    unfold Coordinator.hosting
    simp only [List.append_nil, List.length_nil, Nat.zero_add]
  have hcontents : w.disk.contents = v.disk.contents := funext h.disk.contents_eq
  have hpublished' : w.db.coordinator.published = published := congrArg _ hc
  have hnext : ∀ table after, w.db.coordinator.nextVisible? w.disk table after =
      v.db.coordinator.nextVisible? v.disk table after := by
    intro table after
    unfold Coordinator.nextVisible?
    rw [hcontents, hcoordinator]
  refine
    { coordinator := hpublished' ▸ hcoordinator
      published := hpublished' ▸ hpublished
      stores := h.disk.store_eq
      poisoned := h.poisoned
      answers := fun command => (run_both h hw hv command fun hguests => absurd rfl hguests).1 rfl
      get := fun table key => ?_
      iterate := fun table => ?_
      next := fun iter => ?_ }
  · have hget : w.db.coordinator.get? w.disk table.index key =
        v.db.coordinator.get? v.disk table.index key := by
      unfold Coordinator.get?
      rw [hcontents, hcoordinator]
    have hagree : Operation.Agree none [] (table.get? key) (table.get? key) w v := by
      refine Operation.Agree.locked h fun _ => Operation.agree_read ?_
      rw [hget]
      exact Operation.agree_pure h _
    exact hagree.1
  · have hgeneration : w.db.coordinator.generation = v.db.coordinator.generation := by
      rw [hcoordinator]
    have hagree : Operation.Agree none [] table.iterate table.iterate w v := by
      refine Operation.Agree.locked h fun _ => ?_
      refine Operation.agree_get h fun chains published hc _ _ => ?_
      rw [← hc, hgeneration]
      exact Operation.agree_pure h _
    exact hagree.1
  · unfold TableIter.next
    simp only [h.poisoned, hnext]
    rw [hcoordinator]

/-! ### Main theorem -/

/-- A table is registered at an early point of a run or, as the same table,
only at a late one. Nothing is written to it in between, no other table is
registered, and no store fails.

Both answer with the same handle. At the late point the table has the same
layers in both runs: no entries, the sequence numbers of all levels, as many
pending as the others, every layer but the open unit's committed, and seals
that match. From then on the runs go on in the same way, whatever happens:
they match after every list of later moves.

The table's name and the number of tables can be encoded in the record of a
flush, which halts the database else, and no check in between carries out a
record that names the table. -/
theorem late_registration (disk : Disk) (configuration : Configuration) (journal : String)
    (handlers : List Handler) (before between : List Move) (name root : String) (reply : Reply) :
    let register := Command.addTable name root
    let u := (opened disk configuration journal handlers).play before
    let early := u.play (.call register :: between)
    let late := u.play (between ++ [.call register])
    u.disk.Healthy → (∀ store plan, .setPlan store (some plan) ∉ between) →
    Wire.fits (Utf8.encode name).length = true →
    Wire.fits (u.db.coordinator.tables.length + 1) = true →
    (u.play between).db.coordinator.registered = u.db.coordinator.registered →
    (∀ table key entry, .call (.write table key entry) ∈ between →
      table.index ≠ u.db.coordinator.tables.length) →
    (∀ ran rest, between = ran ++ .call .check :: rest → (u.play ran).RecordOmits name) →
    (register.run.perform (u.play between)).1 = .ok reply →
    (register.run.perform u).1 = .ok reply ∧
    reply = .table ⟨u.db.coordinator.tables.length, name⟩ ∧
    (∃ chain, early.db.coordinator.tables[u.db.coordinator.tables.length]? = some chain ∧
      late.db.coordinator.tables[u.db.coordinator.tables.length]? = some chain ∧
      chain.name = name ∧ chain.root = root ∧ chain.Blank ∧
      chain.InStep (u.play between).db.coordinator.levels (u.play between).db.coordinator.pending
        (u.play between).db.coordinator.openSeq?) ∧
    ∀ later : List Move, (early.play later).Matches (late.play later) := by
  intro register u early late hhealthy hplans hname hroom hregistered hwrites hchecks hreply
  have hsound : u.db.coordinator.Sound := play_sound disk configuration journal handlers before
  have hplayed : ∀ moves, (u.play moves).db.coordinator.Sound :=
    fun moves => (sound_of_play hsound moves).1
  have hlate : (u.play between).Admits name := admits_of_ok hreply
  have hadmits : u.Admits name := admits_of_play hsound hlate
  have hlength : (u.play between).db.coordinator.tables.length = u.db.coordinator.tables.length :=
    Coordinator.length_tables_of_registered hregistered
  obtain ⟨hreplyᵤ, hregister⟩ := addTable_of_admits hadmits root
  obtain ⟨hreply', hregister'⟩ := addTable_of_admits hlate root
  rw [hlength] at hreply'
  have hearly : early = (u.register name root).play between := congrArg (play · between) hregister
  have hlate' : late = (u.play between).register name root := (u.play_snoc _ _).trans hregister'
  have hearlySound : early.db.coordinator.Sound := hplayed _
  have hlateSound : late.db.coordinator.Sound := hplayed _
  -- Over the moves in between the new table is a guest.
  have hpasses : ∀ ran move rest, between = ran ++ move :: rest →
      move.PassesBy [(name, root)] (u.play ran) := by
    rintro ran move rest rfl
    exact passesBy_of_split hsound hregistered
      (fun store plan heq => hplans store plan (heq ▸ by simp))
      (fun table key entry heq => hwrites table key entry (heq ▸ by simp))
      fun heq => hchecks ran rest (heq ▸ rfl)
  have hbeside : early.Beside [(name, root)] (u.play between) := by
    rw [hearly]
    refine play_beside (register_hosts u name root hhealthy hname hroom) ?_ hsound between
      fun _ => hpasses
    exact hregister ▸ (act_sound hsound (.call register)).1
  have hmatch : early.Beside [] late := by
    rw [hlate']
    exact hbeside.register hearlySound
  refine ⟨hreplyᵤ.trans (hreply'.symm.trans hreply),
    Except.ok.inj (hreply.symm.trans hreply'), ?_, fun later => ?_⟩
  · have htables : early.db.coordinator.tables = late.db.coordinator.tables := by
      rw [(hmatch.matches hearlySound hlateSound).coordinator]
    have hnew : late.db.coordinator.tables[u.db.coordinator.tables.length]? =
        some ((u.play between).newTable name root) := by
      rw [hlate', ← hlength]
      exact List.getElem?_concat_length
    exact ⟨_, htables ▸ hnew, hnew, rfl, rfl, Chain.blank_padded _ _ _ _ _,
      Chain.InStep.padded _ _ _ _ _⟩
  · have hlater := play_beside hmatch hearlySound hlateSound later fun hguests => absurd rfl hguests
    exact hlater.matches (sound_of_play hearlySound later).1 (sound_of_play hlateSound later).1

/-- The table is registered either before a unit of work was committed and a
second one opened, or with the layer of the first pending and the second
open. In between, a flush and a check go by. -/
theorem late_registration_open_unit :
    let register := Command.addTable "t" "right"
    let u := (opened .empty { maxSize := 1, maxFlushCount := 2 } "journal" []).play
      [.call (.addTable "a" "left")]
    let between : List Move := [.call (.openSession false),
      .call (.write ⟨0, "a"⟩ [1] (.value [10])), .call .commit, .call (.openSession false),
      .call .commit, .call (.openSession false), .call .check, .call .commit,
      .call (.openSession false), .call (.write ⟨0, "a"⟩ [1] (.value [20]))]
    let early := u.play (.call register :: between)
    let late := u.play (between ++ [.call register])
    (u.play between).db.coordinator.levels = [3, 4] ∧
      (u.play between).db.coordinator.pending = 1 ∧
      (u.play between).db.coordinator.openSeq? = some 4 ∧
      ((u.play between).disk.store "left").writes = 1 ∧
      (register.run.perform u).1 = .ok (.table ⟨1, "t"⟩) ∧
      ∀ later : List Move, (early.play later).Matches (late.play later) := by
  intro register u between early late
  have hchecks : ∀ ran rest, between = ran ++ .call .check :: rest →
      (u.play ran).RecordOmits "t" := by
    intro ran rest hsplit
    -- No store fails, so no check in between finds a record.
    have hnone : ∀ n < 10, ((u.play (between.take n)).disk.contents
        (u.play (between.take n)).db.coordinator.journal).get? Journal.key = none := by
      decide +kernel
    have hran : between.take ran.length = ran := by rw [hsplit, List.take_left]
    have hlt : ran.length < 10 := by
      have hlength : ran.length + (rest.length + 1) = 10 := by
        rw [← List.length_cons, ← List.length_append, ← hsplit]
        rfl
      omega
    exact .of_noRecord (hran ▸ hnone ran.length hlt)
  have hlength : u.db.coordinator.tables.length = 1 := by decide +kernel
  have hwrites : ∀ table key entry, .call (.write table key entry) ∈ between →
      table.index ≠ u.db.coordinator.tables.length := by
    intro table key entry hmem
    simp only [between, List.mem_cons, Move.call.injEq, Command.write.injEq, reduceCtorEq, false_or,
      List.not_mem_nil, or_false] at hmem
    rw [hlength]
    rcases hmem with ⟨rfl, -⟩ | ⟨rfl, -⟩ <;> decide
  obtain ⟨hreply, -, -, hmatch⟩ := late_registration .empty { maxSize := 1, maxFlushCount := 2 }
    "journal" [] [.call (.addTable "a" "left")] between "t" "right" (.table ⟨1, "t"⟩)
    (Disk.healthy_of_forall (by decide +kernel)) (fun _ _ => by simp [between]) (by decide +kernel)
    (by decide +kernel) (by decide +kernel)
    hwrites hchecks (by decide +kernel)
  exact ⟨by decide +kernel, by decide +kernel, by decide +kernel, by decide +kernel, hreply, hmatch⟩

/-- The journal holds a record that names the table, with no entries. A check
carries the record out if it knows the table, and refuses it if it does not,
so whether the table is registered before the check or after it can be told
from what another table reads. -/
theorem late_registration_named_in_record :
    let record : JournalRecord := ⟨[("t", []), ("a", [([1], .value [10])])]⟩
    let disk := Disk.empty.overwrite "journal" Journal.key (.value record.encode)
    let register := Command.addTable "t" "right"
    let u := (opened disk {} "journal" []).play [.call (.addTable "a" "left")]
    let early := u.play [.call register, .call .check]
    let late := u.play [.call .check, .call register]
    u.disk.Healthy ∧ (register.run.perform u).1 = .ok (.table ⟨1, "t"⟩) ∧
      (register.run.perform (u.play [.call .check])).1 = .ok (.table ⟨1, "t"⟩) ∧
      (((⟨0, "a"⟩ : Table).get? [1]).perform early).1 = .ok (some [10]) ∧
      (((⟨0, "a"⟩ : Table).get? [1]).perform late).1 = .ok none ∧
      ¬early.Matches late := by
  intro record disk register u early late
  have hearly : (((⟨0, "a"⟩ : Table).get? [1]).perform early).1 = .ok (some [10]) := by
    decide +kernel
  have hlate : (((⟨0, "a"⟩ : Table).get? [1]).perform late).1 = .ok none := by decide +kernel
  refine ⟨Disk.healthy_of_forall (by decide +kernel), by decide +kernel, by decide +kernel, hearly,
    hlate, fun hmatch => ?_⟩
  have hsame := hmatch.get ⟨0, "a"⟩ [1]
  rw [hearly, hlate] at hsame
  cases hsame

end World

end LayeredStore
