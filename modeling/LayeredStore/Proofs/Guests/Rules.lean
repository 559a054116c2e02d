import LayeredStore.Proofs.Guests.Basic

/-!
# `LayeredStore.Proofs.Guests.Rules`: comparing operations step by step

Two worlds that differ in their guests are taken through the same
operation, one step at a time. `Operation.Agree` says that it ends in the
same way in both, and that they differ in their guests alone again. This is
`Operation.Both` for worlds beside each other, where no run is left out
(`agree_iff_both`), so it follows the same rules.

* `agree_bind`: what follows a first part is compared where this ends.
* `agree_get`: an operation that reads the coordinator reads one with
  guests in the first world, and the same without them in the second.
* `agree_update`: both coordinators are changed in a way that `Carries`.
-/

set_option autoImplicit false

namespace LayeredStore

open World

namespace Operation

variable {α β : Type} {hole hole' : Option String} {guests : List (String × String)} {w v : World}

/-- The first operation ends in the one world as the second does in the
other, and the worlds are side by side again. -/
def Agree (hole : Option String) (guests : List (String × String)) (body body' : Operation α)
    (w v : World) : Prop :=
  body.Ends w fun r w' => body'.Ends v fun r' v' => r = r' ∧ BesideBut hole guests w' v'

theorem agree_iff_both {body body' : Operation α} :
    Agree hole guests body body' w v ↔ Both False (BesideBut hole guests) body body' w v :=
  endsBoth_iff.symm

/-! ### Rules -/

/-- What follows a first part is compared if the first part succeeds, in
worlds of which more can be known than that they are side by side. -/
theorem agree_bind {body body' : Operation α} {next next' : α → Operation β}
    {P : Except Fault α → World → World → Prop}
    (h : body.Ends w fun r w' => body'.Ends v fun r' v' => r = r' ∧ P r' w' v')
    (hok : ∀ a w' v', P (.ok a) w' v' → Agree hole guests (next a) (next' a) w' v')
    (herror : ∀ fault w' v', P (.error fault) w' v' → BesideBut hole guests w' v') :
    Agree hole guests (body >>= next) (body' >>= next') w v :=
  agree_iff_both.mpr ((endsBoth_iff.mpr h).bind
    (fun a w' v' hend => agree_iff_both.mp (hok a w' v' hend)) herror)

theorem Agree.bind {body body' : Operation α} {next next' : α → Operation β}
    (h : Agree hole guests body body' w v)
    (hnext : ∀ a w' v', BesideBut hole guests w' v' → Agree hole guests (next a) (next' a) w' v') :
    Agree hole guests (body >>= next) (body' >>= next') w v :=
  agree_bind h hnext fun _ _ _ hend => hend

/-- The same, where more is known of how the first parts end. -/
theorem Agree.bind_of {body body' : Operation α} {next next' : α → Operation β}
    {P P' : Except Fault α → World → Prop} (h : Agree hole guests body body' w v)
    (hw : body.Ends w P) (hv : body'.Ends v P')
    (hnext : ∀ a w' v', BesideBut hole guests w' v' → P (.ok a) w' → P' (.ok a) v' →
      Agree hole guests (next a) (next' a) w' v') :
    Agree hole guests (body >>= next) (body' >>= next') w v :=
  agree_iff_both.mpr ((agree_iff_both.mp h).bind_of hw hv
    fun a w' v' h' hw' hv' => agree_iff_both.mp (hnext a w' v' h' hw' hv'))

theorem agree_pure (h : BesideBut hole guests w v) (a : α) :
    Agree hole guests (pure a) (pure a) w v := ⟨rfl, h⟩

theorem agree_fail (h : BesideBut hole guests w v) (error : Error) :
    Agree hole guests (fail error : Operation α) (fail error) w v := ⟨rfl, h⟩

theorem agree_get (h : BesideBut hole guests w v) {next next' : Coordinator → Operation α}
    (hnext : ∀ chains published, w.db.coordinator = v.db.coordinator.hosting chains published →
      chains.map (fun chain => (chain.name, chain.root)) = guests →
      (∀ chain ∈ chains, chain.Blank) →
      Agree hole' guests (next (v.db.coordinator.hosting chains published)) (next' v.db.coordinator)
        w v) :
    Agree hole' guests (getCoordinator >>= next) (getCoordinator >>= next') w v := by
  obtain ⟨chains, published, hc, hguests, hblank, -⟩ := h.coordinator
  have hagree := hnext chains published hc hguests hblank
  rw [← hc] at hagree
  exact hagree

theorem agree_read {next next' : World → Operation α}
    (h : Agree hole guests (next w) (next' v) w v) :
    Agree hole guests (get >>= next) (get >>= next') w v := h

theorem agree_update (h : BesideBut hole guests w v) {f : Coordinator → Coordinator}
    (hf : v.db.coordinator.Carries f) {next next' : Unit → Operation α}
    (hnext : BesideBut hole guests (w.withCoordinator (f w.db.coordinator))
        (v.withCoordinator (f v.db.coordinator)) →
      Agree hole' guests (next ()) (next' ()) (w.withCoordinator (f w.db.coordinator))
        (v.withCoordinator (f v.db.coordinator))) :
    Agree hole' guests (update f >>= next) (update f >>= next') w v := hnext (h.update hf)

theorem agree_note (h : BesideBut hole guests w v) (notice notice' : Notice)
    {next next' : Unit → Operation α}
    (hnext : BesideBut hole guests (w.say notice) (v.say notice') →
      Agree hole' guests (next ()) (next' ()) (w.say notice) (v.say notice')) :
    Agree hole' guests (note notice >>= next) (note notice' >>= next') w v :=
  hnext (h.say notice notice')

theorem agree_ite {p p' : Prop} [Decidable p] [Decidable p'] {body body' other other' : Operation α}
    (hiff : p ↔ p') (hpos : p' → Agree hole guests body body' w v)
    (hneg : ¬p' → Agree hole guests other other' w v) :
    Agree hole guests (if p then body else other) (if p' then body' else other') w v :=
  agree_iff_both.mpr (both_ite hiff (fun h => agree_iff_both.mp (hpos h))
    fun h => agree_iff_both.mp (hneg h))

theorem update_agree (h : BesideBut hole guests w v) {f : Coordinator → Coordinator}
    (hf : v.db.coordinator.Carries f) : Agree hole guests (update f) (update f) w v :=
  ⟨rfl, h.update hf⟩

theorem publish_agree (h : BesideBut hole guests w v) {event event' : Event}
    (hsame : event.undigested = event'.undigested) :
    Agree hole guests (publish event) (publish event') w v := ⟨rfl, h.announce hsame⟩

theorem agree_ensureRunning (h : BesideBut hole guests w v) {next next' : Unit → Operation α}
    (hnext : v.db.coordinator.stopped? = none → Agree hole guests (next ()) (next' ()) w v) :
    Agree hole guests (ensureRunning >>= next) (ensureRunning >>= next') w v :=
  agree_iff_both.mpr (both_ensureRunning (parallel_besideBut hole guests) h
    fun hstopped => agree_iff_both.mp (hnext hstopped))

theorem write_agree (h : BesideBut hole guests w v) (store : String) (batch : Batch) :
    Agree hole guests (write store batch) (write store batch) w v := by
  obtain ⟨hanswer, hwritten⟩ := h.write store batch
  unfold Agree
  rw [ends_write, hanswer]
  cases hwrite : (v.disk.write store batch).1 with
  | ok done =>
    show Ends _ v _
    rw [ends_write, hwrite]
    exact ⟨rfl, hwritten⟩
  | error failure =>
    cases failure <;>
    · show Ends _ v _
      rw [ends_write, hwrite]
      exact ⟨rfl, hwritten⟩

theorem Agree.locked {body body' : Operation α} (h : BesideBut hole guests w v)
    (hbody : v.db.poisoned = false → Agree hole guests body body' w v) :
    Agree hole guests (locked body) (locked body') w v :=
  agree_iff_both.mpr (Both.locked (parallel_besideBut hole guests) h
    fun hpoisoned => agree_iff_both.mp (hbody hpoisoned))

/-- The answer can be changed after the lock is let go of. -/
theorem ends_locked_map (w : World) (body : Operation α) (f : α → β)
    (Q : Except Fault β → World → Prop) :
    (locked (do return f (← body))).Ends w Q ↔ (locked body).Ends w fun r w' => Q (r.map f) w' := by
  rw [ends_locked, ends_locked]
  split
  · exact Iff.rfl
  · rw [ends_map]
    unfold Ends
    rcases body.perform w with ⟨r, w'⟩
    match r with
    | .ok a => exact Iff.rfl
    | .error (.error error) => exact Iff.rfl
    | .error .panic => exact Iff.rfl

end Operation

end LayeredStore
