import LayeredStore.Proofs.Canonical
import LayeredStore.Proofs.Runs

/-!
# `LayeredStore.Proofs.Damage`: a record that is torn is not replayed

A write that was cut short, or that was laid over a longer one, leaves
bytes in the journal that are no record. Wherever they were cut, inside
a length, a name, a key or a value, they are found to be too short: no
part of a record is a record, and none is taken for bytes of another
form.

`Wire.Needs reader bytes` says that a reader runs out of input on every
part of these bytes that ends before they do. Like `Wire.Reads` it is
shown from the parts of a record to the whole; what is read in sequence
is cut either within the first value or behind it.

* `Journal.load_torn`: where a record was cut short, too little is found
  to be there.
* `Journal.load_overlong`: where something stands behind it, too much.
* `Operation.check_damaged`: a check that cannot read the record reports
  it and touches nothing.
-/

set_option autoImplicit false

namespace LayeredStore

/-! ### Readers that run out of input -/

namespace Wire

variable {α β : Type}

/-- The reader runs out of input on every part of these bytes that ends
before they do. -/
def Needs (reader : Reader α) (bytes : Bytes) : Prop :=
  ∀ front back, bytes = front ++ back → back ≠ [] → reader front = .error .truncated

/-- Nothing ends before the empty input. -/
theorem needs_nil (reader : Reader α) : Needs reader [] := fun _ _ hsplit hback =>
  absurd (List.append_eq_nil_iff.mp hsplit.symm).2 hback

/-- What reads no further needs no more. -/
theorem Needs.before {reader : Reader α} {bytes : Bytes} (h : Needs reader bytes)
    (next : α → Reader β) : Needs (reader >>= next) bytes := by
  intro front back hsplit hback
  show (reader front >>= fun p => next p.1 p.2) = _
  rw [h front back hsplit hback]
  rfl

/-- What is read one after the other is cut within the first part, or
behind it and within the second. -/
theorem Needs.bind {reader : Reader α} {next : α → Reader β} {first later : Bytes} {a : α}
    (hreads : Reads reader first a) (h : Needs reader first) (h' : Needs (next a) later) :
    Needs (reader >>= next) (first ++ later) := by
  -- A cut at or behind the end of the first part is one of the second.
  have hbehind : ∀ front back, later = front ++ back → back ≠ [] →
      (reader >>= next) (first ++ front) = .error .truncated := by
    intro front back hsplit hback
    show (reader (first ++ front) >>= fun p => next p.1 p.2) = _
    rw [hreads front]
    exact h' front back hsplit hback
  intro front back hsplit hback
  rcases List.append_eq_append_iff.mp hsplit with ⟨rest, rfl, hlater⟩ | ⟨rest, hfirst, rfl⟩
  · exact hbehind rest back hlater hback
  · cases rest with
    | nil =>
      have hwhole := hbehind [] later rfl hback
      rwa [hfirst, List.append_nil, List.append_nil] at hwhole
    | cons b rest => exact h.before next front (b :: rest) hfirst (List.cons_ne_nil _ _)

theorem needs_takeBytes (bytes : Bytes) : Needs (takeBytes bytes.length) bytes := by
  intro front back hsplit hback
  have hback : 0 < back.length := List.length_pos_iff.mpr hback
  have hlength : bytes.length = front.length + back.length := by
    rw [hsplit, List.length_append]
  rw [takeBytes, if_neg (by omega)]

theorem needs_byte (b : UInt8) : Needs byte [b] := by
  intro front back hsplit hback
  cases front with
  | nil => rfl
  | cons first front =>
    have hrest : [] = front ++ back := (List.cons.inj hsplit).2
    exact absurd (List.append_eq_nil_iff.mp hrest.symm).2 hback

theorem needs_count (n : Nat) : Needs count (putLength n) := by
  have htake := needs_takeBytes (putLength n)
  rw [show (putLength n).length = 4 from Bytes.length_littleEndian 4 n] at htake
  exact htake.before fun bytes => pure (Bytes.ofLittleEndian bytes)

theorem needs_bytes {value : Bytes} (h : fits value.length = true) :
    Needs bytes (putBytes value) :=
  Needs.bind (reads_count h) (needs_count value.length) (needs_takeBytes value)

/-- A text that was cut short is not looked at, also where it was cut
within a character. -/
theorem needs_text {value : String} (h : fits (Utf8.encode value).length = true) :
    Needs text (putText value) :=
  (needs_bytes h).before _

/-- A list is cut in its length or in one of its items. -/
theorem needs_list {item : Reader α} {put : α → Bytes} {items : List α}
    (h : fits items.length = true) (hreads : ∀ a ∈ items, Reads item (put a) a)
    (hneeds : ∀ a ∈ items, Needs item (put a)) : Needs (list item) (putList put items) := by
  have hrepeated : Needs (repeated item items.length) (items.flatMap put) := by
    clear h
    induction items with
    | nil => exact needs_nil _
    | cons a items ih =>
      have hrest := ih (fun b hb => hreads b (List.mem_cons_of_mem _ hb))
        fun b hb => hneeds b (List.mem_cons_of_mem _ hb)
      exact Needs.bind (hreads a List.mem_cons_self) (hneeds a List.mem_cons_self)
        (hrest.before fun rest => pure (a :: rest))
  exact Needs.bind (reads_count h) (needs_count items.length) hrepeated

/-- What was cut short is no whole value. -/
theorem Needs.whole {reader : Reader α} {bytes front back : Bytes} (h : Needs reader bytes)
    (hsplit : bytes = front ++ back) (hback : back ≠ []) :
    Reader.whole reader front = .error .truncated := by
  rw [Reader.whole, h front back hsplit hback]

/-- A value that something stands behind does not fill the input. -/
theorem Reads.whole_overlong {reader : Reader α} {bytes back : Bytes} {value : α}
    (h : Reads reader bytes value) (hback : back ≠ []) :
    Reader.whole reader (bytes ++ back) = .error .trailing := by
  obtain ⟨b, rest, rfl⟩ := List.exists_cons_of_ne_nil hback
  rw [Reader.whole, h (b :: rest)]

end Wire

/-! ### Records that were cut short or run on -/

open Wire

theorem Entry.needs_encode {entry : Entry} (h : entry.fits = true) :
    Needs Entry.reader entry.encode := by
  cases entry with
  | value bytes => exact Needs.bind (reads_byte 0) (needs_byte 0) ((needs_bytes h).before _)
  | tombstone => exact (needs_byte 1).before _

theorem Batch.needs_encodePair {pair : Bytes × Entry} (hkey : Wire.fits pair.1.length = true)
    (hentry : pair.2.fits = true) : Needs Batch.pairReader (Batch.encodePair pair) :=
  Needs.bind (reads_bytes hkey) (needs_bytes hkey) ((Entry.needs_encode hentry).before _)

namespace JournalRecord

theorem needs_encodeTable {table : String × Batch}
    (hname : Wire.fits (Utf8.encode table.1).length = true) (hbatch : table.2.fits = true) :
    Needs tableReader (encodeTable table) := by
  obtain ⟨hlength, hpairs⟩ := Batch.fits_iff.mp hbatch
  have hlist : Needs (list Batch.pairReader) (putList Batch.encodePair table.2) :=
    needs_list hlength
      (fun pair hmem => Batch.reads_encodePair (hpairs pair hmem).1 (hpairs pair hmem).2)
      fun pair hmem => Batch.needs_encodePair (hpairs pair hmem).1 (hpairs pair hmem).2
  exact Needs.bind (reads_text hname) (needs_text hname) (hlist.before _)

section
variable {record : JournalRecord} (h : record.fits = true)
include h

/-- A record is cut in its length or in one of its tables. -/
theorem needs_tables : Needs (list tableReader) record.encode := by
  obtain ⟨hlength, htables⟩ := fits_iff.mp h
  exact needs_list hlength
    (fun table hmem => reads_encodeTable (htables table hmem).1 (htables table hmem).2)
    fun table hmem => needs_encodeTable (htables table hmem).1 (htables table hmem).2

/-- A record that was cut short does not decode. -/
theorem decode_torn {front back : Bytes} (hsplit : record.encode = front ++ back)
    (hback : back ≠ []) : decode front = .error .truncated := by
  rw [decode, (needs_tables h).whole hsplit hback]
  rfl

/-- A record that something stands behind does not decode. -/
theorem decode_overlong {back : Bytes} (hback : back ≠ []) :
    decode (record.encode ++ back) = .error .trailing := by
  rw [decode, (reads_tables h).whole_overlong hback]
  rfl

end

end JournalRecord

namespace Journal

/-- A store that holds the front of a record cannot be read. -/
theorem load_torn {record : JournalRecord} (h : record.fits = true) {contents : Contents}
    {front back : Bytes} (hstored : contents.get? key = some front)
    (hsplit : record.encode = front ++ back) (hback : back ≠ []) :
    load contents = .error (.damaged .truncated) := by
  rw [load, hstored]
  simp only [JournalRecord.decode_torn h hsplit hback]

/-- A store that holds a record and something behind it cannot be
read. -/
theorem load_overlong {record : JournalRecord} (h : record.fits = true) {contents : Contents}
    {back : Bytes} (hstored : contents.get? key = some (record.encode ++ back))
    (hback : back ≠ []) : load contents = .error (.damaged .trailing) := by
  rw [load, hstored]
  simp only [JournalRecord.decode_overlong h hback]

end Journal

/-! ### What a check does about it -/

/-- A check that cannot read the record reports it before it has touched
anything. -/
theorem Operation.check_damaged {w : World} {source : IoError} (hrun : w.Running)
    (hshut : w.db.coordinator.shutDown = false)
    (hload : Journal.load (w.disk.contents w.db.coordinator.journal) = .error source) :
    Command.check.run.Ends w fun r w' =>
      r = .error (.error (.ioFailure "checkpoint" source)) ∧ w' = w := by
  have hrecover : recoverRunning.Ends w fun r w' =>
      r = .error (.error (.ioFailure "checkpoint" source)) ∧ w' = w := by
    -- The record is loaded once, so only the case in which it cannot be read
    -- is left.
    apply recoverRunning_rule
    case stopped =>
      intro hstopped
      simp [hrun.2, hshut] at hstopped
    case unreadable =>
      intro other _ _ hother
      cases hload.symm.trans hother
      exact ⟨rfl, rfl⟩
    case nothing =>
      intro _ _ hother
      cases hload.symm.trans hother
    case found =>
      intro _ _ _ hother
      cases hload.symm.trans hother
  have hcheck : (locked check).Ends w fun r w' =>
      r = .error (.error (.ioFailure "checkpoint" source)) ∧ w' = w := by
    rw [ends_locked, if_neg (by simp [hrun.1])]
    rw [ends_check]
    refine hrecover.mono fun r w' h => ?_
    obtain ⟨rfl, rfl⟩ := h
    exact ⟨rfl, rfl⟩
  show (do return .report (← Database.check) : Operation Reply).Ends w _
  rw [ends_bind]
  refine hcheck.mono fun r w' h => ?_
  obtain ⟨rfl, rfl⟩ := h
  exact ⟨rfl, rfl⟩

/-- **A damaged record is refused with the right fault.** Where the
journal holds the form of a record without its end, however much of it
is missing, reading it fails for too few bytes; where it holds the form
and anything behind it, for too many. And whenever the journal cannot be
read, whatever bytes are in it, a check of a running database fails with
an i/o failure of the checkpoint that gives the reason, and leaves the
disk, the database and the operator's log as they were. -/
theorem Journal.damaged_record_refused :
    (∀ record : JournalRecord, record.fits = true → ∀ (contents : Contents) (bytes : Bytes),
      contents.get? key = some bytes →
        ((∃ rest, rest ≠ [] ∧ record.form = bytes ++ rest) →
          load contents = .error (.damaged .truncated)) ∧
        ((∃ rest, rest ≠ [] ∧ bytes = record.form ++ rest) →
          load contents = .error (.damaged .trailing))) ∧
    (IoError.damaged .truncated).message = "Unexpected length of input" ∧
    (IoError.damaged .trailing).message = "Not all bytes read" ∧
    ∀ (w : World) (source : IoError), w.Running → w.db.coordinator.shutDown = false →
      load (w.disk.contents w.db.coordinator.journal) = .error source →
        Command.check.run.perform w = (.error (.error (.ioFailure "checkpoint" source)), w) := by
  refine ⟨fun record hfits contents bytes hstored => ⟨?_, ?_⟩, rfl, rfl,
    fun w source hrun hshut hload => ?_⟩
  · rintro ⟨rest, hrest, hsplit⟩
    rw [← record.encode_eq_form] at hsplit
    exact load_torn hfits hstored hsplit hrest
  · rintro ⟨rest, hrest, rfl⟩
    rw [← record.encode_eq_form] at hstored
    exact load_overlong hfits hstored hrest
  · have hcheck := Operation.check_damaged hrun hshut hload
    exact Prod.ext hcheck.1 hcheck.2

/-- A record cut within a character of a table's name, and one that a
byte follows: both are refused, and a check of a database opened over
either changes nothing. -/
theorem Journal.damaged_record_refused_within_name :
    let record : JournalRecord := ⟨[("ä", [([1], .value [7]), ([2], .tombstone)])]⟩
    let holding : Bytes → World := fun bytes =>
      World.opened (Disk.empty.overwrite "journal" key (.value bytes)) {} "journal" []
    let torn := holding (record.form.take 9)
    let overlong := holding (record.form ++ [0])
    record.fits = true ∧
      load (torn.disk.contents "journal") = .error (.damaged .truncated) ∧
      load (overlong.disk.contents "journal") = .error (.damaged .trailing) ∧
      Command.check.run.perform torn =
        (.error (.error (.ioFailure "checkpoint" (.damaged .truncated))), torn) ∧
      Command.check.run.perform overlong =
        (.error (.error (.ioFailure "checkpoint" (.damaged .trailing))), overlong) := by
  intro record holding torn overlong
  have hfits : record.fits = true := by decide +kernel
  obtain ⟨hload, -, -, hcheck⟩ := damaged_record_refused
  have htorn : load (torn.disk.contents "journal") = .error (.damaged .truncated) :=
    (hload record hfits _ (record.form.take 9) (by decide +kernel)).1
      ⟨record.form.drop 9, by decide +kernel, (List.take_append_drop 9 record.form).symm⟩
  have hoverlong : load (overlong.disk.contents "journal") = .error (.damaged .trailing) :=
    (hload record hfits _ (record.form ++ [0]) (by decide +kernel)).2
      ⟨[0], List.cons_ne_nil _ _, rfl⟩
  exact ⟨hfits, htorn, hoverlong, hcheck torn _ ⟨rfl, rfl⟩ rfl htorn,
    hcheck overlong _ ⟨rfl, rfl⟩ rfl hoverlong⟩

end LayeredStore
