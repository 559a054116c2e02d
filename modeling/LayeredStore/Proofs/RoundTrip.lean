import LayeredStore.Journal

/-!
# `LayeredStore.Proofs.RoundTrip`: a record is read back as it was written

The journal holds the record of a flush in bytes, and whoever starts
after a crash sees nothing else of it. So reading has to give back what
was written, for every record that can be written.

`Wire.Reads reader bytes value` says that a reader takes exactly these
bytes off the front of any input and makes the value of them. It is
shown from the parts of a record to the whole, one lemma per reader.

* `Utf8.decode_encode`: a text is read back from its UTF-8 bytes.
* `JournalRecord.decode_encode`: a record that fits is read back.
* `Journal.load_apply_recordBatch`: so it is found in the store that it
  was written to.
-/

set_option autoImplicit false

namespace LayeredStore

/-! ### Text -/

namespace Utf8

/-- A byte of a character that is followed by others. -/
private theorem decodeFrom_open (start : Nat) {lead : UInt8} {char : Unfinished} (rest : Bytes)
    (hlead : 128 ≤ lead.toNat) (hopen : Unfinished.ofLead? lead = some char) :
    decodeFrom start none (lead :: rest) = decodeFrom start (some char) rest := by
  have hnot : ¬lead < 0x80 := by
    rw [UInt8.lt_iff_toNat_lt]
    exact Nat.not_lt.mpr hlead
  rw [decodeFrom, if_neg hnot]
  simp only [hopen]

/-- A byte inside a character. -/
private theorem decodeFrom_more (start taken more bits : Nat) {low high b : UInt8} (rest : Bytes)
    (hlow : low.toNat ≤ b.toNat) (hhigh : b.toNat ≤ high.toNat) :
    decodeFrom start (some ⟨taken, more + 1, low, high, bits⟩) (b :: rest) =
      decodeFrom start (some ⟨taken + 1, more, 0x80, 0xBF, bits * 64 + b.toNat % 64⟩) rest := by
  have hrange : ¬(b < low ∨ high < b) := by
    simp only [UInt8.lt_iff_toNat_lt]
    omega
  rw [decodeFrom, if_neg hrange]

/-- The last byte of a character. -/
private theorem decodeFrom_last (start taken bits : Nat) {low high b : UInt8} (rest : Bytes)
    (hlow : low.toNat ≤ b.toNat) (hhigh : b.toNat ≤ high.toNat) :
    decodeFrom start (some ⟨taken, 0, low, high, bits⟩) (b :: rest) = do
      let chars ← decodeFrom (start + (taken + 1)) none rest
      return Char.ofNat (bits * 64 + b.toNat % 64) :: chars := by
  have hrange : ¬(b < low ∨ high < b) := by
    simp only [UInt8.lt_iff_toNat_lt]
    omega
  rw [decodeFrom, if_neg hrange]

/-- The first byte of two. -/
private theorem ofLead?_two {lead : UInt8} (hlow : 0xC2 ≤ lead.toNat) (hhigh : lead.toNat < 0xE0) :
    Unfinished.ofLead? lead = some ⟨1, 0, 0x80, 0xBF, lead.toNat % 32⟩ := by
  have hC2 : ¬lead < 0xC2 := by
    rw [UInt8.lt_iff_toNat_lt]
    exact Nat.not_lt.mpr hlow
  have hE0 : lead < 0xE0 := UInt8.lt_iff_toNat_lt.mpr hhigh
  rw [Unfinished.ofLead?, if_neg hC2, if_pos hE0]

/-- The first byte of three. What the second may be depends on it. -/
private theorem ofLead?_three {lead : UInt8} (hlow : 0xE0 ≤ lead.toNat)
    (hhigh : lead.toNat < 0xF0) :
    ∃ low high : UInt8, Unfinished.ofLead? lead = some ⟨1, 1, low, high, lead.toNat % 16⟩ ∧
      low.toNat = (if lead.toNat = 0xE0 then 0xA0 else 0x80) ∧
      high.toNat = (if lead.toNat = 0xED then 0x9F else 0xBF) := by
  have hC2 : ¬lead < 0xC2 := by
    rw [UInt8.lt_iff_toNat_lt]
    show ¬lead.toNat < 0xC2
    omega
  have hE0 : ¬lead < 0xE0 := by
    rw [UInt8.lt_iff_toNat_lt]
    exact Nat.not_lt.mpr hlow
  have hF0 : lead < 0xF0 := UInt8.lt_iff_toNat_lt.mpr hhigh
  have hlow' : lead.toNat = 0xE0 ↔ lead = 0xE0 := UInt8.toNat_inj (b := 0xE0)
  have hhigh' : lead.toNat = 0xED ↔ lead = 0xED := UInt8.toNat_inj (b := 0xED)
  rw [Unfinished.ofLead?, if_neg hC2, if_neg hE0, if_pos hF0]
  refine ⟨_, _, rfl, ?_, ?_⟩
  · simp only [hlow']
    split <;> rfl
  · simp only [hhigh']
    split <;> rfl

/-- The first byte of four. What the second may be depends on it. -/
private theorem ofLead?_four {lead : UInt8} (hlow : 0xF0 ≤ lead.toNat)
    (hhigh : lead.toNat < 0xF5) :
    ∃ low high : UInt8, Unfinished.ofLead? lead = some ⟨1, 2, low, high, lead.toNat % 8⟩ ∧
      low.toNat = (if lead.toNat = 0xF0 then 0x90 else 0x80) ∧
      high.toNat = (if lead.toNat = 0xF4 then 0x8F else 0xBF) := by
  have hC2 : ¬lead < 0xC2 := by
    rw [UInt8.lt_iff_toNat_lt]
    show ¬lead.toNat < 0xC2
    omega
  have hE0 : ¬lead < 0xE0 := by
    rw [UInt8.lt_iff_toNat_lt]
    show ¬lead.toNat < 0xE0
    omega
  have hF0 : ¬lead < 0xF0 := by
    rw [UInt8.lt_iff_toNat_lt]
    exact Nat.not_lt.mpr hlow
  have hF5 : lead < 0xF5 := UInt8.lt_iff_toNat_lt.mpr hhigh
  have hlow' : lead.toNat = 0xF0 ↔ lead = 0xF0 := UInt8.toNat_inj (b := 0xF0)
  have hhigh' : lead.toNat = 0xF4 ↔ lead = 0xF4 := UInt8.toNat_inj (b := 0xF4)
  rw [Unfinished.ofLead?, if_neg hC2, if_neg hE0, if_neg hF0, if_pos hF5]
  refine ⟨_, _, rfl, ?_, ?_⟩
  · simp only [hlow']
    split <;> rfl
  · simp only [hhigh']
    split <;> rfl

/-- A byte that carries six bits, as every byte of a character but the
first does. -/
private theorem toNat_sixBits (n : Nat) : (UInt8.ofNat (n % 64 + 0x80)).toNat = n % 64 + 0x80 :=
  UInt8.toNat_ofNat_of_lt' (by
    show n % 64 + 0x80 < 256
    omega)

/-- It can stand at every place behind the second. -/
private theorem sixBits_inRange (n : Nat) :
    (0x80 : UInt8).toNat ≤ (UInt8.ofNat (n % 64 + 0x80)).toNat ∧
      (UInt8.ofNat (n % 64 + 0x80)).toNat ≤ (0xBF : UInt8).toNat := by
  rw [toNat_sixBits]
  show 0x80 ≤ n % 64 + 0x80 ∧ n % 64 + 0x80 ≤ 0xBF
  omega

private theorem decodeFrom_one {code : Nat} (hone : code ≤ 0x7f) (start : Nat) (rest : Bytes) :
    decodeFrom start none (UInt8.ofNat code :: rest) = do
      let chars ← decodeFrom (start + 1) none rest
      return Char.ofNat code :: chars := by
  have hbyte : (UInt8.ofNat code).toNat = code := UInt8.toNat_ofNat_of_lt' (by
    show code < 256
    omega)
  have hlt : UInt8.ofNat code < 0x80 := by
    rw [UInt8.lt_iff_toNat_lt, hbyte]
    show code < 0x80
    omega
  rw [decodeFrom, if_pos hlt, hbyte]

private theorem decodeFrom_two {code : Nat} (hone : 0x7f < code) (htwo : code ≤ 0x7ff)
    (start : Nat) (rest : Bytes) :
    decodeFrom start none (UInt8.ofNat (code / 64 % 32 + 0xc0) ::
        UInt8.ofNat (code % 64 + 0x80) :: rest) = do
      let chars ← decodeFrom (start + (1 + 1)) none rest
      return Char.ofNat code :: chars := by
  have hlead : (UInt8.ofNat (code / 64 % 32 + 0xc0)).toNat = code / 64 + 0xc0 := by
    rw [UInt8.toNat_ofNat']
    omega
  obtain ⟨hlow, hhigh⟩ := sixBits_inRange code
  rw [decodeFrom_open start _ (by omega) (ofLead?_two (by omega) (by omega)),
    decodeFrom_last start 1 _ rest hlow hhigh, hlead, toNat_sixBits]
  have hbits : (code / 64 + 0xc0) % 32 * 64 + (code % 64 + 0x80) % 64 = code := by omega
  rw [hbits]

private theorem decodeFrom_three {code : Nat} (htwo : 0x7ff < code) (hthree : code ≤ 0xffff)
    (hvalid : code < 0xD800 ∨ 0xDFFF < code) (start : Nat) (rest : Bytes) :
    decodeFrom start none (UInt8.ofNat (code / 4096 % 16 + 0xe0) ::
        UInt8.ofNat (code / 64 % 64 + 0x80) :: UInt8.ofNat (code % 64 + 0x80) :: rest) = do
      let chars ← decodeFrom (start + (1 + 1 + 1)) none rest
      return Char.ofNat code :: chars := by
  have hlead : (UInt8.ofNat (code / 4096 % 16 + 0xe0)).toNat = code / 4096 + 0xe0 := by
    rw [UInt8.toNat_ofNat']
    omega
  obtain ⟨low, high, hopen, hlow, hhigh⟩ :=
    @ofLead?_three (UInt8.ofNat (code / 4096 % 16 + 0xe0)) (by omega) (by omega)
  -- Neither an overlong form nor a surrogate.
  have hsecond : low.toNat ≤ (UInt8.ofNat (code / 64 % 64 + 0x80)).toNat ∧
      (UInt8.ofNat (code / 64 % 64 + 0x80)).toNat ≤ high.toNat := by
    rw [toNat_sixBits, hlow, hhigh, hlead]
    constructor <;> split <;> omega
  obtain ⟨hlast, hlast'⟩ := sixBits_inRange code
  rw [decodeFrom_open start _ (by omega) hopen,
    decodeFrom_more start 1 0 _ _ hsecond.1 hsecond.2,
    decodeFrom_last start (1 + 1) _ rest hlast hlast', hlead, toNat_sixBits, toNat_sixBits]
  have hbits : ((code / 4096 + 0xe0) % 16 * 64 + (code / 64 % 64 + 0x80) % 64) * 64 +
      (code % 64 + 0x80) % 64 = code := by omega
  rw [hbits]

private theorem decodeFrom_four {code : Nat} (hthree : 0xffff < code) (hvalid : code < 0x110000)
    (start : Nat) (rest : Bytes) :
    decodeFrom start none (UInt8.ofNat (code / 262144 % 8 + 0xf0) ::
        UInt8.ofNat (code / 4096 % 64 + 0x80) :: UInt8.ofNat (code / 64 % 64 + 0x80) ::
          UInt8.ofNat (code % 64 + 0x80) :: rest) = do
      let chars ← decodeFrom (start + (1 + 1 + 1 + 1)) none rest
      return Char.ofNat code :: chars := by
  have hlead : (UInt8.ofNat (code / 262144 % 8 + 0xf0)).toNat = code / 262144 + 0xf0 := by
    rw [UInt8.toNat_ofNat']
    omega
  obtain ⟨low, high, hopen, hlow, hhigh⟩ :=
    @ofLead?_four (UInt8.ofNat (code / 262144 % 8 + 0xf0)) (by omega) (by omega)
  -- Neither an overlong form nor above the last character.
  have hsecond : low.toNat ≤ (UInt8.ofNat (code / 4096 % 64 + 0x80)).toNat ∧
      (UInt8.ofNat (code / 4096 % 64 + 0x80)).toNat ≤ high.toNat := by
    rw [toNat_sixBits, hlow, hhigh, hlead]
    constructor <;> split <;> omega
  obtain ⟨hthird, hthird'⟩ := sixBits_inRange (code / 64)
  obtain ⟨hlast, hlast'⟩ := sixBits_inRange code
  rw [decodeFrom_open start _ (by omega) hopen,
    decodeFrom_more start 1 1 _ _ hsecond.1 hsecond.2,
    decodeFrom_more start (1 + 1) 0 _ _ hthird hthird',
    decodeFrom_last start (1 + 1 + 1) _ rest hlast hlast', hlead, toNat_sixBits, toNat_sixBits,
    toNat_sixBits]
  have hbits : (((code / 262144 + 0xf0) % 8 * 64 + (code / 4096 % 64 + 0x80) % 64) * 64 +
      (code / 64 % 64 + 0x80) % 64) * 64 + (code % 64 + 0x80) % 64 = code := by omega
  rw [hbits]

/-- The bytes of a character are read as the character, and reading goes
on behind them. -/
theorem decodeFrom_utf8EncodeChar (c : Char) (start : Nat) (rest : Bytes) :
    ∃ next, decodeFrom start none (String.utf8EncodeChar c ++ rest) = do
      let chars ← decodeFrom next none rest
      return c :: chars := by
  have hchar : Char.ofNat c.val.toNat = c := c.ofNat_toNat
  -- A character is no surrogate, and lies below 0x110000.
  have hvalid : c.val.toNat < 0xD800 ∨ 0xDFFF < c.val.toNat ∧ c.val.toNat < 0x110000 := c.valid
  unfold String.utf8EncodeChar
  generalize c.val.toNat = code at *
  subst hchar
  show ∃ next, decodeFrom start none ((ite (code ≤ 0x7f) _ _ : Bytes) ++ rest) = _
  split
  · rename_i hone
    exact ⟨_, decodeFrom_one hone start rest⟩
  rename_i hone
  split
  · rename_i htwo
    exact ⟨_, decodeFrom_two (Nat.not_le.mp hone) htwo start rest⟩
  rename_i htwo
  split
  · rename_i hthree
    exact ⟨_, decodeFrom_three (Nat.not_le.mp htwo) hthree (hvalid.imp_right And.left) start rest⟩
  · rename_i hthree
    exact ⟨_, decodeFrom_four (Nat.not_le.mp hthree) (by omega) start rest⟩

/-- A text is read back from its UTF-8 bytes. -/
theorem decode_encode (text : String) : decode (encode text) = .ok text := by
  have hchars : ∀ (chars : List Char) (start : Nat),
      decodeFrom start none (chars.flatMap String.utf8EncodeChar) = .ok chars := by
    intro chars
    induction chars with
    | nil => intro start; rfl
    | cons c chars ih =>
      intro start
      obtain ⟨next, hnext⟩ :=
        decodeFrom_utf8EncodeChar c start (chars.flatMap String.utf8EncodeChar)
      rw [List.flatMap_cons, hnext, ih next]
      rfl
  rw [decode, encode, hchars]
  exact congrArg Except.ok text.ofList_toList

end Utf8

/-! ### Readers -/

namespace Wire

variable {α β : Type}

/-- The reader takes these bytes off the front of any input, and makes
this value of them. -/
def Reads (reader : Reader α) (bytes : Bytes) (value : α) : Prop :=
  ∀ rest, reader (bytes ++ rest) = .ok (value, rest)

theorem reads_pure (value : α) : Reads (pure value) [] value := fun _ => rfl

/-- What is written one after the other is read one after the other. -/
theorem Reads.bind {reader : Reader α} {next : α → Reader β} {first later : Bytes} {a : α} {b : β}
    (h : Reads reader first a) (h' : Reads (next a) later b) :
    Reads (reader >>= next) (first ++ later) b := by
  intro rest
  show (reader (first ++ later ++ rest) >>= fun p => next p.1 p.2) = _
  rw [List.append_assoc, h]
  exact h' rest

/-- A value is read from the same bytes when it is changed after it. -/
theorem Reads.map {reader : Reader α} {bytes : Bytes} {a : α} (h : Reads reader bytes a)
    (f : α → β) : Reads (do return f (← reader)) bytes (f a) := by
  have hbind : Reads (reader >>= fun a => pure (f a)) (bytes ++ []) (f a) :=
    h.bind (reads_pure (f a))
  rwa [List.append_nil] at hbind

theorem reads_takeBytes (bytes : Bytes) : Reads (takeBytes bytes.length) bytes bytes := by
  intro rest
  have hle : bytes.length ≤ (bytes ++ rest).length := by simp
  rw [takeBytes, if_pos hle, List.take_left, List.drop_left]

theorem reads_byte (b : UInt8) : Reads byte [b] b := fun _ => rfl

theorem reads_count {n : Nat} (h : fits n = true) : Reads count (putLength n) n := by
  have hn : n < Nat.pow 256 4 := of_decide_eq_true h
  have htake : Reads (takeBytes 4) (putLength n) (putLength n) := by
    have htake := reads_takeBytes (putLength n)
    rwa [show (putLength n).length = 4 from Bytes.length_littleEndian 4 n] at htake
  have hcount := htake.map Bytes.ofLittleEndian
  rwa [putLength, Bytes.ofLittleEndian_littleEndian 4 n hn] at hcount

theorem reads_bytes {value : Bytes} (h : fits value.length = true) :
    Reads bytes (putBytes value) value :=
  (reads_count h).bind (reads_takeBytes value)

theorem reads_text {value : String} (h : fits (Utf8.encode value).length = true) :
    Reads text (putText value) value := by
  have htext : Reads text (putText value ++ []) value := by
    refine (reads_bytes h).bind ?_
    simp only [Utf8.decode_encode]
    exact reads_pure value
  rwa [List.append_nil] at htext

/-- A list is read back if each of its items is. -/
theorem reads_list {item : Reader α} {put : α → Bytes} {items : List α}
    (h : fits items.length = true) (hitems : ∀ a ∈ items, Reads item (put a) a) :
    Reads (list item) (putList put items) items := by
  have hrepeated : Reads (repeated item items.length) (items.flatMap put) items := by
    clear h
    induction items with
    | nil => exact reads_pure []
    | cons a items ih =>
      have hrest := ih fun b hb => hitems b (List.mem_cons_of_mem _ hb)
      exact (hitems a List.mem_cons_self).bind (hrest.map (a :: ·))
  exact (reads_count h).bind hrepeated

/-- A value that fills the input is read whole. -/
theorem Reads.whole {reader : Reader α} {bytes : Bytes} {value : α} (h : Reads reader bytes value) :
    Reader.whole reader bytes = .ok value := by
  have hread := h []
  rw [List.append_nil] at hread
  rw [Reader.whole, hread]

end Wire

/-! ### The parts of a record -/

open Wire

theorem Entry.reads_encode {entry : Entry} (h : entry.fits = true) :
    Reads Entry.reader entry.encode entry := by
  cases entry with
  | value bytes => exact (reads_byte 0).bind ((reads_bytes h).map Entry.value)
  | tombstone => exact (reads_byte 1).bind (reads_pure Entry.tombstone)

theorem Batch.fits_iff {batch : Batch} :
    batch.fits = true ↔ Wire.fits batch.length = true ∧ ∀ pair ∈ batch,
      Wire.fits pair.1.length = true ∧ pair.2.fits = true := by
  simp only [Batch.fits, Bool.and_eq_true, List.all_eq_true]

theorem Batch.reads_encodePair {pair : Bytes × Entry} (hkey : Wire.fits pair.1.length = true)
    (hentry : pair.2.fits = true) : Reads Batch.pairReader (Batch.encodePair pair) pair :=
  (reads_bytes hkey).bind ((Entry.reads_encode hentry).map (pair.1, ·))

namespace JournalRecord

theorem fits_iff {record : JournalRecord} :
    record.fits = true ↔ Wire.fits record.tables.length = true ∧ ∀ table ∈ record.tables,
      Wire.fits (Utf8.encode table.1).length = true ∧ table.2.fits = true := by
  simp only [fits, Bool.and_eq_true, List.all_eq_true]

theorem reads_encodeTable {table : String × Batch}
    (hname : Wire.fits (Utf8.encode table.1).length = true) (hbatch : table.2.fits = true) :
    Reads tableReader (encodeTable table) table := by
  obtain ⟨hlength, hpairs⟩ := Batch.fits_iff.mp hbatch
  have hlist : Reads (list Batch.pairReader) (putList Batch.encodePair table.2) table.2 :=
    reads_list hlength fun pair hmem =>
      Batch.reads_encodePair (hpairs pair hmem).1 (hpairs pair hmem).2
  exact (reads_text hname).bind (hlist.map (table.1, ·))

/-- A record that fits is read table by table. -/
theorem reads_tables {record : JournalRecord} (h : record.fits = true) :
    Reads (list tableReader) record.encode record.tables := by
  obtain ⟨hlength, htables⟩ := fits_iff.mp h
  exact reads_list hlength fun table hmem =>
    reads_encodeTable (htables table hmem).1 (htables table hmem).2

/-- A record that fits is read back as it was written. -/
theorem decode_encode {record : JournalRecord} (h : record.fits = true) :
    decode record.encode = .ok record := by
  rw [decode, (reads_tables h).whole]
  rfl

end JournalRecord

/-- A store that the record was written to is found to hold it. -/
theorem Journal.load_apply_recordBatch {record : JournalRecord} (h : record.fits = true)
    (contents : Contents) :
    Journal.load (contents.apply (Journal.recordBatch record)) = .ok (some record) := by
  have hget : (contents.apply (Journal.recordBatch record)).get? Journal.key =
      some record.encode := by
    show (contents.put Journal.key (.value record.encode)).get? Journal.key = _
    rw [Contents.get?_put, if_pos rfl]
    rfl
  rw [Journal.load, hget]
  simp only [JournalRecord.decode_encode h]

end LayeredStore
