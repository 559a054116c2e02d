import LayeredStore.Proofs.RoundTrip
import LayeredStore.Proofs.Writes

/-!
# `LayeredStore.Proofs.Canonical`: a record has one form in bytes

`LayeredStore.Proofs.RoundTrip` shows that what was written is read
back. This module shows the other direction: whatever is accepted was
written by no other bytes than those that writing the result again
makes. A text has one form in UTF-8, a length one form in four bytes,
and so a record has one form, and the byte strings that are accepted
are the forms of the records that fit.

`Wire.Takes reader P` says that what a reader takes off the front of an
input, and the value that it makes of it, are related by `P`. As with
`Wire.Reads` there is one lemma per reader, from the parts to the whole.

* `Utf8.encode_of_decode`: a text that was read spells the bytes that it
  was read from.
* `JournalRecord.decode_eq_ok_iff`: a byte string is read as a record if
  it is the form of that record, and the record fits.
* `Journal.load_eq_some_iff`: what a store is found to hold.
* `Journal.record_load_canonical`: both directions, with the writes that
  put a record into its store and take it out.
-/

set_option autoImplicit false

namespace LayeredStore

/-- A sequence that ends well went well from its first part on. -/
theorem exists_ok_of_bind {ε α β : Type} {first : Except ε α} {next : α → Except ε β} {b : β}
    (h : first >>= next = .ok b) : ∃ a, first = .ok a ∧ next a = .ok b := by
  cases first with
  | ok a => exact ⟨a, rfl, h⟩
  | error fault => cases h

/-! ### Text -/

namespace Utf8

/-- The code without its last bits, six for each of the last bytes. -/
def bitsAbove (code : Nat) : Nat → Nat
  | 0 => code
  | more + 1 => bitsAbove code more / 64

/-- The last bytes of the character of that code: six bits each, the
most significant first. -/
def lastBytes (code : Nat) : Nat → Bytes
  | 0 => []
  | more + 1 => UInt8.ofNat (bitsAbove code more % 64 + 0x80) :: lastBytes code more

/-- The bytes `taken` are the first ones of every character that a
half read one can still become. -/
structure Begins (taken : Bytes) (char : Unfinished) : Prop where
  low : 0x80 ≤ char.low.toNat
  high : char.high.toNat ≤ 0xBF
  encode : ∀ code, bitsAbove code (char.more + 1) = char.bits →
    char.low.toNat ≤ bitsAbove code char.more % 64 + 0x80 →
    bitsAbove code char.more % 64 + 0x80 ≤ char.high.toNat →
    String.utf8EncodeChar (Char.ofNat code) = taken ++ lastBytes code (char.more + 1)

/-- The bytes `taken` are those of the character at hand: none between
two characters. -/
def HalfRead (taken : Bytes) : Option Unfinished → Prop
  | none => taken = []
  | some char => Begins taken char

/-- The bytes of the character of a code, by its size. -/
private theorem utf8EncodeChar_ofNat {code : Nat} (h : code.isValidChar) :
    String.utf8EncodeChar (Char.ofNat code) =
      if code ≤ 0x7f then [UInt8.ofNat code]
      else if code ≤ 0x7ff then UInt8.ofNat (code / 64 % 32 + 0xc0) :: lastBytes code 1
      else if code ≤ 0xffff then UInt8.ofNat (code / 4096 % 16 + 0xe0) :: lastBytes code 2
      else UInt8.ofNat (code / 262144 % 8 + 0xf0) :: lastBytes code 3 := by
  have hval : (Char.ofNat code).val.toNat = code := by
    rw [Char.ofNat, dif_pos h]
    rfl
  unfold String.utf8EncodeChar
  simp only [hval, lastBytes, bitsAbove, Nat.div_div_eq_div_mul, Nat.reduceMul]

/-- A byte is known by its number. -/
private theorem ofNat_eq {n : Nat} {b : UInt8} (h : n = b.toNat) : UInt8.ofNat n = b := by
  rw [h, UInt8.ofNat_toNat]

/-- A byte from 0x80 on begins the characters that `ofLead?` opens with
it. The ranges of the second byte leave out just those codes that have
a shorter form, or are no characters. -/
theorem begins_ofLead? {lead : UInt8} {char : Unfinished}
    (h : Unfinished.ofLead? lead = some char) : Begins [lead] char := by
  have hE0 : lead.toNat = 0xE0 ↔ lead = 0xE0 := UInt8.toNat_inj (b := 0xE0)
  have hED : lead.toNat = 0xED ↔ lead = 0xED := UInt8.toNat_inj (b := 0xED)
  have hF0 : lead.toNat = 0xF0 ↔ lead = 0xF0 := UInt8.toNat_inj (b := 0xF0)
  have hF4 : lead.toNat = 0xF4 ↔ lead = 0xF4 := UInt8.toNat_inj (b := 0xF4)
  unfold Unfinished.ofLead? at h
  simp only [UInt8.lt_iff_toNat_lt, UInt8.reduceToNat, ← hE0, ← hED, ← hF0, ← hF4] at h
  split at h
  · cases h
  rename_i hC2
  split at h
  · -- Two bytes: the code has eleven bits, and more than seven.
    cases h
    refine ⟨Nat.le_refl 0x80, Nat.le_refl 0xBF, fun code hcode _ _ => ?_⟩
    simp only [bitsAbove] at hcode
    rw [utf8EncodeChar_ofNat (.inl (by omega)), if_neg (by omega), if_pos (by omega),
      ofNat_eq (b := lead) (by omega)]
    rfl
  split at h
  · -- Three bytes: sixteen bits, more than eleven, and no surrogate.
    cases h
    refine ⟨?_, ?_, fun code hcode hlow hhigh => ?_⟩
    · show 0x80 ≤ (ite _ _ _ : UInt8).toNat
      split <;> decide
    · show (ite _ _ _ : UInt8).toNat ≤ 0xBF
      split <;> decide
    simp only [apply_ite UInt8.toNat, UInt8.reduceToNat, bitsAbove] at hcode hlow hhigh
    have hlow' : 0x800 ≤ code := by split at hlow <;> omega
    have hvalid : code < 0xD800 ∨ 0xDFFF < code ∧ code < 0x110000 := by split at hhigh <;> omega
    rw [utf8EncodeChar_ofNat hvalid, if_neg (by omega), if_neg (by omega), if_pos (by omega),
      ofNat_eq (b := lead) (by omega)]
    rfl
  split at h
  · -- Four bytes: more than sixteen bits, and not above the last character.
    cases h
    refine ⟨?_, ?_, fun code hcode hlow hhigh => ?_⟩
    · show 0x80 ≤ (ite _ _ _ : UInt8).toNat
      split <;> decide
    · show (ite _ _ _ : UInt8).toNat ≤ 0xBF
      split <;> decide
    simp only [apply_ite UInt8.toNat, UInt8.reduceToNat, bitsAbove] at hcode hlow hhigh
    have hlow' : 0x10000 ≤ code := by split at hlow <;> omega
    have hhigh' : code < 0x110000 := by split at hhigh <;> omega
    rw [utf8EncodeChar_ofNat (.inr ⟨by omega, hhigh'⟩), if_neg (by omega), if_neg (by omega),
      if_neg (by omega), ofNat_eq (b := lead) (by omega)]
    rfl
  · cases h

/-- A byte inside of a character carries six bits. -/
private theorem Begins.toNat_mod_add {taken : Bytes} {char : Unfinished} (h : Begins taken char)
    {b : UInt8} (hlow : char.low.toNat ≤ b.toNat) (hhigh : b.toNat ≤ char.high.toNat) :
    b.toNat % 64 + 0x80 = b.toNat := by
  have h80 := h.low
  have hBF := h.high
  omega

/-- A byte inside of a character is the next one of those that it can
become. -/
theorem Begins.next {taken : Bytes} {char : Unfinished} (h : Begins taken char) {more : Nat}
    (hmore : char.more = more + 1) {b : UInt8} (hlow : char.low.toNat ≤ b.toNat)
    (hhigh : b.toNat ≤ char.high.toNat) :
    Begins (taken ++ [b]) ⟨char.taken + 1, more, 0x80, 0xBF, char.bits * 64 + b.toNat % 64⟩ where
  low := Nat.le_refl 0x80
  high := Nat.le_refl 0xBF
  encode code hcode _ _ := by
    have hb := h.toNat_mod_add hlow hhigh
    replace hcode : bitsAbove code (more + 1) = char.bits * 64 + b.toNat % 64 := hcode
    -- The bits of the code above this byte are those that were read before it.
    have hsix : bitsAbove code (more + 1) % 64 = b.toNat % 64 := by omega
    have hbits : bitsAbove code (more + 1 + 1) = char.bits := by
      rw [bitsAbove, hcode]
      omega
    have hencode := h.encode code
    rw [hmore, hsix, hb] at hencode
    rw [hencode hbits hlow hhigh, lastBytes, hsix, ofNat_eq hb, List.append_assoc]
    rfl

/-- The last byte of a character makes it whole. -/
theorem Begins.last {taken : Bytes} {char : Unfinished} (h : Begins taken char)
    (hmore : char.more = 0) {b : UInt8} (hlow : char.low.toNat ≤ b.toNat)
    (hhigh : b.toNat ≤ char.high.toNat) :
    String.utf8EncodeChar (Char.ofNat (char.bits * 64 + b.toNat % 64)) = taken ++ [b] := by
  have hb := h.toNat_mod_add hlow hhigh
  have hsix : (char.bits * 64 + b.toNat % 64) % 64 = b.toNat % 64 := by omega
  have hbits : (char.bits * 64 + b.toNat % 64) / 64 = char.bits := by omega
  have hencode := h.encode (char.bits * 64 + b.toNat % 64)
  simp only [hmore, Nat.zero_add, bitsAbove, hsix, hb] at hencode
  rw [hencode hbits hlow hhigh]
  simp only [lastBytes, bitsAbove, hsix, ofNat_eq hb]

/-- What is read spells the bytes that it is read from, those of a half
read character included. -/
theorem flatMap_of_decodeFrom {start : Nat} {char? : Option Unfinished} {bytes taken : Bytes}
    {chars : List Char} (h : decodeFrom start char? bytes = .ok chars)
    (htaken : HalfRead taken char?) :
    chars.flatMap String.utf8EncodeChar = taken ++ bytes := by
  -- The induction is on the bytes; `taken` grows by those of the character at hand.
  induction start, char?, bytes using decodeFrom.induct generalizing taken chars with
  | case1 =>
    cases h
    rw [show taken = [] from htaken]
    rfl
  | case2 => cases h
  | case3 start b rest hb ih =>
    rw [decodeFrom, if_pos hb] at h
    obtain ⟨later, hlater, hchars⟩ := exists_ok_of_bind h
    cases hchars
    have hlt : b.toNat < 0x80 := UInt8.lt_iff_toNat_lt.mp hb
    rw [show taken = [] from htaken, List.flatMap_cons, ih hlater rfl,
      utf8EncodeChar_ofNat (.inl (by omega)), if_pos (by omega), ofNat_eq rfl]
    rfl
  | case4 start b rest hb hlead =>
    rw [decodeFrom, if_neg hb] at h
    simp only [hlead] at h
    cases h
  | case5 start b rest hb char hlead ih =>
    rw [decodeFrom, if_neg hb] at h
    simp only [hlead] at h
    rw [ih h (begins_ofLead? hlead), show taken = [] from htaken]
    rfl
  | case6 start char b rest hrange =>
    rw [decodeFrom, if_pos hrange] at h
    cases h
  | case7 start char b rest hrange hmore ih =>
    rw [decodeFrom, if_neg hrange] at h
    simp only [hmore] at h
    simp only [not_or, UInt8.lt_iff_toNat_lt, Nat.not_lt] at hrange
    obtain ⟨later, hlater, hchars⟩ := exists_ok_of_bind h
    cases hchars
    rw [List.flatMap_cons, ih hlater rfl, Begins.last htaken hmore hrange.1 hrange.2,
      List.append_assoc]
    rfl
  | case8 start char b rest hrange bits more hmore =>
    rename_i ih
    rw [decodeFrom, if_neg hrange] at h
    simp only [hmore] at h
    simp only [not_or, UInt8.lt_iff_toNat_lt, Nat.not_lt] at hrange
    rw [ih h (Begins.next htaken hmore hrange.1 hrange.2), List.append_assoc]
    rfl

/-- A text that was read spells the bytes that it was read from. -/
theorem encode_of_decode {bytes : Bytes} {text : String} (h : decode bytes = .ok text) :
    encode text = bytes := by
  obtain ⟨chars, hchars, htext⟩ := exists_ok_of_bind h
  cases htext
  have hbytes : chars.flatMap String.utf8EncodeChar = [] ++ bytes :=
    flatMap_of_decodeFrom hchars rfl
  rwa [List.nil_append, ← String.toList_ofList (l := chars)] at hbytes

end Utf8

/-! ### Readers -/

namespace Wire

variable {α β : Type}

/-- What the reader takes off the front of an input, and the value that
it makes of it, are related by `P`. -/
def Takes (reader : Reader α) (P : α → Bytes → Prop) : Prop :=
  ∀ input value rest, reader input = .ok (value, rest) →
    ∃ taken, input = taken ++ rest ∧ P value taken

theorem Takes.mono {reader : Reader α} {P P' : α → Bytes → Prop} (h : Takes reader P)
    (hP : ∀ value taken, P value taken → P' value taken) : Takes reader P' := by
  intro input value rest hread
  obtain ⟨taken, hinput, htaken⟩ := h input value rest hread
  exact ⟨taken, hinput, hP value taken htaken⟩

theorem takes_pure (value : α) : Takes (pure value) fun a taken => a = value ∧ taken = [] := by
  intro input a rest hread
  cases hread
  exact ⟨[], rfl, rfl, rfl⟩

theorem takes_throw (fault : Fault) (P : α → Bytes → Prop) :
    Takes (throw fault : Reader α) P := by
  intro input value rest hread
  cases hread

/-- What is read one after the other was taken one after the other. -/
theorem Takes.bind {reader : Reader α} {next : α → Reader β} {P : α → Bytes → Prop}
    {Q : α → β → Bytes → Prop} (h : Takes reader P) (hnext : ∀ a, Takes (next a) (Q a)) :
    Takes (reader >>= next) fun b taken =>
      ∃ a first later, taken = first ++ later ∧ P a first ∧ Q a b later := by
  intro input b rest hread
  obtain ⟨⟨a, middle⟩, hfirst, hlater⟩ := exists_ok_of_bind hread
  obtain ⟨first, rfl, hP⟩ := h _ _ _ hfirst
  obtain ⟨later, rfl, hQ⟩ := hnext a _ _ _ hlater
  exact ⟨first ++ later, (List.append_assoc ..).symm, a, first, later, rfl, hP, hQ⟩

/-- A value that is changed after it was read comes of the same
bytes. -/
theorem Takes.map {reader : Reader α} {P : α → Bytes → Prop} (h : Takes reader P) (f : α → β) :
    Takes (do return f (← reader)) fun b taken => ∃ a, b = f a ∧ P a taken := by
  refine (h.bind fun a => takes_pure (f a)).mono ?_
  rintro b taken ⟨a, first, later, rfl, hP, rfl, rfl⟩
  exact ⟨a, rfl, by rwa [List.append_nil]⟩

theorem takes_takeBytes (n : Nat) :
    Takes (takeBytes n) fun bytes taken => taken = bytes ∧ bytes.length = n := by
  intro input bytes rest hread
  unfold takeBytes at hread
  split at hread
  · rename_i hle
    cases hread
    exact ⟨input.take n, (List.take_append_drop n input).symm, rfl, List.length_take_of_le hle⟩
  · cases hread

theorem takes_byte : Takes byte fun b taken => taken = [b] := by
  intro input b rest hread
  cases input with
  | nil => cases hread
  | cons first rest =>
    cases hread
    exact ⟨[b], rfl, rfl⟩

/-- A length has one form in four bytes. -/
theorem takes_count : Takes count fun n taken => fits n = true ∧ taken = putLength n := by
  refine ((takes_takeBytes 4).map Bytes.ofLittleEndian).mono ?_
  rintro n taken ⟨bytes, rfl, rfl, hlength⟩
  have hform := Bytes.littleEndian_ofLittleEndian taken
  have hlt := Bytes.ofLittleEndian_lt taken
  rw [hlength] at hform hlt
  exact ⟨decide_eq_true hlt, hform.symm⟩

theorem takes_bytes :
    Takes bytes fun value taken => fits value.length = true ∧ taken = putBytes value := by
  refine (takes_count.bind takes_takeBytes).mono ?_
  rintro value taken ⟨n, first, later, rfl, ⟨hfits, rfl⟩, rfl, rfl⟩
  exact ⟨hfits, rfl⟩

theorem takes_text :
    Takes text fun value taken =>
      fits (Utf8.encode value).length = true ∧ taken = putText value := by
  refine (takes_bytes.bind (Q := fun value text taken => Utf8.encode text = value ∧ taken = [])
    fun value => ?_).mono ?_
  · cases hdecode : Utf8.decode value with
    | ok text =>
      refine (takes_pure text).mono ?_
      rintro a taken ⟨rfl, rfl⟩
      exact ⟨Utf8.encode_of_decode hdecode, rfl⟩
    | error fault => exact takes_throw _ _
  · rintro text taken ⟨value, first, later, rfl, ⟨hfits, rfl⟩, rfl, rfl⟩
    exact ⟨hfits, List.append_nil _⟩

/-- A list is read from the forms of its items. -/
theorem takes_list {item : Reader α} {ok : α → Prop} {put : α → Bytes}
    (hitem : Takes item fun a taken => ok a ∧ taken = put a) :
    Takes (list item) fun items taken =>
      fits items.length = true ∧ (∀ a ∈ items, ok a) ∧ taken = putList put items := by
  have hrepeated : ∀ n, Takes (repeated item n) fun items taken =>
      items.length = n ∧ (∀ a ∈ items, ok a) ∧ taken = items.flatMap put := by
    intro n
    induction n with
    | zero =>
      refine (takes_pure []).mono ?_
      rintro items taken ⟨rfl, rfl⟩
      exact ⟨rfl, fun a ha => absurd ha List.not_mem_nil, rfl⟩
    | succ n ih =>
      refine (hitem.bind fun a => ih.map (a :: ·)).mono ?_
      rintro _ taken ⟨a, first, later, rfl, ⟨hok, rfl⟩, items, rfl, hlength, hitems, rfl⟩
      refine ⟨congrArg (· + 1) hlength, ?_, rfl⟩
      rw [List.forall_mem_cons]
      exact ⟨hok, hitems⟩
  refine (takes_count.bind hrepeated).mono ?_
  rintro items taken ⟨n, first, later, rfl, ⟨hfits, rfl⟩, rfl, hitems, rfl⟩
  exact ⟨hfits, hitems, rfl⟩

/-- A value that was read of the whole input is related to it. -/
theorem Takes.of_whole {reader : Reader α} {P : α → Bytes → Prop} (h : Takes reader P)
    {input : Bytes} {value : α} (hread : reader.whole input = .ok value) : P value input := by
  unfold Reader.whole at hread
  split at hread
  · rename_i heq
    cases hread
    obtain ⟨taken, rfl, hP⟩ := h _ _ _ heq
    rwa [List.append_nil]
  · cases hread
  · cases hread

end Wire

/-! ### The parts of a record -/

open Wire

theorem Entry.takes_reader :
    Takes Entry.reader fun (entry : Entry) taken => entry.fits = true ∧ taken = entry.encode := by
  refine (takes_byte.bind
    (Q := fun tag entry taken => entry.fits = true ∧ tag :: taken = entry.encode)
    fun tag => ?_).mono ?_
  · split
    · rename_i htag
      refine (takes_bytes.map Entry.value).mono ?_
      rintro entry taken ⟨bytes, rfl, hfits, rfl⟩
      have htag' : tag = 0 := UInt8.toNat_inj.mp htag
      exact ⟨hfits, htag' ▸ rfl⟩
    · rename_i htag
      refine (takes_pure Entry.tombstone).mono ?_
      rintro entry taken ⟨rfl, rfl⟩
      have htag' : tag = 1 := UInt8.toNat_inj.mp htag
      exact ⟨rfl, htag' ▸ rfl⟩
    · exact takes_throw _ _
  · rintro entry taken ⟨tag, first, later, rfl, rfl, hentry⟩
    exact hentry

theorem Batch.takes_pairReader :
    Takes Batch.pairReader fun pair taken =>
      (Wire.fits pair.1.length = true ∧ pair.2.fits = true) ∧ taken = Batch.encodePair pair := by
  refine (takes_bytes.bind fun key => Entry.takes_reader.map (key, ·)).mono ?_
  rintro _ taken ⟨key, first, later, rfl, ⟨hkey, rfl⟩, entry, rfl, hentry, rfl⟩
  exact ⟨⟨hkey, hentry⟩, rfl⟩

namespace JournalRecord

theorem takes_tableReader :
    Takes tableReader fun table taken =>
      (Wire.fits (Utf8.encode table.1).length = true ∧ table.2.fits = true) ∧
        taken = encodeTable table := by
  refine (takes_text.bind fun name => (takes_list Batch.takes_pairReader).map (name, ·)).mono ?_
  rintro _ taken ⟨name, first, later, rfl, ⟨hname, rfl⟩, batch, rfl, hlength, hpairs, rfl⟩
  exact ⟨⟨hname, Batch.fits_iff.mpr ⟨hlength, hpairs⟩⟩, rfl⟩

/-- A byte string is read as a record if it is what is written for that
record, and the record fits. -/
theorem decode_eq_ok_iff {input : Bytes} {record : JournalRecord} :
    decode input = .ok record ↔ record.fits = true ∧ record.encode = input := by
  constructor
  · intro h
    obtain ⟨tables, hread, hrecord⟩ := exists_ok_of_bind h
    cases hrecord
    obtain ⟨hlength, htables, rfl⟩ := (takes_list takes_tableReader).of_whole hread
    exact ⟨fits_iff.mpr ⟨hlength, htables⟩, rfl⟩
  · rintro ⟨hfits, rfl⟩
    exact decode_encode hfits

end JournalRecord

namespace Journal

/-- What a store is found to hold is what stands in it under the
journal's key. -/
theorem load_eq_some_iff {contents : Contents} {record : JournalRecord} :
    load contents = .ok (some record) ↔
      record.fits = true ∧ contents.get? key = some record.encode := by
  unfold load
  cases contents.get? key with
  | none => simp
  | some bytes =>
    have hread : JournalRecord.decode bytes = .ok record ↔
        record.fits = true ∧ some bytes = some record.encode := by
      rw [JournalRecord.decode_eq_ok_iff, Option.some_inj]
      exact and_congr_right fun _ => eq_comm
    rw [← hread]
    cases hdecode : JournalRecord.decode bytes <;> simp [hdecode]

/-- What the journal reads as is decided by what stands under its key. -/
theorem load_eq_none_iff {contents : Contents} :
    load contents = .ok none ↔ contents.get? key = none := by
  unfold load
  cases contents.get? key with
  | none => simp
  | some bytes => cases hdecode : JournalRecord.decode bytes <;> simp [hdecode]

end Journal

/-! ### The journal's store -/

/-- A store that is not set to fail carries out what is written. -/
theorem Disk.write_ok_of_plan {d : Disk} {store : String} (h : (d.store store).plan = none)
    (batch : Batch) : (d.write store batch).1 = .ok () := by
  -- Noting the attempt does not touch the stores.
  have hplan : (({ d with attempts := d.attempts ++ [(store, batch)] } : Disk).store store).plan =
      none := h
  simp only [write, Store.write, hplan]

/-- A write that is answered without an error was carried out, and a
store that is not set to fail answers without an error. -/
theorem Operation.write_ends (w : World) (store : String) (batch : Batch) :
    (write store batch).Ends w fun r w' =>
      (r = .ok none → w'.disk.contents store = (w.disk.contents store).apply batch) ∧
        ((w.disk.store store).plan = none → r = .ok none) := by
  rw [ends_write]
  cases hwrite : (w.disk.write store batch).1 with
  | ok u =>
    refine ⟨fun _ => ?_, fun _ => rfl⟩
    rw [← Contents.afterWrites_singleton _ store batch]
    exact (Disk.after_write_ok hwrite).contents store
  | error failure =>
    have hplan : (w.disk.store store).plan ≠ none := by
      intro hnone
      rw [Disk.write_ok_of_plan hnone batch] at hwrite
      cases hwrite
    cases failure with
    | error source => exact ⟨fun h => absurd h (by simp), fun h => absurd h hplan⟩
    | crash => exact ⟨fun h => absurd h (by simp), fun h => absurd h hplan⟩

namespace JournalRecord

/-- The form of a record, down to the bytes: a list is its length in
four bytes and its items, a byte string its length and its bytes; a zero
byte stands before a value and a one byte for a tombstone. -/
def form (record : JournalRecord) : Bytes :=
  Bytes.littleEndian 4 record.tables.length ++ record.tables.flatMap fun (name, batch) =>
    Bytes.littleEndian 4 (Utf8.encode name).length ++ Utf8.encode name ++
      (Bytes.littleEndian 4 batch.length ++ batch.flatMap fun (key, entry) =>
        Bytes.littleEndian 4 key.length ++ key ++ match entry with
          | .value bytes => 0 :: (Bytes.littleEndian 4 bytes.length ++ bytes)
          | .tombstone => [1])

/-- Writing by parts makes the form. -/
theorem encode_eq_form (record : JournalRecord) : record.encode = record.form := by
  have hentry : ∀ entry : Entry, entry.encode = match entry with
      | .value bytes => 0 :: (Bytes.littleEndian 4 bytes.length ++ bytes)
      | .tombstone => [1] := by
    intro entry
    cases entry <;> rfl
  have hpair : Batch.encodePair = fun pair =>
      Bytes.littleEndian 4 pair.1.length ++ pair.1 ++ pair.2.encode := rfl
  have htable : encodeTable = fun table =>
      Bytes.littleEndian 4 (Utf8.encode table.1).length ++ Utf8.encode table.1 ++
        (Bytes.littleEndian 4 table.2.length ++ table.2.flatMap Batch.encodePair) := rfl
  simp only [encode, putList, putLength, htable, hpair, hentry, form]

end JournalRecord

/-- **A record is read back as it was written, and what is read was
written so.** A record that fits, whatever the order of its tables and
entries and however often it repeats them, is found in the store that it
was written to, and none is found once it was removed; a store that is
not set to fail does both. Whatever stands in the store under the
journal's key is read as a record just if it is what is written for that
record, byte by byte. -/
theorem Journal.record_load_canonical :
    (∀ (w : World) (journal : String) (record : JournalRecord), record.fits = true →
      (Operation.writeRecord journal record).Ends w fun r w' =>
        (r = .ok none → load (w'.disk.contents journal) = .ok (some record)) ∧
          ((w.disk.store journal).plan = none → r = .ok none)) ∧
    (∀ (w : World) (journal : String),
      (Operation.write journal clearBatch).Ends w fun r w' =>
        (r = .ok none → load (w'.disk.contents journal) = .ok none) ∧
          ((w.disk.store journal).plan = none → r = .ok none)) ∧
    ∀ (contents : Contents) (bytes : Bytes), contents.get? key = some bytes →
      ∀ record, load contents = .ok (some record) ↔ record.fits = true ∧
        bytes = record.form := by
  refine ⟨fun w journal record hfits => ?_, fun w journal => ?_,
    fun contents bytes hbytes record => ?_⟩
  · unfold Operation.writeRecord
    rw [if_pos hfits]
    refine (Operation.write_ends w journal (recordBatch record)).mono fun r w' hend =>
      ⟨fun hr => ?_, hend.2⟩
    rw [hend.1 hr]
    exact load_apply_recordBatch hfits _
  · refine (Operation.write_ends w journal clearBatch).mono fun r w' hend => ⟨fun hr => ?_, hend.2⟩
    rw [hend.1 hr, load_eq_none_iff]
    show ((w.disk.contents journal).put key .tombstone).get? key = none
    rw [Contents.get?_put, if_pos rfl]
    rfl
  · rw [load_eq_some_iff, hbytes, record.encode_eq_form, Option.some_inj]

/-- A record with a table named twice, by a name that is no ASCII, and a
key that is set, removed and set again is found in the empty store that
it was written to. -/
theorem Journal.load_after_repetitions :
    let record : JournalRecord :=
      ⟨[("ä", [([1], .value [7]), ([1], .tombstone), ([], .value [])]), ("ä", [([1], .value [])])]⟩
    let w : World := ⟨.empty, Database.new {} "journal" [], []⟩
    record.fits = true ∧
      (Operation.writeRecord "journal" record).Ends w fun r w' =>
        r = .ok none ∧ load (w'.disk.contents "journal") = .ok (some record) := by
  intro record w
  have hfits : record.fits = true := by decide
  refine ⟨hfits, (record_load_canonical.1 w "journal" record hfits).mono fun r w' hend => ?_⟩
  have hr : r = .ok none := hend.2 rfl
  exact ⟨hr, hend.1 hr⟩

end LayeredStore
