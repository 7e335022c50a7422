import Mathlib.Data.List.DropRight
import TaskDaemon.Text.Utf8

/-!
# Decoding undoes encoding

`TaskDaemon.Utf8.decode` reads a byte string by ranges of lead and second bytes. That these ranges
are the right ones is what this file shows: the reader accepts exactly what encodes some text, and
gives that text (`TaskDaemon.Utf8.decode_eq_ok_iff`). So nothing has to be known about the ranges
after this.

* `TaskDaemon.Utf8.next_encodeChar`: the encoding of a character is read as that character;
* `TaskDaemon.Utf8.encodeChar_of_next`: what is read as a character is its encoding;
* `TaskDaemon.Utf8.IsText`: being the encoding of some text;
* `TaskDaemon.Utf8.isText_append_ascii`: bytes below 128 at the end of a byte string stand for
  themselves, so they make no difference to it.
-/

namespace TaskDaemon

namespace Utf8

/-! ### Single characters -/

theorem val_ofNat {n : Nat} (h : n < 0xD800 ∨ 0xDFFF < n ∧ n < 0x110000) :
    (Char.ofNat n).val.toNat = n := by
  unfold Char.ofNat
  rw [dif_pos h]
  rfl

theorem ofNat_eq_byte (byte : UInt8) {n : Nat} (h : n = byte.toNat) : UInt8.ofNat n = byte := by
  rw [h, UInt8.ofNat_toNat]

theorem isTail_iff (byte : Nat) : isTail byte = true ↔ 0x80 ≤ byte ∧ byte ≤ 0xBF := by
  simp [isTail]

/-- **A second byte** is a continuation byte that its lead does not rule out. -/
theorem isSecond_iff (lead byte : Nat) :
    isSecond lead byte = true ↔ 0x80 ≤ byte ∧ byte ≤ 0xBF ∧ (lead = 0xE0 → 0xA0 ≤ byte) ∧
      (lead = 0xED → byte ≤ 0x9F) ∧ (lead = 0xF0 → 0x90 ≤ byte) ∧ (lead = 0xF4 → byte ≤ 0x8F) := by
  unfold isSecond secondRange
  rw [Bool.and_eq_true, decide_eq_true_iff, decide_eq_true_iff]
  repeat' split
  all_goals omega

/-- **The encoding of a character is read as that character**, whatever is behind it. -/
theorem next_encodeChar (c : Char) (rest : Bytes) :
    ∃ lead tail, String.utf8EncodeChar c = lead :: tail ∧
      next lead (tail ++ rest) = .char c (tail.length + 1) := by
  have hvalid : c.toNat < 0xD800 ∨ 0xDFFF < c.toNat ∧ c.toNat < 0x110000 := c.valid
  have hc : Char.ofNat c.toNat = c := Char.ofNat_toNat c
  have hv := val_ofNat hvalid
  generalize c.toNat = v at hvalid hc hv
  subst hc
  unfold String.utf8EncodeChar
  simp only [hv]
  -- One case for each length: the bytes lie in the ranges that are read, and the number is put
  -- together again from its digits to base 64.
  by_cases h1 : v ≤ 0x7f
  · refine ⟨_, _, if_pos h1, ?_⟩
    unfold next
    simp only [UInt8.toNat_ofNat']
    rw [if_pos (by omega), Nat.mod_eq_of_lt (by omega)]
    rfl
  rw [if_neg h1]
  by_cases h2 : v ≤ 0x7ff
  · refine ⟨_, _, if_pos h2, ?_⟩
    unfold next
    simp only [UInt8.toNat_ofNat', List.cons_append, isTail_iff]
    rw [if_neg (by omega), if_neg (by omega), if_pos (by omega), if_pos (by omega)]
    exact congrArg (Head.char · 2) (congrArg Char.ofNat (by omega))
  rw [if_neg h2]
  by_cases h3 : v ≤ 0xffff
  · refine ⟨_, _, if_pos h3, ?_⟩
    unfold next
    simp only [UInt8.toNat_ofNat', List.cons_append, isSecond_iff, isTail_iff]
    rw [if_neg (by omega), if_neg (by omega), if_neg (by omega), if_pos (by omega),
      if_pos (by omega), if_pos (by omega)]
    exact congrArg (Head.char · 3) (congrArg Char.ofNat (by omega))
  · refine ⟨_, _, if_neg h3, ?_⟩
    unfold next
    simp only [UInt8.toNat_ofNat', List.cons_append, isSecond_iff, isTail_iff]
    rw [if_neg (by omega), if_neg (by omega), if_neg (by omega), if_neg (by omega),
      if_pos (by omega), if_pos (by omega), if_pos (by omega), if_pos (by omega)]
    exact congrArg (Head.char · 4) (congrArg Char.ofNat (by omega))

/-- **What is read as a character is its encoding**, and the size that is told is its length. -/
theorem encodeChar_of_next {lead : UInt8} {rest : Bytes} {c : Char} {size : Nat}
    (h : next lead rest = .char c size) :
    ∃ more, lead :: rest = String.utf8EncodeChar c ++ more ∧
      size = (String.utf8EncodeChar c).length := by
  have hlead := lead.toNat_lt
  revert h
  -- Four cases give a character, one for each length; all others are refused.
  fun_cases next lead rest
  all_goals
    intro h
    cases h
  case case1 h1 =>
    refine ⟨rest, ?_⟩
    unfold String.utf8EncodeChar
    rw [val_ofNat (by omega), if_pos (by omega), ofNat_eq_byte _ rfl]
    exact ⟨rfl, rfl⟩
  case case4 second more h2 =>
    rw [isTail_iff] at h2
    refine ⟨more, ?_⟩
    unfold String.utf8EncodeChar
    rw [val_ofNat (by omega), if_neg (by omega), if_pos (by omega)]
    rw [ofNat_eq_byte lead (by omega), ofNat_eq_byte second (by omega)]
    exact ⟨rfl, rfl⟩
  case case9 second third more h2 h3 =>
    rw [isSecond_iff] at h2
    rw [isTail_iff] at h3
    refine ⟨more, ?_⟩
    unfold String.utf8EncodeChar
    rw [val_ofNat (by omega), if_neg (by omega), if_neg (by omega), if_pos (by omega)]
    rw [ofNat_eq_byte lead (by omega), ofNat_eq_byte second (by omega),
      ofNat_eq_byte third (by omega)]
    exact ⟨rfl, rfl⟩
  case case18 second third fourth more h2 h3 h4 =>
    rw [isSecond_iff] at h2
    rw [isTail_iff] at h3 h4
    refine ⟨more, ?_⟩
    unfold String.utf8EncodeChar
    rw [val_ofNat (by omega), if_neg (by omega), if_neg (by omega), if_neg (by omega)]
    rw [ofNat_eq_byte lead (by omega), ofNat_eq_byte second (by omega),
      ofNat_eq_byte third (by omega), ofNat_eq_byte fourth (by omega)]
    exact ⟨rfl, rfl⟩

/-! ### Texts -/

@[simp] theorem encode_nil : encode [] = [] := rfl

theorem encode_cons (c : Char) (text : List Char) :
    encode (c :: text) = String.utf8EncodeChar c ++ encode text := rfl

theorem encode_append (front text : List Char) :
    encode (front ++ text) = encode front ++ encode text :=
  List.flatMap_append

theorem decodeFrom_skip (done : List Char) (offset : Nat) (front rest : Bytes) :
    decodeFrom done offset front.length (front ++ rest) = decodeFrom done offset 0 rest := by
  induction front with
  | nil => rfl
  | cons byte front ih => exact ih

/-- **The reader takes in one character** with all its bytes. -/
theorem decodeFrom_encodeChar (done : List Char) (offset : Nat) (c : Char) (rest : Bytes) :
    decodeFrom done offset 0 (String.utf8EncodeChar c ++ rest) =
      decodeFrom (c :: done) (offset + (String.utf8EncodeChar c).length) 0 rest := by
  obtain ⟨lead, tail, hbytes, hnext⟩ := next_encodeChar c rest
  rw [hbytes, List.cons_append, decodeFrom, hnext]
  exact decodeFrom_skip _ _ tail rest

theorem decodeFrom_encode (text : List Char) (done : List Char) (offset : Nat) :
    decodeFrom done offset 0 (encode text) = .ok (done.reverse ++ text) := by
  induction text generalizing done offset with
  | nil => simp [decodeFrom]
  | cons c text ih =>
    rw [encode_cons, decodeFrom_encodeChar, ih]
    simp

/-- What the reader accepts is an encoding. The induction is on the number of bytes, since each
character takes some of them. -/
theorem encode_of_decodeFrom (count : Nat) (bytes : Bytes) (hcount : bytes.length ≤ count)
    (done : List Char) (offset : Nat) (text : List Char)
    (h : decodeFrom done offset 0 bytes = .ok text) :
    ∃ more, text = done.reverse ++ more ∧ encode more = bytes := by
  induction count generalizing bytes done offset with
  | zero =>
    obtain rfl : bytes = [] := List.eq_nil_of_length_eq_zero (by omega)
    exact ⟨[], by simpa using (Except.ok.inj h).symm, rfl⟩
  | succ count ih =>
    rcases bytes with _ | ⟨lead, rest⟩
    · exact ⟨[], by simpa using (Except.ok.inj h).symm, rfl⟩
    cases hnext : next lead rest with
    | invalid size =>
      rw [decodeFrom, hnext] at h
      cases h
    | truncated =>
      rw [decodeFrom, hnext] at h
      cases h
    | char c size =>
      obtain ⟨more, hbytes, -⟩ := encodeChar_of_next hnext
      rw [hbytes, decodeFrom_encodeChar] at h
      have hlength := congrArg List.length hbytes
      have hpos := List.length_pos_iff.mpr (String.utf8EncodeChar_ne_nil (c := c))
      rw [List.length_append] at hlength
      obtain ⟨text', htext, hencode⟩ := ih more (by omega) _ _ h
      refine ⟨c :: text', by simp [htext], ?_⟩
      rw [encode_cons, hencode, hbytes]

/-- **Decoding undoes encoding**: a byte string decodes to the text that it encodes, and to none if
it encodes none. -/
theorem decode_eq_ok_iff (bytes : Bytes) (text : List Char) :
    decode bytes = .ok text ↔ encode text = bytes := by
  constructor
  · intro h
    obtain ⟨more, htext, hencode⟩ := encode_of_decodeFrom _ bytes le_rfl [] 0 text h
    rwa [htext]
  · rintro rfl
    exact decodeFrom_encode text [] 0

/-- **The bytes of a text are that text.** -/
theorem toString?_ofString (text : String) : toString? (ofString text) = some text := by
  have hdecode : decode (ofString text) = .ok text.toList :=
    (decode_eq_ok_iff _ _).mpr rfl
  rw [toString?, hdecode]
  exact congrArg some String.ofList_toList

/-- A character's further bytes are passed over. -/
theorem ofBytesFrom_skip (done : List Glyph) (front rest : Bytes) :
    Glyph.ofBytesFrom done front.length (front ++ rest) = Glyph.ofBytesFrom done 0 rest := by
  induction front with
  | nil => rfl
  | cons byte front ih => exact ih

theorem ofBytesFrom_encode (text : List Char) (done : List Glyph) :
    Glyph.ofBytesFrom done 0 (encode text) = done.reverse ++ text.map .char := by
  induction text generalizing done with
  | nil => simp [Glyph.ofBytesFrom]
  | cons c text ih =>
    obtain ⟨lead, tail, hbytes, hnext⟩ := next_encodeChar c (encode text)
    rw [encode_cons, hbytes, List.cons_append, Glyph.ofBytesFrom, hnext]
    refine (ofBytesFrom_skip _ tail _).trans ?_
    rw [ih]
    simp

/-- **The glyphs of a text's bytes** are its characters. -/
theorem ofBytes_ofString (text : String) : Glyph.ofBytes (ofString text) = Glyph.ofString text :=
  ofBytesFrom_encode text.toList []

theorem flatMap_bytes_ofBytesFrom (bytes : Bytes) (done : List Glyph) (skip : Nat) :
    (Glyph.ofBytesFrom done skip bytes).flatMap Glyph.bytes =
      done.reverse.flatMap Glyph.bytes ++ bytes.drop skip := by
  induction bytes generalizing done skip with
  | nil => rw [Glyph.ofBytesFrom, List.drop_nil, List.append_nil]
  | cons byte rest ih =>
    cases skip with
    | succ skip => exact ih done skip
    | zero =>
      rw [List.drop_zero, Glyph.ofBytesFrom]
      split
      · next c size hnext =>
        obtain ⟨more, hbytes, rfl⟩ := encodeChar_of_next hnext
        obtain ⟨lead, tail, hchar⟩ :=
          List.exists_cons_of_ne_nil (String.utf8EncodeChar_ne_nil (c := c))
        rw [hchar, List.cons_append] at hbytes
        obtain ⟨rfl, rfl⟩ := List.cons.inj hbytes
        rw [ih, hchar]
        simp [Glyph.bytes, hchar]
      · rw [ih]
        simp [Glyph.bytes]

/-- **Glyphs lose nothing** of the bytes. -/
theorem flatMap_bytes_ofBytes (bytes : Bytes) : (Glyph.ofBytes bytes).flatMap Glyph.bytes = bytes :=
  flatMap_bytes_ofBytesFrom bytes [] 0

/-- **A byte string is text** if all of its glyphs are characters, and they are its characters. -/
theorem encode_eq_iff (text : List Char) (bytes : Bytes) :
    encode text = bytes ↔ Glyph.ofBytes bytes = text.map .char := by
  constructor
  · rintro rfl
    exact ofBytesFrom_encode text []
  · intro h
    rw [← flatMap_bytes_ofBytes bytes, h, List.flatMap_map]
    rfl

/-- No two texts have the same encoding. -/
theorem encode_injective : Function.Injective encode := by
  intro text text' h
  have hdecode := (decode_eq_ok_iff _ text).mpr h
  rw [(decode_eq_ok_iff _ text').mpr rfl] at hdecode
  exact (Except.ok.inj hdecode).symm

/-- **Being text**: being the encoding of some characters. -/
def IsText (bytes : Bytes) : Prop :=
  ∃ text, encode text = bytes

theorem isText_encode (text : List Char) : IsText (encode text) := ⟨text, rfl⟩

theorem isText_iff (bytes : Bytes) : IsText bytes ↔ (decode bytes).isOk = true := by
  unfold IsText
  simp only [← decode_eq_ok_iff]
  cases decode bytes with
  | ok text => simp [Except.isOk, Except.toBool]
  | error fault => simp [Except.isOk, Except.toBool]

/-- **A byte string is text** if there are no stray bytes in it. -/
theorem isText_iff_glyphs (bytes : Bytes) :
    IsText bytes ↔ ∀ byte, Glyph.stray byte ∉ Glyph.ofBytes bytes := by
  have hall : ∀ glyphs : List Glyph,
      (∃ text : List Char, glyphs = text.map .char) ↔ ∀ byte, Glyph.stray byte ∉ glyphs := by
    intro glyphs
    constructor
    · rintro ⟨text, rfl⟩ byte h
      obtain ⟨_, -, hchar⟩ := List.mem_map.mp h
      cases hchar
    · intro h
      induction glyphs with
      | nil => exact ⟨[], rfl⟩
      | cons glyph glyphs ih =>
        obtain ⟨text, rfl⟩ := ih fun byte hbyte => h byte (List.mem_cons_of_mem _ hbyte)
        cases glyph with
        | char c => exact ⟨c :: text, rfl⟩
        | stray byte => exact absurd List.mem_cons_self (h byte)
  unfold IsText
  simp only [encode_eq_iff, hall]

instance (bytes : Bytes) : Decidable (IsText bytes) :=
  decidable_of_iff _ (isText_iff bytes).symm

/-- What is no text is refused. -/
theorem exists_fault {bytes : Bytes} (h : ¬IsText bytes) :
    ∃ fault, decode bytes = .error fault := by
  cases hdecode : decode bytes with
  | ok text => exact absurd ⟨text, (decode_eq_ok_iff _ _).mp hdecode⟩ h
  | error fault => exact ⟨fault, rfl⟩

/-! ### Text for the eye -/

theorem lossyFrom_skip (done : List Char) (front rest : Bytes) :
    lossyFrom done front.length (front ++ rest) = lossyFrom done 0 rest := by
  induction front with
  | nil => rfl
  | cons byte front ih => exact ih

theorem lossyFrom_encode (text done : List Char) :
    lossyFrom done 0 (encode text) = done.reverse ++ text := by
  induction text generalizing done with
  | nil => simp [lossyFrom]
  | cons c text ih =>
    obtain ⟨lead, tail, hbytes, hnext⟩ := next_encodeChar c (encode text)
    rw [encode_cons, hbytes, List.cons_append, lossyFrom, hnext]
    refine (lossyFrom_skip _ tail _).trans ?_
    rw [ih]
    simp

/-- **A text shows as itself.** -/
theorem lossy_encode (text : List Char) : lossy (encode text) = String.ofList text :=
  congrArg String.ofList (lossyFrom_encode text [])

/-- **What is shown for the eye is what was there** exactly if that was text. -/
theorem ofString_lossy_iff (bytes : Bytes) : ofString (lossy bytes) = bytes ↔ IsText bytes := by
  constructor
  · exact fun h => ⟨_, h⟩
  · rintro ⟨text, rfl⟩
    rw [lossy_encode, ofString, String.toList_ofList]

/-! ### Bytes that stand for themselves -/

/-- A byte below 128 is an encoding of its own. -/
theorem encodeChar_ofNat {byte : UInt8} (h : byte.toNat < 0x80) :
    String.utf8EncodeChar (Char.ofNat byte.toNat) = [byte] := by
  unfold String.utf8EncodeChar
  rw [val_ofNat (by omega), if_pos (by omega), ofNat_eq_byte _ rfl]

/-- **A byte below 128 stands in no encoding but its own.** -/
theorem eq_of_mem_encodeChar {c : Char} {byte : UInt8} (hbyte : byte.toNat < 0x80)
    (h : byte ∈ String.utf8EncodeChar c) : c = Char.ofNat byte.toNat := by
  unfold String.utf8EncodeChar at h
  by_cases h1 : c.val.toNat ≤ 0x7f
  · rw [if_pos h1] at h
    rw [List.mem_singleton.mp h, UInt8.toNat_ofNat', Nat.mod_eq_of_lt (by omega)]
    exact (Char.ofNat_toNat c).symm
  rw [if_neg h1] at h
  -- All bytes of a longer encoding are 128 at least: its lead 192, the others 128.
  exfalso
  by_cases h2 : c.val.toNat ≤ 0x7ff
  · rw [if_pos h2] at h
    simp only [List.mem_cons, List.not_mem_nil, or_false] at h
    rcases h with rfl | rfl <;> rw [UInt8.toNat_ofNat'] at hbyte <;> omega
  rw [if_neg h2] at h
  by_cases h3 : c.val.toNat ≤ 0xffff
  · rw [if_pos h3] at h
    simp only [List.mem_cons, List.not_mem_nil, or_false] at h
    rcases h with rfl | rfl | rfl <;> rw [UInt8.toNat_ofNat'] at hbyte <;> omega
  · rw [if_neg h3] at h
    simp only [List.mem_cons, List.not_mem_nil, or_false] at h
    rcases h with rfl | rfl | rfl | rfl <;> rw [UInt8.toNat_ofNat'] at hbyte <;> omega

/-- A byte below 128 in the encoding of a text is a character of the text. -/
theorem mem_of_mem_encode {text : List Char} {byte : UInt8} (hbyte : byte.toNat < 0x80)
    (h : byte ∈ encode text) : Char.ofNat byte.toNat ∈ text := by
  obtain ⟨c, hc, hmem⟩ := List.mem_flatMap.mp h
  rwa [← eq_of_mem_encodeChar hbyte hmem]

/-- **The last byte of a character** is below 128 only where it is the whole character. -/
theorem encodeChar_eq_append (c : Char) :
    ∃ front last, String.utf8EncodeChar c = front ++ [last] ∧
      (last.toNat < 0x80 → front = [] ∧ c = Char.ofNat last.toNat) := by
  rcases (String.utf8EncodeChar c).eq_nil_or_concat with h | ⟨front, last, h⟩
  · exact absurd h String.utf8EncodeChar_ne_nil
  · rw [List.concat_eq_append] at h
    refine ⟨front, last, h, fun hlast => ?_⟩
    have hc : c = Char.ofNat last.toNat := eq_of_mem_encodeChar hlast (by simp [h])
    rw [hc, encodeChar_ofNat hlast] at h
    have hsame : ([] : Bytes) ++ [last] = front ++ [last] := h
    exact ⟨(List.append_cancel_right hsame).symm, hc⟩

/-- A text whose encoding ends in a byte below 128 ends in the character of that byte. -/
theorem encode_eq_concat {text : List Char} {bytes : Bytes} {byte : UInt8}
    (hbyte : byte.toNat < 0x80) (h : encode text = bytes ++ [byte]) :
    ∃ front, text = front ++ [Char.ofNat byte.toNat] ∧ encode front = bytes := by
  rcases text.eq_nil_or_concat with rfl | ⟨front, c, rfl⟩
  · simp at h
  obtain ⟨bytes', last, hlast, hwhole⟩ := encodeChar_eq_append c
  rw [List.concat_eq_append] at h ⊢
  rw [encode_append, encode_cons, hlast, encode_nil, List.append_nil, ← List.append_assoc] at h
  obtain ⟨hfront, hbyte'⟩ := List.append_inj' h rfl
  obtain rfl := List.singleton_inj.mp hbyte'
  obtain ⟨rfl, rfl⟩ := hwhole hbyte
  exact ⟨front, rfl, by simpa using hfront⟩

/-- **Bytes below 128 behind a byte string** do not change whether it is text. -/
theorem isText_append_ascii (bytes tail : Bytes) (htail : ∀ byte ∈ tail, byte.toNat < 0x80) :
    IsText (bytes ++ tail) ↔ IsText bytes := by
  induction tail using List.reverseRecOn with
  | nil => rw [List.append_nil]
  | append_singleton tail byte ih =>
    have hbyte : byte.toNat < 0x80 := htail byte (by simp)
    rw [← ih fun byte h => htail byte (by simp [h]), ← List.append_assoc]
    constructor
    · rintro ⟨text, htext⟩
      obtain ⟨front, -, hfront⟩ := encode_eq_concat hbyte htext
      exact ⟨front, hfront⟩
    · rintro ⟨text, htext⟩
      refine ⟨text ++ [Char.ofNat byte.toNat], ?_⟩
      rw [encode_append, encode_cons, encodeChar_ofNat hbyte, htext]
      rfl

end Utf8

end TaskDaemon
