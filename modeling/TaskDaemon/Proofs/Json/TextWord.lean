import TaskDaemon.Proofs.Text.Decimal
import TaskDaemon.Proofs.Json.Loops

/-!
# Reading the numerals and strings that were written

Values without parts are read back in front of any other text. A number has to fear what stands
behind it, which must not read as more of the number (`TaskDaemon.Json.Cursor.Closed`); a string
ends at its quote.

* `TaskDaemon.Json.Cursor.readScalar_intChars`: integers of 64 bits;
* `TaskDaemon.Json.Cursor.readString_quoted`: strings, character by character, each by the form that
  it was escaped in.
-/

namespace TaskDaemon

namespace Json

namespace Numeral

theorem le_foldl_digits (ds : List Nat) (seed : Nat) :
    seed ≤ ds.foldl (fun n d => n * 10 + d) seed := by
  induction ds generalizing seed with
  | nil => exact Nat.le_refl seed
  | cons d ds ih => exact Nat.le_trans (by omega) (ih (seed * 10 + d))

/-- **A number of 64 bits** is its own significand. -/
theorem significand_eq {ds : List Nat} {seed : Nat}
    (h : ds.foldl (fun n d => n * 10 + d) seed ≤ maxWord) :
    significand seed ds = (ds.foldl (fun n d => n * 10 + d) seed, []) := by
  induction ds generalizing seed with
  | nil => rfl
  | cons d ds ih =>
    rw [List.foldl_cons] at h ⊢
    rw [significand, if_pos (Nat.le_trans (le_foldl_digits ds _) h)]
    exact ih h

theorem significand_digits {n : Nat} (h : n ≤ maxWord) :
    significand 0 (Decimal.digits n) = (n, []) := by
  have hvalue : (Decimal.digits n).foldl (fun n d => n * 10 + d) 0 = n := Decimal.value_digits n
  rw [significand_eq (by rwa [hvalue]), hvalue]

/-- **A whole number denotes itself.** -/
theorem toNumber_digits {n : Nat} (h : n ≤ maxWord) :
    toNumber ⟨false, Decimal.digits n, none, none⟩ = some (.int n) := by
  simp only [toNumber, significand_digits h]
  rfl

/-- **A negative whole number denotes itself**, if it fits with its sign. -/
theorem toNumber_neg_digits {n : Nat} (h : n + 1 ≤ 9223372036854775808) :
    toNumber ⟨true, Decimal.digits (n + 1), none, none⟩ = some (.int (Int.negSucc n)) := by
  simp only [toNumber, significand_digits (n := n + 1) (by unfold maxWord; omega)]
  rw [if_neg (by decide), if_neg (by omega)]
  rfl

end Numeral

namespace Cursor

/-- **Text that no number goes on with.** -/
def Closed (rest : List Glyph) : Prop :=
  ∀ glyph ∈ rest.head?, glyphDigit? glyph = none ∧ glyph ≠ .char '.' ∧ glyph ≠ .char 'e' ∧
    glyph ≠ .char 'E'

theorem Closed.peek_ne {rest : List Glyph} (h : Closed rest) (offset : Nat) :
    (⟨rest, offset⟩ : Cursor).peek? ≠ some '.' ∧ (⟨rest, offset⟩ : Cursor).peek? ≠ some 'e' ∧
      (⟨rest, offset⟩ : Cursor).peek? ≠ some 'E' := by
  cases rest with
  | nil => exact ⟨nofun, nofun, nofun⟩
  | cons glyph rest =>
    obtain ⟨-, hpoint, he, hE⟩ := h glyph rfl
    cases glyph with
    | stray byte => exact ⟨nofun, nofun, nofun⟩
    | char ch =>
      refine ⟨fun heq => hpoint ?_, fun heq => he ?_, fun heq => hE ?_⟩
      all_goals exact congrArg Glyph.char (Option.some.inj heq)

/-- **Digits are taken** up to where there are no more. -/
theorem takeDigits_append {ds : List Nat} (hds : ∀ d ∈ ds, d < 10) {rest : List Glyph}
    (hrest : Closed rest) (offset : Nat) :
    takeDigits ⟨(ds.map Decimal.digitChar).map Glyph.char ++ rest, offset⟩ =
      (ds, ⟨rest, offset + ds.length⟩) := by
  have hrun : (((ds.map Decimal.digitChar).map Glyph.char ++ rest).takeWhile fun g =>
      (glyphDigit? g).isSome) = (ds.map Decimal.digitChar).map Glyph.char := by
    rw [List.takeWhile_append_of_pos]
    · cases rest with
      | nil => simp
      | cons glyph rest =>
        have hother := (hrest glyph rfl).1
        simp [hother]
    · intro glyph hglyph
      simp only [List.mem_map, exists_exists_and_eq_and] at hglyph
      obtain ⟨d, hd, rfl⟩ := hglyph
      rw [glyphDigit?, Decimal.digit?_digitChar d (hds d hd)]
      rfl
  have hdigits : ((ds.map Decimal.digitChar).map Glyph.char).filterMap glyphDigit? = ds := by
    clear hrun
    induction ds with
    | nil => rfl
    | cons d ds ih =>
      have hd : glyphDigit? (.char (Decimal.digitChar d)) = some d :=
        Decimal.digit?_digitChar d (hds d List.mem_cons_self)
      simp only [List.map_cons, List.filterMap_cons, hd]
      rw [ih fun e he => hds e (List.mem_cons_of_mem _ he)]
  unfold takeDigits
  dsimp only
  rw [hrun, hdigits]
  simp

/-- The glyphs of a text that is all characters. -/
abbrev shown (text : List Char) : List Glyph :=
  text.map Glyph.char

theorem readWhole_digits (n : Nat) {rest : List Glyph} (hrest : Closed rest) (offset : Nat) :
    readWhole ⟨shown (Decimal.chars n) ++ rest, offset⟩ =
      .ok (Decimal.digits n, ⟨rest, offset + (Decimal.digits n).length⟩) := by
  have hlt := Decimal.digits_lt_ten n
  have htake := takeDigits_append hlt hrest offset
  unfold Decimal.chars
  cases hdigits : Decimal.digits n with
  | nil => exact absurd hdigits (Decimal.digits_ne_nil n)
  | cons d ds =>
    rw [hdigits] at hlt htake
    have hd : glyphDigit? (.char (Decimal.digitChar d)) = some d :=
      Decimal.digit?_digitChar d (hlt d List.mem_cons_self)
    unfold readWhole
    simp only [List.map_cons, List.cons_append] at htake ⊢
    rw [hd]
    cases d with
    | succ d => exact congrArg Except.ok htake
    | zero =>
      -- A leading zero is the whole number.
      obtain ⟨-, rfl⟩ := Decimal.digits_eq_zero_cons hdigits
      have hnone : takeDigits ⟨rest, offset + 1⟩ = ([], ⟨rest, offset + 1⟩) :=
        takeDigits_append (List.forall_mem_nil _) hrest (offset + 1)
      simp only [advance, List.tail_cons, List.map_nil, List.nil_append, hnone]
      rfl

/-- **A whole number is read** as the number its numeral denotes. -/
theorem readNumber_digits {negative : Bool} {n : Nat} {m : Number} {rest : List Glyph}
    (hrest : Closed rest)
    (hnumber : Numeral.toNumber ⟨negative, Decimal.digits n, none, none⟩ = some m)
    (offset : Nat) :
    readNumber negative ⟨shown (Decimal.chars n) ++ rest, offset⟩ =
      .ok (m, ⟨rest, offset + (Decimal.digits n).length⟩) := by
  obtain ⟨hpoint, he, hE⟩ := hrest.peek_ne (offset + (Decimal.digits n).length)
  have hfraction : readFraction ⟨rest, offset + (Decimal.digits n).length⟩ =
      .ok (none, ⟨rest, offset + (Decimal.digits n).length⟩) := by
    unfold readFraction
    rw [if_neg hpoint]
  have hexponent : readExponent ⟨rest, offset + (Decimal.digits n).length⟩ =
      .ok (none, ⟨rest, offset + (Decimal.digits n).length⟩) := by
    unfold readExponent
    rw [if_neg (not_or.mpr ⟨he, hE⟩)]
  simp only [readNumber, readWhole_digits n hrest, bind, Except.bind, hfraction, hexponent, hnumber]

/-- What starts with a digit is read as a number. -/
theorem readScalar_of_digit {glyph : Glyph} (h : (glyphDigit? glyph).isSome = true)
    (rest : List Glyph) (offset : Nat) :
    readScalar ⟨glyph :: rest, offset⟩ =
      (readNumber false ⟨glyph :: rest, offset⟩).map fun r => (.number r.1, r.2) := by
  unfold readScalar
  split
  · next hrest => cases hrest
  · next hrest =>
    obtain rfl := (List.cons.inj hrest).1
    cases h
  · next hrest =>
    obtain rfl := (List.cons.inj hrest).1
    cases h
  · next hrest =>
    obtain rfl := (List.cons.inj hrest).1
    cases h
  · next hrest =>
    obtain rfl := (List.cons.inj hrest).1
    cases h
  · next hrest =>
    obtain rfl := (List.cons.inj hrest).1
    cases h
  · next hrest =>
    obtain ⟨rfl, rfl⟩ := List.cons.inj hrest
    rw [if_pos h]

/-- **The integers that are read back.** -/
def fitsWord (n : Int) : Prop :=
  -9223372036854775808 ≤ n ∧ n ≤ 18446744073709551615

/-- **An integer is read back.** -/
theorem readScalar_intChars {n : Int} (hn : fitsWord n) {rest : List Glyph} (hrest : Closed rest)
    (offset : Nat) : ∃ offset', readScalar ⟨shown (Decimal.intChars n) ++ rest, offset⟩ =
      .ok (.number (.int n), ⟨rest, offset'⟩) := by
  obtain ⟨hleast, hgreatest⟩ := hn
  cases n with
  | ofNat n =>
    have hmax : n ≤ Numeral.maxWord := by
      unfold Numeral.maxWord
      exact Int.ofNat_le.mp hgreatest
    have hread := readNumber_digits hrest (Numeral.toNumber_digits hmax) offset
    refine ⟨offset + (Decimal.digits n).length, ?_⟩
    have hlt := Decimal.digits_lt_ten n
    change readScalar ⟨shown (Decimal.chars n) ++ rest, offset⟩ = _
    unfold Decimal.chars at hread ⊢
    cases hdigits : Decimal.digits n with
    | nil => exact absurd hdigits (Decimal.digits_ne_nil n)
    | cons d ds =>
      have hd := Decimal.digit?_digitChar d (hlt d (hdigits ▸ List.mem_cons_self))
      rw [hdigits] at hread
      simp only [List.map_cons, List.cons_append] at hread ⊢
      rw [readScalar_of_digit (by rw [glyphDigit?, hd]; rfl), hread]
      rfl
  | negSucc n =>
    have hread := readNumber_digits hrest (Numeral.toNumber_neg_digits (n := n) (by omega))
      (offset + 1)
    refine ⟨offset + 1 + (Decimal.digits (n + 1)).length, ?_⟩
    change (readNumber true ⟨shown (Decimal.chars (n + 1)) ++ rest, offset + 1⟩).map _ = _
    rw [hread]
    rfl

/-! ### Strings -/

theorem hexDigit?_hexChar : ∀ d < 16, hexDigit? (.char (hexChar d)) = some d := by decide

theorem utf8Size_hexChar : ∀ d < 16, (hexChar d).utf8Size = 1 := by decide

/-- **A control character's code** is read back. -/
theorem hexQuad_control {n : Nat} (hn : n < 0x20) (rest : List Glyph) (offset : Nat) :
    hexQuad ⟨.char '0' :: .char '0' :: .char (hexChar (n / 16)) :: .char (hexChar (n % 16)) :: rest,
      offset⟩ = .ok n := by
  have hhigh : n / 16 < 16 := by omega
  have hlow : n % 16 < 16 := by omega
  have hsize :
      bytesOf [.char '0', .char '0', .char (hexChar (n / 16)), .char (hexChar (n % 16))] = 4 := by
    simp only [bytesOf, List.foldl_cons, List.foldl_nil, Glyph.size, utf8Size_hexChar _ hhigh,
      utf8Size_hexChar _ hlow]
    rfl
  have hdigits :
      [Glyph.char '0', .char '0', .char (hexChar (n / 16)), .char (hexChar (n % 16))].mapM
        hexDigit? = some [0, 0, n / 16, n % 16] := by
    simp only [List.mapM_cons, List.mapM_nil, hexDigit?_hexChar _ hhigh, hexDigit?_hexChar _ hlow]
    rfl
  unfold hexQuad
  simp only [List.take_succ_cons, List.take_zero, hsize, hdigits]
  rw [if_neg (by decide)]
  refine congrArg Except.ok ?_
  omega

theorem readStringFrom_letter {letter c : Char} (hletter : letter ≠ 'u')
    (h : escapedBy letter = some c) (done : List Char) (rest : List Glyph) (offset : Nat) :
    readStringFrom done none 0 (shown ['\\', letter] ++ rest) offset =
      readStringFrom (c :: done) none 0 rest (offset + 2) := by
  have hescape : readEscape ⟨.char letter :: rest, offset + 1⟩ = .ok (c, 1) := by
    unfold readEscape
    split
    · next hrest => cases hrest
    · next hrest => exact absurd (Glyph.char.inj (List.cons.inj hrest).1) hletter
    · next hrest =>
      obtain rfl := Glyph.char.inj (List.cons.inj hrest).1
      rw [h]
    · next hrest => cases hrest
  simp only [shown, List.map_cons, List.map_nil, List.cons_append, List.nil_append, readStringFrom]
  rw [if_neg (by decide), if_pos trivial, hescape]
  simp only [readStringFrom, Option.map_none]

theorem readStringFrom_control {c : Char} (hc : c.toNat < 0x20) (done : List Char)
    (rest : List Glyph) (offset : Nat) :
    readStringFrom done none 0
        (shown ['\\', 'u', '0', '0', hexChar (c.toNat / 16), hexChar (c.toNat % 16)] ++ rest)
        offset =
      readStringFrom (c :: done) none 0 rest (offset + 6) := by
  have hescape : readEscape ⟨.char 'u' :: .char '0' :: .char '0' ::
      .char (hexChar (c.toNat / 16)) :: .char (hexChar (c.toNat % 16)) :: rest, offset + 1⟩ =
      .ok (c, 5) := by
    have hlow : isLowSurrogate c.toNat = false := by
      unfold isLowSurrogate
      rw [decide_eq_false (by omega), Bool.false_and]
    have hhigh : isHighSurrogate c.toNat = false := by
      unfold isHighSurrogate
      rw [decide_eq_false (by omega), Bool.false_and]
    simp only [readEscape, advance, List.tail_cons, hexQuad_control hc, bind, Except.bind]
    rw [hlow, hhigh, Char.ofNat_toNat]
    rfl
  simp only [shown, List.map_cons, List.map_nil, List.cons_append, List.nil_append, readStringFrom]
  rw [if_neg (by decide), if_pos trivial, hescape]
  simp only [readStringFrom, Option.map_none]

/-- **An escaped character is read back.** -/
theorem readStringFrom_escape (c : Char) (done : List Char) (rest : List Glyph) (offset : Nat) :
    ∃ offset', readStringFrom done none 0 (shown (escape c) ++ rest) offset =
      readStringFrom (c :: done) none 0 rest offset' := by
  have hcode : ∀ {n : Nat}, c.toNat = n → c = Char.ofNat n := by
    rintro n rfl
    exact (Char.ofNat_toNat c).symm
  unfold escape
  split
  · next h =>
    subst h
    exact ⟨_, readStringFrom_letter (by decide) rfl done rest offset⟩
  next hquote =>
  split
  · next h =>
    subst h
    exact ⟨_, readStringFrom_letter (by decide) rfl done rest offset⟩
  next hbackslash =>
  split
  · next h =>
    obtain rfl := hcode h
    exact ⟨_, readStringFrom_letter (by decide) rfl done rest offset⟩
  split
  · next h =>
    obtain rfl := hcode h
    exact ⟨_, readStringFrom_letter (by decide) rfl done rest offset⟩
  split
  · next h =>
    subst h
    exact ⟨_, readStringFrom_letter (by decide) rfl done rest offset⟩
  split
  · next h =>
    subst h
    exact ⟨_, readStringFrom_letter (by decide) rfl done rest offset⟩
  split
  · next h =>
    subst h
    exact ⟨_, readStringFrom_letter (by decide) rfl done rest offset⟩
  split
  · next h => exact ⟨_, readStringFrom_control h done rest offset⟩
  · next h =>
    refine ⟨offset + c.utf8Size, ?_⟩
    simp only [shown, List.map_cons, List.map_nil, List.cons_append, List.nil_append,
      readStringFrom]
    rw [if_neg hquote, if_neg hbackslash, if_neg h]
    rfl

/-- **A string is read back.** -/
theorem readString_quoted (text : List Char) (rest : List Glyph) (offset : Nat) :
    ∃ offset', readString ⟨shown (text.flatMap escape ++ ['"']) ++ rest, offset⟩ =
      .ok (String.ofList text, ⟨rest, offset'⟩) := by
  have hloop : ∀ (text done : List Char) (offset : Nat), ∃ offset',
      readStringFrom done none 0 (shown (text.flatMap escape ++ ['"']) ++ rest) offset =
        .ok (done.reverse ++ text, ⟨rest, offset'⟩) := by
    intro text
    induction text with
    | nil => exact fun done offset => ⟨offset + 1, by simp [readStringFrom]⟩
    | cons c text ih =>
      intro done offset
      obtain ⟨behind, hc⟩ := readStringFrom_escape c done
        (shown (text.flatMap escape ++ ['"']) ++ rest) offset
      obtain ⟨offset', hmore⟩ := ih (c :: done) behind
      refine ⟨offset', ?_⟩
      rw [List.flatMap_cons, List.append_assoc, shown, List.map_append, List.append_assoc]
      refine hc.trans (hmore.trans ?_)
      rw [List.reverse_cons, List.append_assoc, List.singleton_append]
  obtain ⟨offset', hread⟩ := hloop text [] offset
  refine ⟨offset', ?_⟩
  unfold readString
  rw [hread]
  rfl

end Cursor

end Json

end TaskDaemon
