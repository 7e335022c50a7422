import TaskDaemon.Proofs.Json.Loops

/-!
# Skipping words

A value without parts that can be read can be skipped, and skipping it comes to the same place
(`TaskDaemon.Json.Cursor.skipScalar_of_readScalar`). Strings are where the two differ: what is
skipped need not be text, and a surrogate pair is skipped as two escapes.

What is skipped takes a glyph at least (`TaskDaemon.Json.Cursor.length_skipScalar_lt`), so the loop
that skips containers comes to its end.
-/

namespace TaskDaemon

namespace Json

namespace Cursor

open Attempt

variable {c c' : Cursor}

/-! ### Strings -/

/-- Four hexadecimal digits are four glyphs. -/
theorem exists_of_hexQuad {n : Nat} (h : hexQuad c = .ok n) :
    ∃ h₁ h₂ h₃ h₄ more, c.rest = h₁ :: h₂ :: h₃ :: h₄ :: more := by
  unfold hexQuad at h
  match hrest : c.rest with
  | [] => simp [hrest, bytesOf] at h
  | [a] =>
    rw [hrest] at h
    simp only [List.take_succ_cons, List.take_nil] at h
    split at h
    · cases h
    · cases ha : hexDigit? a <;> simp [ha] at h
  | [a, b] =>
    rw [hrest] at h
    simp only [List.take_succ_cons, List.take_nil] at h
    split at h
    · cases h
    · cases ha : hexDigit? a <;> cases hb : hexDigit? b <;> simp [ha, hb] at h
  | [a, b, d] =>
    rw [hrest] at h
    simp only [List.take_succ_cons, List.take_nil] at h
    split at h
    · cases h
    · cases ha : hexDigit? a <;> cases hb : hexDigit? b <;> cases hd : hexDigit? d <;>
        simp [ha, hb, hd] at h
  | a :: b :: d :: e :: more => exact ⟨a, b, d, e, more, rfl⟩

theorem pairGlyph_eq_ok_iff {ch : Char} :
    pairGlyph ch c = .ok c' ↔ ∃ more, c.rest = .char ch :: more ∧ c' = ⟨more, c.offset + 1⟩ := by
  obtain ⟨rest, offset⟩ := c
  cases rest with
  | nil => simp [pairGlyph]
  | cons glyph more =>
    by_cases hglyph : glyph = .char ch
    · subst hglyph
      simp [pairGlyph, advance, eq_comm]
    · simp [pairGlyph, hglyph]

/-- **An escape that can be read can be skipped**, and the string goes on behind it. The escape of a
surrogate pair is skipped as two. -/
theorem skipEscape_of_readEscape {rest : List Glyph} {offset count : Nat} {ch : Char}
    (h : readEscape ⟨rest, offset⟩ = .ok (ch, count)) :
    ∃ skipped, skipEscape ⟨rest, offset⟩ = .ok skipped ∧
      skipStringFrom skipped rest offset = skipStringFrom count rest offset := by
  match rest with
  | [] => cases h
  | .stray byte :: more => cases h
  | .char letter :: more =>
    by_cases hletter : letter = 'u'
    · subst hletter
      simp only [readEscape] at h
      obtain ⟨n, hn, h⟩ := bind_eq_ok_iff.mp h
      have hskip : skipEscape ⟨.char 'u' :: more, offset⟩ = .ok 5 := by
        simp only [skipEscape]
        exact map_eq_ok_iff.mpr ⟨n, hn, rfl⟩
      refine ⟨5, hskip, ?_⟩
      split at h
      · cases h
      split at h
      · -- The second half of the pair is an escape of its own.
        obtain ⟨slash, hslash, h⟩ := bind_eq_ok_iff.mp h
        obtain ⟨letter, hletter, h⟩ := bind_eq_ok_iff.mp h
        obtain ⟨low, hlow, h⟩ := bind_eq_ok_iff.mp h
        split at h
        · obtain ⟨-, rfl⟩ := Prod.mk.inj (Except.ok.inj h)
          obtain ⟨h₁, h₂, h₃, h₄, pair, hpair⟩ := exists_of_hexQuad hn
          obtain ⟨behindSlash, hbehindSlash, rfl⟩ := pairGlyph_eq_ok_iff.mp hslash
          obtain ⟨behindLetter, hbehindLetter, rfl⟩ := pairGlyph_eq_ok_iff.mp hletter
          obtain ⟨l₁, l₂, l₃, l₄, left, hleft⟩ := exists_of_hexQuad hlow
          simp only [advance, List.tail_cons] at hpair
          subst hpair
          simp only [advance, List.tail_cons, List.drop_succ_cons, List.drop_zero]
            at hbehindSlash hlow
          subst hbehindSlash
          simp only at hbehindLetter hleft
          subst hbehindLetter hleft
          have hskip' : skipEscape ⟨.char 'u' :: l₁ :: l₂ :: l₃ :: l₄ :: left, offset + 6⟩ =
              .ok 5 := by
            simp only [skipEscape]
            exact map_eq_ok_iff.mpr ⟨low, hlow, rfl⟩
          simp [skipStringFrom, hskip']
        · cases h
      · obtain ⟨-, rfl⟩ := Prod.mk.inj (Except.ok.inj h)
        rfl
    · cases hescaped : escapedBy letter with
      | none =>
        unfold readEscape at h
        split at h <;> simp_all
      | some escaped =>
        obtain rfl : count = 1 := by
          unfold readEscape at h
          split at h <;> simp_all
        refine ⟨1, ?_, rfl⟩
        unfold skipEscape
        split <;> simp_all

/-- **A string that can be read can be skipped.** Nothing in it is unfit, since that would have been
told at its end. -/
theorem skipStringFrom_of_readStringFrom {done : List Char} {unfit : Option Nat} {skip : Nat}
    {glyphs : List Glyph} {offset : Nat} {s : List Char}
    (h : readStringFrom done unfit skip glyphs offset = .ok (s, c')) :
    unfit = none ∧ skipStringFrom skip glyphs offset = .ok c' := by
  induction glyphs generalizing done unfit skip offset with
  | nil => cases skip <;> cases h
  | cons glyph rest ih =>
    cases skip with
    | succ skip => exact ih h
    | zero =>
      cases glyph with
      | stray byte =>
        have hunfit := (ih h).1
        cases hunfit
      | char ch =>
        simp only [readStringFrom] at h
        simp only [skipStringFrom]
        split at h
        · next hquote =>
          rw [if_pos hquote]
          cases unfit with
          | some count => cases h
          | none =>
            obtain ⟨-, rfl⟩ := Prod.mk.inj (Except.ok.inj h)
            exact ⟨rfl, rfl⟩
        next hquote =>
        rw [if_neg hquote]
        split at h
        · next hslash =>
          rw [if_pos hslash]
          cases hescape : readEscape ⟨rest, offset + 1⟩ with
          | error fault =>
            rw [hescape] at h
            cases h
          | ok escape =>
            obtain ⟨escaped, count⟩ := escape
            rw [hescape] at h
            obtain ⟨skipped, hskip, hsame⟩ := skipEscape_of_readEscape hescape
            obtain ⟨hunfit, hrest⟩ := ih h
            rw [hskip]
            exact ⟨Option.map_eq_none_iff.mp hunfit, hsame.trans hrest⟩
        next hslash =>
        rw [if_neg hslash]
        split at h
        · cases h
        · next hcontrol =>
          rw [if_neg hcontrol]
          obtain ⟨hunfit, hrest⟩ := ih h
          exact ⟨Option.map_eq_none_iff.mp hunfit, hrest⟩

theorem skipString_of_readString {s : String} (h : readString c = .ok (s, c')) :
    skipString c = .ok c' := by
  obtain ⟨⟨chars, after⟩, hread, hpair⟩ := map_eq_ok_iff.mp h
  obtain ⟨-, rfl⟩ := Prod.mk.inj hpair
  exact (skipStringFrom_of_readStringFrom hread).2

/-! ### Numbers -/

theorem skipWhole_of_readWhole {ds : List Nat} (h : readWhole c = .ok (ds, c')) :
    skipWhole c = .ok c' := by
  obtain ⟨rest, offset⟩ := c
  cases rest with
  | nil => cases h
  | cons glyph rest =>
    have hpeek : (⟨glyph :: rest, offset⟩ : Cursor).peek?.bind Decimal.digit? =
        glyphDigit? glyph := by
      cases glyph <;> rfl
    unfold skipWhole
    rw [hpeek]
    simp only [readWhole] at h
    split at h
    · cases h
    · split at h
      · next hnone =>
        rw [if_pos hnone]
        exact congrArg Except.ok (Prod.mk.inj (Except.ok.inj h)).2
      · cases h
    · exact congrArg Except.ok (Prod.mk.inj (Except.ok.inj h)).2

theorem skipFraction_of_readFraction {ds : Option (List Nat)} (h : readFraction c = .ok (ds, c')) :
    skipFraction c = .ok c' := by
  unfold readFraction at h
  unfold skipFraction
  split at h
  · next hpoint =>
    rw [if_pos hpoint]
    dsimp only at h ⊢
    split at h
    · cases h
    · next hsome =>
      rw [if_neg hsome]
      exact congrArg Except.ok (Prod.mk.inj (Except.ok.inj h)).2
  · next hpoint =>
    rw [if_neg hpoint]
    exact congrArg Except.ok (Prod.mk.inj (Except.ok.inj h)).2

theorem skipExponent_of_readExponent {exponent : Option (Bool × List Nat)}
    (h : readExponent c = .ok (exponent, c')) : skipExponent c = .ok c' := by
  unfold readExponent at h
  unfold skipExponent
  split at h
  · next hletter =>
    rw [if_pos hletter]
    dsimp only at h ⊢
    -- The sign decides where the digits begin, and nothing else.
    have hdigits : ∀ {start : Cursor} {down : Bool},
        (if (takeDigits start).1.isEmpty then
            .error (start.ahead (if start.rest.isEmpty then .endInValue else .invalidNumber))
          else .ok (some (down, (takeDigits start).1), (takeDigits start).2) : Except Fault _) =
          .ok (exponent, c') →
        (if (takeDigits start).1.isEmpty then .error (start.ahead .invalidNumber)
          else .ok (takeDigits start).2 : Except Fault Cursor) = .ok c' := by
      intro start down h
      split at h
      · cases h
      · next hsome =>
        rw [if_neg hsome]
        exact congrArg Except.ok (Prod.mk.inj (Except.ok.inj h)).2
    by_cases hplus : c.advance.peek? = some '+'
    · simp only [hplus, if_true, true_or] at h ⊢
      exact hdigits h
    · by_cases hminus : c.advance.peek? = some '-'
      · simp only [hminus, if_true, if_false, or_true, Option.some.injEq,
          Char.reduceEq] at h ⊢
        exact hdigits h
      · simp only [hminus, hplus, if_false, or_self] at h ⊢
        exact hdigits h
  · next hletter =>
    rw [if_neg hletter]
    exact congrArg Except.ok (Prod.mk.inj (Except.ok.inj h)).2

/-- **A number that can be read can be skipped**: its digits are the same, whatever they come to. -/
theorem skipNumber_of_readNumber {negative : Bool} {n : Number}
    (h : readNumber negative c = .ok (n, c')) : skipNumber c = .ok c' := by
  unfold readNumber at h
  obtain ⟨⟨whole, c₁⟩, hwhole, h⟩ := bind_eq_ok_iff.mp h
  obtain ⟨⟨fraction, c₂⟩, hfraction, h⟩ := bind_eq_ok_iff.mp h
  obtain ⟨⟨exponent, c₃⟩, hexponent, h⟩ := bind_eq_ok_iff.mp h
  have hend : c₃ = c' := by
    dsimp only at h
    split at h
    · exact (Prod.mk.inj (Except.ok.inj h)).2
    · split at h <;> cases h
  subst hend
  unfold skipNumber
  exact bind_eq_ok_iff.mpr ⟨c₁, skipWhole_of_readWhole hwhole, bind_eq_ok_iff.mpr
    ⟨c₂, skipFraction_of_readFraction hfraction, skipExponent_of_readExponent hexponent⟩⟩

/-! ### Values without parts -/

theorem skipScalar_of_readScalar {value : Json} (h : readScalar c = .ok (value, c')) :
    skipScalar c = .ok c' := by
  have hword : ∀ {word : List Char} {given : Json},
      ((readWord word c.advance).map fun c => (given, c)) = .ok (value, c') →
        readWord word c.advance = .ok c' := by
    intro word given h
    obtain ⟨after, hread, hpair⟩ := map_eq_ok_iff.mp h
    obtain ⟨-, rfl⟩ := Prod.mk.inj hpair
    exact hread
  have hnumber : ∀ {negative : Bool} {start : Cursor},
      ((readNumber negative start).map fun r => (Json.number r.1, r.2)) = .ok (value, c') →
        skipNumber start = .ok c' := by
    intro negative start h
    obtain ⟨⟨n, after⟩, hread, hpair⟩ := map_eq_ok_iff.mp h
    obtain ⟨-, rfl⟩ := Prod.mk.inj hpair
    exact skipNumber_of_readNumber hread
  unfold readScalar at h
  split at h
  · cases h
  · next hrest =>
    unfold skipScalar
    rw [hrest]
    exact hword h
  · next hrest =>
    unfold skipScalar
    rw [hrest]
    exact hword h
  · next hrest =>
    unfold skipScalar
    rw [hrest]
    exact hword h
  · next hrest =>
    unfold skipScalar
    rw [hrest]
    obtain ⟨⟨s, after⟩, hread, hpair⟩ := map_eq_ok_iff.mp h
    obtain ⟨-, rfl⟩ := Prod.mk.inj hpair
    exact skipString_of_readString hread
  · next hrest =>
    unfold skipScalar
    rw [hrest]
    exact hnumber h
  · next hrest =>
    split at h
    · next hdigit =>
      have hskip := hnumber h
      unfold skipScalar
      split <;> simp_all
    · cases h

theorem length_readWord_le {word : List Char} (h : readWord word c = .ok c') :
    c'.rest.length ≤ c.rest.length := by
  induction word generalizing c with
  | nil => exact (congrArg (·.rest.length) (Except.ok.inj h)).ge
  | cons letter letters ih =>
    unfold readWord at h
    split at h
    · cases h
    · split at h
      · exact (ih h).trans (length_advance_le c)
      · cases h

theorem length_skipStringFrom_le {skip : Nat} {glyphs : List Glyph} {offset : Nat}
    (h : skipStringFrom skip glyphs offset = .ok c') : c'.rest.length ≤ glyphs.length := by
  induction glyphs generalizing skip offset with
  | nil => cases skip <;> cases h
  | cons glyph rest ih =>
    have hlater : ∀ {skip offset : Nat}, skipStringFrom skip rest offset = .ok c' →
        c'.rest.length ≤ (glyph :: rest).length := fun h => (ih h).trans (Nat.le_succ _)
    cases skip with
    | succ skip => exact hlater h
    | zero =>
      cases glyph with
      | stray byte => exact hlater h
      | char ch =>
        simp only [skipStringFrom] at h
        split at h
        · obtain rfl := Except.ok.inj h
          exact Nat.le_succ _
        split at h
        · split at h
          · exact hlater h
          · cases h
        split at h
        · cases h
        · exact hlater h

theorem length_readString_le {s : String} (h : readString c = .ok (s, c')) :
    c'.rest.length ≤ c.rest.length :=
  length_skipStringFrom_le (skipString_of_readString h)

theorem length_takeDigits_le (c : Cursor) : (takeDigits c).2.rest.length ≤ c.rest.length := by
  unfold takeDigits
  rw [List.length_drop]
  exact Nat.sub_le _ _

theorem length_skipWhole_lt (h : skipWhole c = .ok c') : c'.rest.length < c.rest.length := by
  obtain ⟨rest, offset⟩ := c
  cases rest with
  | nil => cases h
  | cons glyph rest =>
    have hpeek : (⟨glyph :: rest, offset⟩ : Cursor).peek?.bind Decimal.digit? =
        glyphDigit? glyph := by
      cases glyph <;> rfl
    unfold skipWhole at h
    rw [hpeek] at h
    split at h
    · cases h
    · dsimp only at h
      split at h
      · obtain rfl := Except.ok.inj h
        exact Nat.lt_succ_self _
      · cases h
    · next d _ hdigit =>
      obtain rfl := Except.ok.inj h
      have htaken :
          ((glyph :: rest).takeWhile fun g => (glyphDigit? g).isSome).filterMap glyphDigit? =
          d :: (rest.takeWhile fun g => (glyphDigit? g).isSome).filterMap glyphDigit? := by
        rw [List.takeWhile_cons_of_pos (by rw [hdigit]; rfl), List.filterMap_cons_some hdigit]
      unfold takeDigits
      dsimp only
      rw [htaken, List.length_cons, List.drop_succ_cons, List.length_drop, List.length_cons]
      omega

theorem length_skipFraction_le (h : skipFraction c = .ok c') :
    c'.rest.length ≤ c.rest.length := by
  unfold skipFraction at h
  split at h
  · dsimp only at h
    split at h
    · cases h
    · obtain rfl := Except.ok.inj h
      exact (length_takeDigits_le _).trans (length_advance_le c)
  · obtain rfl := Except.ok.inj h
    exact le_rfl

theorem length_skipExponent_le (h : skipExponent c = .ok c') :
    c'.rest.length ≤ c.rest.length := by
  have hdigits : ∀ {start : Cursor}, start.rest.length ≤ c.rest.length →
      (if (takeDigits start).1.isEmpty then .error (start.ahead .invalidNumber)
        else .ok (takeDigits start).2 : Except Fault Cursor) = .ok c' →
      c'.rest.length ≤ c.rest.length := by
    intro start hstart h
    split at h
    · cases h
    · obtain rfl := Except.ok.inj h
      exact (length_takeDigits_le start).trans hstart
  unfold skipExponent at h
  split at h
  · refine hdigits ?_ h
    split
    · exact (length_advance_le _).trans (length_advance_le c)
    · exact length_advance_le c
  · obtain rfl := Except.ok.inj h
    exact le_rfl

theorem length_skipNumber_lt (h : skipNumber c = .ok c') : c'.rest.length < c.rest.length := by
  obtain ⟨c₁, hwhole, h⟩ := bind_eq_ok_iff.mp h
  obtain ⟨c₂, hfraction, hexponent⟩ := bind_eq_ok_iff.mp h
  calc c'.rest.length ≤ c₂.rest.length := length_skipExponent_le hexponent
    _ ≤ c₁.rest.length := length_skipFraction_le hfraction
    _ < c.rest.length := length_skipWhole_lt hwhole

/-- **A skipped value takes a glyph at least.** -/
theorem length_skipScalar_lt (h : skipScalar c = .ok c') : c'.rest.length < c.rest.length := by
  have hadvance : ∀ {glyph : Glyph} {rest : List Glyph}, c.rest = glyph :: rest →
      c.advance.rest.length < c.rest.length := by
    intro glyph rest hrest
    exact length_advance_lt (hrest ▸ List.cons_ne_nil glyph rest)
  unfold skipScalar at h
  split at h
  · cases h
  · next hrest => exact (length_readWord_le h).trans_lt (hadvance hrest)
  · next hrest => exact (length_readWord_le h).trans_lt (hadvance hrest)
  · next hrest => exact (length_readWord_le h).trans_lt (hadvance hrest)
  · next hrest => exact (length_skipStringFrom_le h).trans_lt (hadvance hrest)
  · exact (length_skipNumber_lt h).trans_le (length_advance_le c)
  · split at h
    · exact length_skipNumber_lt h
    · cases h

end Cursor

end Json

end TaskDaemon
