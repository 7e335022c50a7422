import TaskDaemon.Proofs.Json.SkipWord
import TaskDaemon.Proofs.Json.TextWord
import TaskDaemon.Proofs.Json.Way

/-!
# Reading and skipping words looks no further than the glyph behind

The words of JSON are read from their own glyphs and those that are skipped are skipped by them:
this file shows that the ways of their readers are local. Numbers are why the glyph behind matters,
since they go on as long as they can.

Two of the readers do not say which cursor they lead to, but how many glyphs they take
(`TaskDaemon.Json.Cursor.readEscape_of_count`, `TaskDaemon.Json.Cursor.skipEscape_of_count`). A
string is read glyph by glyph, and the glyphs of an escape are among those that it still has to
take.

* `TaskDaemon.Json.Cursor.local_readString`, `TaskDaemon.Json.Cursor.local_skipString`: strings;
* `TaskDaemon.Json.Cursor.local_readNumber`, `TaskDaemon.Json.Cursor.local_skipNumber`: numbers;
* `TaskDaemon.Json.Cursor.local_readScalar`, `TaskDaemon.Json.Cursor.local_skipScalar`: all values
  without parts.
-/

namespace TaskDaemon

namespace Json

namespace Cursor

open Attempt Way

variable {c c' : Cursor}

/-! ### Words -/

theorem local_readWord (word : List Char) : (Moves (readWord word)).Local word.length := by
  induction word with
  | nil =>
    exact local_stay.congr fun c c' => ⟨fun h => (Except.ok.inj h).symm, fun h => congrArg _ h.symm⟩
  | cons letter letters ih =>
    refine ((local_glyph (.char letter)).comp ih).anti (Nat.add_comm _ _).le |>.congr
      fun c c' => ?_
    obtain ⟨rest, offset⟩ := c
    cases rest with
    | nil => simp [Moves, readWord, comp, glyph]
    | cons glyph rest =>
      by_cases hglyph : glyph = .char letter <;> simp [Moves, readWord, comp, Way.glyph, hglyph]

/-! ### Strings -/

/-- Four hexadecimal digits are read from four glyphs. -/
theorem hexQuad_of_four {n : Nat} (h : hexQuad c = .ok n) :
    ∃ quad more, quad.length = 4 ∧ c.rest = quad ++ more ∧
      ∀ more' offset, hexQuad ⟨quad ++ more', offset⟩ = .ok n := by
  obtain ⟨rest, offset⟩ := c
  obtain ⟨h₁, h₂, h₃, h₄, more, hrest⟩ := exists_of_hexQuad h
  dsimp only at hrest
  subst hrest
  refine ⟨[h₁, h₂, h₃, h₄], more, rfl, rfl, fun more' offset' => ?_⟩
  have htake : ∀ more, (h₁ :: h₂ :: h₃ :: h₄ :: more).take 4 = [h₁, h₂, h₃, h₄] := fun _ => rfl
  unfold hexQuad at h ⊢
  dsimp only [List.cons_append] at h ⊢
  rw [htake] at h ⊢
  by_cases hbytes : bytesOf [h₁, h₂, h₃, h₄] < 4
  · rw [if_pos hbytes] at h
    cases h
  rw [if_neg hbytes] at h ⊢
  -- There are four digits or a fault.
  generalize [h₁, h₂, h₃, h₄].mapM hexDigit? = digits at h ⊢
  rcases digits with _ | _ | ⟨_, _ | ⟨_, _ | ⟨_, _ | ⟨_, _ | _⟩⟩⟩⟩
  all_goals first | exact h | cases h

/-- An escape of one letter. -/
theorem readEscape_letter {letter : Char} (hletter : letter ≠ 'u') {rest : List Glyph}
    {offset count : Nat} {ch : Char} :
    readEscape ⟨.char letter :: rest, offset⟩ = .ok (ch, count) ↔
      escapedBy letter = some ch ∧ count = 1 := by
  unfold readEscape
  split
  · next hrest => cases hrest
  · next hrest => exact absurd (Glyph.char.inj (List.cons.inj hrest).1) hletter
  · next hrest =>
    obtain ⟨hglyph, -⟩ := List.cons.inj hrest
    obtain rfl := Glyph.char.inj hglyph
    cases escapedBy letter <;> simp [eq_comm]
  · next hrest => cases hrest

/-- The same for an escape that is skipped. -/
theorem skipEscape_letter {letter : Char} (hletter : letter ≠ 'u') {rest : List Glyph}
    {offset count : Nat} :
    skipEscape ⟨.char letter :: rest, offset⟩ = .ok count ↔
      escapedBy letter ≠ none ∧ count = 1 := by
  unfold skipEscape
  split
  · next hrest => cases hrest
  · next hrest => exact absurd (Glyph.char.inj (List.cons.inj hrest).1) hletter
  · next hrest =>
    obtain ⟨hglyph, -⟩ := List.cons.inj hrest
    obtain rfl := Glyph.char.inj hglyph
    cases escapedBy letter <;> simp [eq_comm]
  · next hrest => cases hrest

/-- **An escape is read from its own glyphs.** -/
theorem readEscape_of_count {rest : List Glyph} {offset count : Nat} {ch : Char}
    (h : readEscape ⟨rest, offset⟩ = .ok (ch, count)) :
    ∃ escape more, escape.length = count ∧ rest = escape ++ more ∧
      ∀ more', readEscape ⟨escape ++ more', offset⟩ = .ok (ch, count) := by
  rcases rest with _ | ⟨letter | byte, more⟩
  · cases h
  · by_cases hletter : letter = 'u'
    · subst hletter
      simp only [readEscape] at h
      obtain ⟨n, hn, h⟩ := bind_eq_ok_iff.mp h
      obtain ⟨quad, behind, hlength, hquad, hsame⟩ := hexQuad_of_four hn
      simp only [advance, List.tail_cons] at hquad h
      subst hquad
      rw [List.drop_left' hlength] at h
      split at h
      · cases h
      next hlow =>
      split at h
      · next hhigh =>
        obtain ⟨slash, hslash, h⟩ := bind_eq_ok_iff.mp h
        obtain ⟨letter, hletter, h⟩ := bind_eq_ok_iff.mp h
        obtain ⟨low, hpair, h⟩ := bind_eq_ok_iff.mp h
        split at h
        · next hislow =>
          obtain ⟨rfl, rfl⟩ := Prod.mk.inj (Except.ok.inj h)
          obtain ⟨behindSlash, hbehindSlash, rfl⟩ := pairGlyph_eq_ok_iff.mp hslash
          obtain ⟨behindLetter, hbehindLetter, rfl⟩ := pairGlyph_eq_ok_iff.mp hletter
          obtain ⟨quad', left, hlength', hquad', hsame'⟩ := hexQuad_of_four hpair
          dsimp only at hbehindSlash hbehindLetter hquad'
          subst hbehindSlash hbehindLetter hquad'
          refine ⟨.char 'u' :: quad ++ [.char '\\', .char 'u'] ++ quad', left, ?_, ?_,
            fun more' => ?_⟩
          · simp [hlength, hlength']
          · simp
          · have hleft : .char 'u' :: quad ++ [.char '\\', .char 'u'] ++ quad' ++ more' =
                .char 'u' :: (quad ++ .char '\\' :: .char 'u' :: (quad' ++ more')) := by simp
            rw [hleft]
            simp only [readEscape, advance, List.tail_cons]
            refine bind_eq_ok_iff.mpr ⟨n, hsame _ _, ?_⟩
            rw [if_neg hlow, if_pos hhigh]
            refine bind_eq_ok_iff.mpr ⟨⟨.char 'u' :: (quad' ++ more'), offset + 1 + 4 + 1⟩,
              pairGlyph_eq_ok_iff.mpr ⟨_, List.drop_left' hlength, rfl⟩, ?_⟩
            refine bind_eq_ok_iff.mpr ⟨⟨quad' ++ more', offset + 1 + 4 + 1 + 1⟩,
              pairGlyph_eq_ok_iff.mpr ⟨_, rfl, rfl⟩, ?_⟩
            refine bind_eq_ok_iff.mpr ⟨low, hsame' _ _, ?_⟩
            rw [if_pos hislow]
        · cases h
      · next hhigh =>
        obtain ⟨rfl, rfl⟩ := Prod.mk.inj (Except.ok.inj h)
        refine ⟨.char 'u' :: quad, behind, congrArg Nat.succ hlength, rfl, fun more' => ?_⟩
        simp only [List.cons_append, readEscape, advance, List.tail_cons]
        refine bind_eq_ok_iff.mpr ⟨n, hsame _ _, ?_⟩
        rw [if_neg hlow, if_neg hhigh]
    · obtain ⟨hescaped, rfl⟩ := (readEscape_letter hletter).mp h
      exact ⟨[.char letter], more, rfl, rfl,
        fun more' => (readEscape_letter hletter).mpr ⟨hescaped, rfl⟩⟩
  · cases h

/-- **A string is read from its own glyphs**, among which are those that are still to be skipped. -/
theorem readStringFrom_of_used {done : List Char} {unfit : Option Nat} {skip : Nat}
    {glyphs : List Glyph} {offset : Nat} {s : List Char}
    (h : readStringFrom done unfit skip glyphs offset = .ok (s, c')) :
    ∃ used, skip < used.length ∧ glyphs = used ++ c'.rest ∧
      ∀ rest,
        readStringFrom done unfit skip (used ++ rest) offset = .ok (s, ⟨rest, c'.offset⟩) := by
  induction glyphs generalizing done unfit skip offset with
  | nil => cases skip <;> cases h
  | cons glyph glyphs ih =>
    cases skip with
    | succ skip =>
      obtain ⟨used, hlength, rfl, hsame⟩ := ih h
      exact ⟨glyph :: used, Nat.succ_lt_succ hlength, rfl, hsame⟩
    | zero =>
      cases glyph with
      | stray byte =>
        obtain ⟨used, -, rfl, hsame⟩ := ih h
        exact ⟨.stray byte :: used, Nat.succ_pos _, rfl, hsame⟩
      | char ch =>
        simp only [readStringFrom] at h
        split at h
        · next hquote =>
          cases unfit with
          | some count => cases h
          | none =>
            obtain ⟨rfl, rfl⟩ := Prod.mk.inj (Except.ok.inj h)
            refine ⟨[.char ch], Nat.one_pos, rfl, fun rest => ?_⟩
            simp only [List.singleton_append, readStringFrom, if_pos hquote]
        next hquote =>
        split at h
        · next hslash =>
          cases hescape : readEscape ⟨glyphs, offset + 1⟩ with
          | error fault =>
            rw [hescape] at h
            cases h
          | ok read =>
            obtain ⟨escaped, count⟩ := read
            rw [hescape] at h
            obtain ⟨used, hlength, hglyphs, hsame⟩ := ih h
            obtain ⟨escape, more, hcount, hescaped, hread⟩ := readEscape_of_count hescape
            -- The glyphs of the escape are the first ones of the string still to be skipped.
            obtain ⟨left, rfl⟩ : escape <+: used :=
              List.prefix_of_prefix_length_le ⟨more, hescaped.symm⟩ ⟨c'.rest, hglyphs.symm⟩
                (hcount ▸ hlength.le)
            refine ⟨.char ch :: (escape ++ left), Nat.succ_pos _, congrArg _ hglyphs,
              fun rest => ?_⟩
            simp only [List.cons_append, readStringFrom, if_neg hquote, if_pos hslash]
            rw [List.append_assoc, hread (left ++ rest), ← List.append_assoc]
            exact hsame rest
        next hslash =>
        split at h
        · cases h
        next hcontrol =>
        obtain ⟨used, -, rfl, hsame⟩ := ih h
        refine ⟨.char ch :: used, Nat.succ_pos _, rfl, fun rest => ?_⟩
        simp only [List.cons_append, readStringFrom, if_neg hquote, if_neg hslash, if_neg hcontrol]
        exact hsame rest

theorem local_readString (s : String) : (Reads readString s).Local 1 := by
  intro c c' h
  obtain ⟨⟨chars, after⟩, hread, hpair⟩ := map_eq_ok_iff.mp h
  obtain ⟨hchars, rfl⟩ := Prod.mk.inj hpair
  obtain ⟨used, hlength, hrest, hsame⟩ := readStringFrom_of_used hread
  refine ⟨used, hlength, hrest, fun rest _ => map_eq_ok_iff.mpr ⟨_, hsame rest, ?_⟩⟩
  rw [← hchars]

/-- **An escape is skipped by its own glyphs.** -/
theorem skipEscape_of_count {rest : List Glyph} {offset count : Nat}
    (h : skipEscape ⟨rest, offset⟩ = .ok count) :
    ∃ escape more, escape.length = count ∧ rest = escape ++ more ∧
      ∀ more', skipEscape ⟨escape ++ more', offset⟩ = .ok count := by
  rcases rest with _ | ⟨letter | byte, more⟩
  · cases h
  · by_cases hletter : letter = 'u'
    · subst hletter
      obtain ⟨n, hn, rfl⟩ := map_eq_ok_iff.mp h
      obtain ⟨quad, behind, hlength, hquad, hsame⟩ := hexQuad_of_four hn
      simp only [advance, List.tail_cons] at hquad
      subst hquad
      exact ⟨.char 'u' :: quad, behind, congrArg Nat.succ hlength, rfl,
        fun more' => map_eq_ok_iff.mpr ⟨n, hsame _ _, rfl⟩⟩
    · obtain ⟨hescaped, rfl⟩ := (skipEscape_letter hletter).mp h
      exact ⟨[.char letter], more, rfl, rfl,
        fun more' => (skipEscape_letter hletter).mpr ⟨hescaped, rfl⟩⟩
  · cases h

/-- **A string is skipped by its own glyphs.** -/
theorem skipStringFrom_of_used {skip : Nat} {glyphs : List Glyph} {offset : Nat}
    (h : skipStringFrom skip glyphs offset = .ok c') :
    ∃ used, skip < used.length ∧ glyphs = used ++ c'.rest ∧
      ∀ rest, skipStringFrom skip (used ++ rest) offset = .ok ⟨rest, c'.offset⟩ := by
  induction glyphs generalizing skip offset with
  | nil => cases skip <;> cases h
  | cons glyph glyphs ih =>
    cases skip with
    | succ skip =>
      obtain ⟨used, hlength, rfl, hsame⟩ := ih h
      exact ⟨glyph :: used, Nat.succ_lt_succ hlength, rfl, hsame⟩
    | zero =>
      cases glyph with
      | stray byte =>
        obtain ⟨used, -, rfl, hsame⟩ := ih h
        exact ⟨.stray byte :: used, Nat.succ_pos _, rfl, hsame⟩
      | char ch =>
        simp only [skipStringFrom] at h
        split at h
        · next hquote =>
          obtain rfl := Except.ok.inj h
          refine ⟨[.char ch], Nat.one_pos, rfl, fun rest => ?_⟩
          simp only [List.singleton_append, skipStringFrom, if_pos hquote]
        next hquote =>
        split at h
        · next hslash =>
          cases hescape : skipEscape ⟨glyphs, offset + 1⟩ with
          | error fault =>
            rw [hescape] at h
            cases h
          | ok count =>
            rw [hescape] at h
            obtain ⟨used, hlength, hglyphs, hsame⟩ := ih h
            obtain ⟨escape, more, hcount, hescaped, hread⟩ := skipEscape_of_count hescape
            obtain ⟨left, rfl⟩ : escape <+: used :=
              List.prefix_of_prefix_length_le ⟨more, hescaped.symm⟩ ⟨c'.rest, hglyphs.symm⟩
                (hcount ▸ hlength.le)
            refine ⟨.char ch :: (escape ++ left), Nat.succ_pos _, congrArg _ hglyphs,
              fun rest => ?_⟩
            simp only [List.cons_append, skipStringFrom, if_neg hquote, if_pos hslash]
            rw [List.append_assoc, hread (left ++ rest), ← List.append_assoc]
            exact hsame rest
        next hslash =>
        split at h
        · cases h
        next hcontrol =>
        obtain ⟨used, -, rfl, hsame⟩ := ih h
        refine ⟨.char ch :: used, Nat.succ_pos _, rfl, fun rest => ?_⟩
        simp only [List.cons_append, skipStringFrom, if_neg hquote, if_neg hslash, if_neg hcontrol]
        exact hsame rest

theorem local_skipString : (Moves skipString).Local 1 := by
  intro c c' h
  obtain ⟨used, hlength, hrest, hsame⟩ := skipStringFrom_of_used h
  exact ⟨used, hlength, hrest, fun rest _ => hsame rest⟩

/-! ### Numerals -/

/-- The glyph in front is no digit. -/
def NoDigit (glyph : Option Glyph) : Prop :=
  ∀ g ∈ glyph, glyphDigit? g = none

theorem exists_digits (glyphs : List Glyph) :
    ∃ (used : List Glyph) (ds : List Nat) (rest : List Glyph),
    glyphs = used ++ rest ∧ used.map glyphDigit? = ds.map some ∧ NoDigit rest.head? := by
  induction glyphs with
  | nil =>
    refine ⟨[], [], [], rfl, rfl, fun g hg => ?_⟩
    cases hg
  | cons glyph glyphs ih =>
    cases hglyph : glyphDigit? glyph with
    | none =>
      refine ⟨[], [], glyph :: glyphs, rfl, rfl, fun g hg => ?_⟩
      obtain rfl := Option.some.inj hg
      exact hglyph
    | some d =>
      obtain ⟨used, ds, rest, rfl, hused, hrest⟩ := ih
      exact ⟨glyph :: used, d :: ds, rest, rfl, by rw [List.map_cons, List.map_cons, hglyph, hused],
        hrest⟩

/-- **Digits are taken** up to a glyph that is none. -/
theorem takeDigits_of_digits {used rest : List Glyph} {ds : List Nat}
    (hused : used.map glyphDigit? = ds.map some) (hrest : NoDigit rest.head?) (offset : Nat) :
    takeDigits ⟨used ++ rest, offset⟩ = (ds, ⟨rest, offset + ds.length⟩) := by
  have hlength : used.length = ds.length := by
    have hlengths := congrArg List.length hused
    simpa only [List.length_map] using hlengths
  have hdigits : ((used ++ rest).takeWhile fun g => (glyphDigit? g).isSome).filterMap glyphDigit? =
      ds := by
    clear hlength
    induction used generalizing ds with
    | nil =>
      obtain rfl := List.map_eq_nil_iff.mp hused.symm
      cases rest with
      | nil => rfl
      | cons glyph rest =>
        have hglyph := hrest glyph rfl
        rw [List.nil_append, List.takeWhile_cons_of_neg (by rw [hglyph]; decide)]
        rfl
    | cons glyph used ih =>
      obtain ⟨d, ds, rfl, hd, hds⟩ := List.map_eq_cons_iff.mp hused.symm
      rw [List.cons_append, List.takeWhile_cons_of_pos (by rw [← hd]; rfl),
        List.filterMap_cons_some hd.symm, ih hds.symm]
  unfold takeDigits
  dsimp only
  rw [hdigits, List.drop_left' hlength]

theorem local_digits (ds : List Nat) : (digits ds).Local ds.length := by
  rintro ⟨glyphs, offset⟩ c' h
  obtain ⟨used, ds', rest, rfl, hused, hrest⟩ := exists_digits glyphs
  rw [digits, takeDigits_of_digits hused hrest] at h
  obtain ⟨rfl, rfl⟩ := Prod.mk.inj h
  refine ⟨used, ?_, rfl, fun rest' hhead => takeDigits_of_digits hused (hhead ▸ hrest) offset⟩
  have hlength := congrArg List.length hused
  simp only [List.length_map] at hlength
  exact hlength.ge

/-- There are no digits in front of what is none. -/
theorem takeDigits_isEmpty_iff : (takeDigits c).1.isEmpty = true ↔ NoDigit c.rest.head? := by
  obtain ⟨glyphs, offset⟩ := c
  obtain ⟨used, ds, rest, rfl, hused, hrest⟩ := exists_digits glyphs
  rw [takeDigits_of_digits hused hrest, List.isEmpty_iff]
  cases used with
  | nil =>
    obtain rfl := List.map_eq_nil_iff.mp hused.symm
    exact ⟨fun _ => hrest, fun _ => rfl⟩
  | cons glyph used =>
    obtain ⟨d, ds, rfl, hd, -⟩ := List.map_eq_cons_iff.mp hused.symm
    refine iff_of_false (List.cons_ne_nil d ds) fun hnone => ?_
    cases hd.trans (hnone glyph rfl)

/-- A zero before the point stands alone. -/
theorem readWhole_of_zero {glyph : Glyph} (hdigit : glyphDigit? glyph = some 0)
    (hhead : c.rest.head? = some glyph) :
    readWhole c = if (takeDigits c.advance).1.isEmpty then .ok ([0], c.advance)
      else .error (c.advance.ahead .invalidNumber) := by
  obtain ⟨rest, offset⟩ := c
  obtain ⟨rest, rfl⟩ := List.head?_eq_some_iff.mp hhead
  simp only [readWhole, hdigit]

/-- Behind another digit as many stand as there are. -/
theorem readWhole_of_succ {glyph : Glyph} {d : Nat} (hdigit : glyphDigit? glyph = some (d + 1))
    (hhead : c.rest.head? = some glyph) : readWhole c = .ok (takeDigits c) := by
  obtain ⟨rest, offset⟩ := c
  obtain ⟨rest, rfl⟩ := List.head?_eq_some_iff.mp hhead
  simp only [readWhole, hdigit]

/-- **The digits before the point** are read from their own glyphs. -/
theorem local_readWhole (ds : List Nat) : (Reads readWhole ds).Local 1 := by
  refine Local.of_head fun glyph => ?_
  cases glyph with
  | none =>
    rintro ⟨rest, offset⟩ c' ⟨hhead, h⟩
    obtain rfl := List.head?_eq_none_iff.mp hhead
    cases h
  | some glyph =>
    rcases hdigit : glyphDigit? glyph with _ | _ | d
    · rintro ⟨rest, offset⟩ c' ⟨hhead, h⟩
      obtain ⟨rest, rfl⟩ := List.head?_eq_some_iff.mp hhead
      simp only [Reads, readWhole, hdigit] at h
      cases h
    · refine Local.congr (Local.given (P := ds = [0]) fun _ => (local_glyph glyph).behind NoDigit)
        fun c c' => ⟨?_, ?_⟩
      · rintro ⟨hhead, h⟩
        rw [Reads, readWhole_of_zero hdigit hhead] at h
        split at h
        · next hnone =>
          obtain ⟨rfl, rfl⟩ := Prod.mk.inj (Except.ok.inj h)
          exact ⟨rfl, ⟨hhead, rfl⟩, takeDigits_isEmpty_iff.mp hnone⟩
        · cases h
      · rintro ⟨rfl, ⟨hhead, rfl⟩, hnone⟩
        refine ⟨hhead, ?_⟩
        rw [Reads, readWhole_of_zero hdigit hhead]
        exact if_pos (takeDigits_isEmpty_iff.mpr hnone)
    · refine Local.congr (Local.given (P := ds ≠ []) fun hds =>
        ((local_digits ds).guard (· = some glyph)).anti (List.length_pos_iff.mpr hds))
        fun c c' => ⟨?_, ?_⟩
      · rintro ⟨hhead, h⟩
        rw [Reads, readWhole_of_succ hdigit hhead] at h
        have htake := Except.ok.inj h
        refine ⟨?_, hhead, htake⟩
        rintro rfl
        have hnone := takeDigits_isEmpty_iff.mp (congrArg (·.1.isEmpty) htake)
        rw [hhead] at hnone
        cases hdigit.symm.trans (hnone glyph rfl)
      · rintro ⟨-, hhead, htake⟩
        refine ⟨hhead, ?_⟩
        rw [Reads, readWhole_of_succ hdigit hhead]
        exact congrArg Except.ok htake

/-- **How a fraction is read**: behind a point there are digits. -/
theorem reads_readFraction_iff {ds : Option (List Nat)} : Reads readFraction ds c c' ↔
    if c.rest.head? = some (.char '.') then
      (takeDigits c.advance).1 ≠ [] ∧ ds = some (takeDigits c.advance).1 ∧
        (takeDigits c.advance).2 = c'
    else ds = none ∧ c' = c := by
  unfold Reads readFraction
  split
  · next hpeek =>
    rw [if_pos (peek?_eq_some_iff.mp hpeek)]
    dsimp only
    split
    · next hnil => simp [List.isEmpty_iff.mp hnil]
    · next hsome =>
      rw [List.isEmpty_iff] at hsome
      simp [hsome, eq_comm]
  · next hpeek =>
    rw [if_neg (mt peek?_eq_some_iff.mpr hpeek)]
    simp [eq_comm]

/-- **The digits behind the point** are read from their own glyphs. -/
theorem local_readFraction (ds : Option (List Nat)) : (Reads readFraction ds).Local 0 := by
  have hpoint : Way.Local 0 fun c c' => ∃ ds', (ds = some ds' ∧ ds' ≠ []) ∧
      ((glyph (.char '.')).comp (digits ds')) c c' :=
    .any fun ds' => .given fun _ =>
      ((local_glyph (.char '.')).comp (local_digits ds')).anti (Nat.zero_le _)
  refine Local.congr (hpoint.or (Local.given (P := ds = none) fun _ =>
    local_stay.guard (· ≠ some (.char '.')))) fun c c' => ?_
  rw [reads_readFraction_iff]
  split
  · next hhead =>
    constructor
    · rintro ⟨hds, rfl, rfl⟩
      exact Or.inl ⟨_, ⟨rfl, hds⟩, c.advance, ⟨hhead, rfl⟩, rfl⟩
    · rintro (⟨ds', ⟨rfl, hds⟩, _, ⟨-, rfl⟩, htake⟩ | ⟨-, hother, -⟩)
      · rw [htake]
        exact ⟨hds, rfl, rfl⟩
      · exact absurd hhead hother
  · next hhead =>
    constructor
    · rintro ⟨rfl, rfl⟩
      exact Or.inr ⟨rfl, hhead, rfl⟩
    · rintro (⟨_, -, _, ⟨hpoint, -⟩, -⟩ | ⟨rfl, -, rfl⟩)
      · exact absurd hpoint hhead
      · exact ⟨rfl, rfl⟩

/-- The sign of an exponent, if there is one, and the cursor behind it. -/
def takeSign (c : Cursor) : Bool × Cursor :=
  if c.peek? = some '+' then (false, c.advance)
  else if c.peek? = some '-' then (true, c.advance)
  else (false, c)

theorem local_takeSign (down : Bool) : Way.Local 0 fun c c' => takeSign c = (down, c') := by
  have hplus := (local_glyph (.char '+')).anti (Nat.zero_le 1)
  have hminus := (local_glyph (.char '-')).anti (Nat.zero_le 1)
  have hnone := local_stay.guard fun g => g ≠ some (.char '+') ∧ g ≠ some (.char '-')
  refine ((Local.given (P := down = false) fun _ => hplus).or
    ((Local.given (P := down = true) fun _ => hminus).or
      (.given (P := down = false) fun _ => hnone))).congr fun c c' => ?_
  unfold takeSign glyph
  simp only [peek?_eq_some_iff]
  split
  · next h => simp [h, eq_comm]
  split
  · next h => simp [h, eq_comm]
  · next h h' => simp [h, h', eq_comm]

/-- **How an exponent is read**: behind its letter and its sign there are digits. -/
theorem reads_readExponent_iff {exponent : Option (Bool × List Nat)} :
    Reads readExponent exponent c c' ↔
      if c.rest.head? = some (.char 'e') ∨ c.rest.head? = some (.char 'E') then
        (takeDigits (takeSign c.advance).2).1 ≠ [] ∧
          exponent = some ((takeSign c.advance).1, (takeDigits (takeSign c.advance).2).1) ∧
            (takeDigits (takeSign c.advance).2).2 = c'
      else exponent = none ∧ c' = c := by
  have hpeek : c.peek? = some 'e' ∨ c.peek? = some 'E' ↔
      c.rest.head? = some (.char 'e') ∨ c.rest.head? = some (.char 'E') :=
    or_congr peek?_eq_some_iff peek?_eq_some_iff
  unfold Reads readExponent
  split
  · next hhead =>
    rw [if_pos (hpeek.mp hhead)]
    change (if (takeDigits (takeSign c.advance).2).1.isEmpty then .error _
      else Except.ok (some ((takeSign c.advance).1, (takeDigits (takeSign c.advance).2).1),
        (takeDigits (takeSign c.advance).2).2)) = _ ↔ _
    split
    · next hnil => simp [List.isEmpty_iff.mp hnil]
    · next hsome =>
      rw [List.isEmpty_iff] at hsome
      simp [hsome, eq_comm]
  · next hhead =>
    rw [if_neg fun h => hhead (hpeek.mpr h)]
    simp [eq_comm]

/-- **An exponent** is read from its own glyphs. -/
theorem local_readExponent (exponent : Option (Bool × List Nat)) :
    (Reads readExponent exponent).Local 0 := by
  have hletter : ∀ letter, Way.Local 0 fun c c' => ∃ down ds,
      (exponent = some (down, ds) ∧ ds ≠ []) ∧
      ((glyph (.char letter)).comp
        (Way.comp (fun c c' => takeSign c = (down, c')) (digits ds))) c c' :=
    fun letter => .any fun down => .any fun ds => .given fun _ =>
      ((local_glyph (.char letter)).comp ((local_takeSign down).comp (local_digits ds))).anti
        (Nat.zero_le _)
  refine Local.congr (((hletter 'e').or (hletter 'E')).or
    (Local.given (P := exponent = none) fun _ =>
    local_stay.guard fun g => ¬(g = some (.char 'e') ∨ g = some (.char 'E')))) fun c c' => ?_
  rw [reads_readExponent_iff]
  split
  · next hhead =>
    constructor
    · rintro ⟨hds, rfl, rfl⟩
      exact Or.inl (hhead.imp
        (fun hletter => ⟨_, _, ⟨rfl, hds⟩, c.advance, ⟨hletter, rfl⟩, _, rfl, rfl⟩)
        (fun hletter => ⟨_, _, ⟨rfl, hds⟩, c.advance, ⟨hletter, rfl⟩, _, rfl, rfl⟩))
    · rintro ((⟨down, ds, ⟨rfl, hds⟩, _, ⟨-, rfl⟩, _, hsign, hdigits⟩ |
        ⟨down, ds, ⟨rfl, hds⟩, _, ⟨-, rfl⟩, _, hsign, hdigits⟩) | ⟨rfl, hnone, -⟩)
      · rw [hsign, hdigits]
        exact ⟨hds, rfl, rfl⟩
      · rw [hsign, hdigits]
        exact ⟨hds, rfl, rfl⟩
      · exact absurd hhead hnone
  · next hhead =>
    constructor
    · rintro ⟨rfl, rfl⟩
      exact Or.inr ⟨rfl, hhead, rfl⟩
    · rintro ((⟨_, _, -, _, ⟨hletter, -⟩, -⟩ | ⟨_, _, -, _, ⟨hletter, -⟩, -⟩) | ⟨rfl, -, rfl⟩)
      · exact absurd (Or.inl hletter) hhead
      · exact absurd (Or.inr hletter) hhead
      · exact ⟨rfl, rfl⟩

/-- **How a number is read**: part by part. -/
theorem reads_readNumber_iff {negative : Bool} {n : Number} : Reads (readNumber negative) n c c' ↔
    ∃ whole fraction exponent, (Numeral.mk negative whole fraction exponent).toNumber = some n ∧
      (Reads readWhole whole).comp
        ((Reads readFraction fraction).comp (Reads readExponent exponent)) c c' := by
  constructor
  · intro h
    obtain ⟨⟨whole, c₁⟩, hwhole, h⟩ := bind_eq_ok_iff.mp h
    obtain ⟨⟨fraction, c₂⟩, hfraction, h⟩ := bind_eq_ok_iff.mp h
    obtain ⟨⟨exponent, c₃⟩, hexponent, h⟩ := bind_eq_ok_iff.mp h
    dsimp only at h
    split at h
    · next m hnumber =>
      obtain ⟨rfl, rfl⟩ := Prod.mk.inj (Except.ok.inj h)
      exact ⟨whole, fraction, exponent, hnumber, c₁, hwhole, c₂, hfraction, hexponent⟩
    · split at h <;> cases h
  · rintro ⟨whole, fraction, exponent, hnumber, c₁, hwhole, c₂, hfraction, hexponent⟩
    refine bind_eq_ok_iff.mpr ⟨_, hwhole, bind_eq_ok_iff.mpr ⟨_, hfraction, bind_eq_ok_iff.mpr
      ⟨_, hexponent, ?_⟩⟩⟩
    dsimp only
    rw [hnumber]

/-- **A number is read from its own glyphs.** -/
theorem local_readNumber (negative : Bool) (n : Number) :
    (Reads (readNumber negative) n).Local 1 := by
  have hparts : Way.Local 1 fun c c' => ∃ whole fraction exponent,
      (Numeral.mk negative whole fraction exponent).toNumber = some n ∧
        (Reads readWhole whole).comp
          ((Reads readFraction fraction).comp (Reads readExponent exponent)) c c' :=
    .any fun whole => .any fun fraction => .any fun exponent => .given fun _ =>
      (local_readWhole whole).comp
        ((local_readFraction fraction).comp (local_readExponent exponent))
  exact hparts.congr fun c c' => reads_readNumber_iff

/-! #### Numerals nobody asked for -/

theorem skipWhole_iff : skipWhole c = .ok c' ↔ ∃ ds, readWhole c = .ok (ds, c') := by
  refine ⟨fun h => ?_, fun ⟨ds, h⟩ => skipWhole_of_readWhole h⟩
  obtain ⟨rest, offset⟩ := c
  cases rest with
  | nil => cases h
  | cons glyph rest =>
    have hpeek :
        (⟨glyph :: rest, offset⟩ : Cursor).peek?.bind Decimal.digit? = glyphDigit? glyph := by
      cases glyph <;> rfl
    unfold skipWhole at h
    rw [hpeek] at h
    simp only [readWhole]
    split at h
    · cases h
    · dsimp only at h
      split at h
      · next hnone =>
        rw [if_pos hnone]
        exact ⟨[0], congrArg (fun c => Except.ok ([0], c)) (Except.ok.inj h)⟩
      · cases h
    · exact ⟨_, congrArg (fun c => Except.ok (_, c)) (Except.ok.inj h)⟩

theorem skipFraction_iff : skipFraction c = .ok c' ↔ ∃ ds, readFraction c = .ok (ds, c') := by
  refine ⟨fun h => ?_, fun ⟨ds, h⟩ => skipFraction_of_readFraction h⟩
  unfold skipFraction at h
  unfold readFraction
  split at h
  · next hpoint =>
    rw [if_pos hpoint]
    dsimp only at h ⊢
    split at h
    · cases h
    · next hsome =>
      rw [if_neg hsome]
      exact ⟨_, congrArg (fun c => Except.ok (_, c)) (Except.ok.inj h)⟩
  · next hpoint =>
    rw [if_neg hpoint]
    exact ⟨_, congrArg (fun c => Except.ok (_, c)) (Except.ok.inj h)⟩

theorem skipExponent_iff : skipExponent c = .ok c' ↔ ∃ ds, readExponent c = .ok (ds, c') := by
  refine ⟨fun h => ?_, fun ⟨ds, h⟩ => skipExponent_of_readExponent h⟩
  unfold skipExponent at h
  unfold readExponent
  split at h
  · next hletter =>
    rw [if_pos hletter]
    -- The sign decides where the digits begin, and nothing else.
    have hsign : (if c.advance.peek? = some '+' ∨ c.advance.peek? = some '-' then c.advance.advance
        else c.advance) = (takeSign c.advance).2 := by
      unfold takeSign
      by_cases hplus : c.advance.peek? = some '+'
      · rw [if_pos (Or.inl hplus), if_pos hplus]
      · by_cases hminus : c.advance.peek? = some '-'
        · rw [if_pos (Or.inr hminus), if_neg hplus, if_pos hminus]
        · rw [if_neg (not_or.mpr ⟨hplus, hminus⟩), if_neg hplus, if_neg hminus]
    dsimp only at h
    rw [hsign] at h
    split at h
    · cases h
    · next hsome =>
      refine ⟨some ((takeSign c.advance).1, (takeDigits (takeSign c.advance).2).1), ?_⟩
      exact (if_neg hsome).trans (congrArg (fun c => Except.ok (_, c)) (Except.ok.inj h))
  · next hletter =>
    rw [if_neg hletter]
    exact ⟨_, congrArg (fun c => Except.ok (_, c)) (Except.ok.inj h)⟩

/-- **A number is skipped by its own glyphs.** -/
theorem local_skipNumber : (Moves skipNumber).Local 1 := by
  have hparts : Way.Local 1 fun c c' => ∃ whole fraction exponent, (Reads readWhole whole).comp
      ((Reads readFraction fraction).comp (Reads readExponent exponent)) c c' :=
    .any fun whole => .any fun fraction => .any fun exponent =>
      (local_readWhole whole).comp
        ((local_readFraction fraction).comp (local_readExponent exponent))
  refine hparts.congr fun c c' => ⟨fun h => ?_, ?_⟩
  · obtain ⟨c₁, hwhole, h⟩ := bind_eq_ok_iff.mp h
    obtain ⟨c₂, hfraction, hexponent⟩ := bind_eq_ok_iff.mp h
    obtain ⟨whole, hwhole⟩ := skipWhole_iff.mp hwhole
    obtain ⟨fraction, hfraction⟩ := skipFraction_iff.mp hfraction
    obtain ⟨exponent, hexponent⟩ := skipExponent_iff.mp hexponent
    exact ⟨whole, fraction, exponent, c₁, hwhole, c₂, hfraction, hexponent⟩
  · rintro ⟨whole, fraction, exponent, c₁, hwhole, c₂, hfraction, hexponent⟩
    exact bind_eq_ok_iff.mpr ⟨c₁, skipWhole_of_readWhole hwhole, bind_eq_ok_iff.mpr
      ⟨c₂, skipFraction_of_readFraction hfraction, skipExponent_of_readExponent hexponent⟩⟩

/-! ### Values without parts -/

/-- **A way behind a glyph** that told which way to take. -/
theorem local_behind_glyph {W V : Way} {least : Nat} (hV : V.Local least) (g : Glyph)
    (h : ∀ tail offset c', W ⟨g :: tail, offset⟩ c' ↔ V ⟨tail, offset + 1⟩ c') :
    Way.Local 1 fun c c' => c.rest.head? = some g ∧ W c c' := by
  refine (((local_glyph g).comp hV).anti (Nat.le_add_right 1 least)).congr ?_
  rintro ⟨glyphs, offset⟩ c'
  constructor
  · rintro ⟨hhead, hW⟩
    obtain ⟨tail, rfl⟩ := List.head?_eq_some_iff.mp hhead
    exact ⟨_, ⟨rfl, rfl⟩, (h _ _ _).mp hW⟩
  · rintro ⟨_, ⟨hhead, rfl⟩, hV⟩
    obtain ⟨tail, rfl⟩ := List.head?_eq_some_iff.mp hhead
    exact ⟨rfl, (h _ _ _).mpr hV⟩

/-- **A value without parts is read from its own glyphs.** -/
theorem local_readScalar (value : Json) : (Reads readScalar value).Local 1 := by
  have hword : ∀ word given, Way.Local 0 fun c c' =>
      (readWord word c).map (fun c => (given, c)) = .ok (value, c') := by
    intro word given
    refine ((Local.given (P := given = value) fun _ => local_readWord word).anti
      (Nat.zero_le _)).congr fun c c' => ?_
    simp [map_eq_ok_iff, Moves, and_comm]
  have hstring : Way.Local 1 fun c c' =>
      (readString c).map (fun r => (Json.string r.1, r.2)) = .ok (value, c') := by
    refine (Local.any fun s => Local.given (P := .string s = value) fun _ =>
      local_readString s).congr fun c c' => ?_
    simp [map_eq_ok_iff, Reads, and_comm]
  have hnumber : ∀ negative, Way.Local 1 fun c c' =>
      (readNumber negative c).map (fun r => (Json.number r.1, r.2)) = .ok (value, c') := by
    intro negative
    refine (Local.any fun n => Local.given (P := .number n = value) fun _ =>
      local_readNumber negative n).congr fun c c' => ?_
    simp [map_eq_ok_iff, Reads, and_comm]
  refine Local.of_head fun glyph => ?_
  rcases glyph with _ | glyph
  · rintro ⟨rest, offset⟩ c' ⟨hhead, h⟩
    obtain rfl := List.head?_eq_none_iff.mp hhead
    cases h
  by_cases hn : glyph = .char 'n'
  · exact hn ▸ local_behind_glyph (hword _ _) _ fun _ _ _ => Iff.rfl
  by_cases ht : glyph = .char 't'
  · exact ht ▸ local_behind_glyph (hword _ _) _ fun _ _ _ => Iff.rfl
  by_cases hf : glyph = .char 'f'
  · exact hf ▸ local_behind_glyph (hword _ _) _ fun _ _ _ => Iff.rfl
  by_cases hquote : glyph = .char '"'
  · exact hquote ▸ local_behind_glyph hstring _ fun _ _ _ => Iff.rfl
  by_cases hminus : glyph = .char '-'
  · exact hminus ▸ local_behind_glyph (hnumber true) _ fun _ _ _ => Iff.rfl
  by_cases hdigit : (glyphDigit? glyph).isSome = true
  · refine ((hnumber false).guard (· = some glyph)).congr ?_
    rintro ⟨rest, offset⟩ c'
    refine and_congr_right fun hhead => ?_
    obtain ⟨rest, rfl⟩ := List.head?_eq_some_iff.mp hhead
    rw [Reads, readScalar_of_digit hdigit]
  · rintro ⟨rest, offset⟩ c' ⟨hhead, h⟩
    obtain ⟨rest, rfl⟩ := List.head?_eq_some_iff.mp hhead
    unfold Reads readScalar at h
    split at h <;> simp_all

/-- **A value without parts is skipped by its own glyphs.** -/
theorem local_skipScalar : (Moves skipScalar).Local 1 := by
  refine Local.of_head fun glyph => ?_
  rcases glyph with _ | glyph
  · rintro ⟨rest, offset⟩ c' ⟨hhead, h⟩
    obtain rfl := List.head?_eq_none_iff.mp hhead
    cases h
  by_cases hn : glyph = .char 'n'
  · exact hn ▸ local_behind_glyph (local_readWord _) _ fun _ _ _ => Iff.rfl
  by_cases ht : glyph = .char 't'
  · exact ht ▸ local_behind_glyph (local_readWord _) _ fun _ _ _ => Iff.rfl
  by_cases hf : glyph = .char 'f'
  · exact hf ▸ local_behind_glyph (local_readWord _) _ fun _ _ _ => Iff.rfl
  by_cases hquote : glyph = .char '"'
  · exact hquote ▸ local_behind_glyph local_skipString _ fun _ _ _ => Iff.rfl
  by_cases hminus : glyph = .char '-'
  · exact hminus ▸ local_behind_glyph local_skipNumber _ fun _ _ _ => Iff.rfl
  by_cases hdigit : (glyphDigit? glyph).isSome = true
  · refine (local_skipNumber.guard (· = some glyph)).congr ?_
    rintro ⟨rest, offset⟩ c'
    refine and_congr_right fun hhead => ?_
    obtain ⟨rest, rfl⟩ := List.head?_eq_some_iff.mp hhead
    have hskip : skipScalar ⟨glyph :: rest, offset⟩ = skipNumber ⟨glyph :: rest, offset⟩ := by
      obtain ⟨d, hd⟩ := Option.isSome_iff_exists.mp hdigit
      unfold skipScalar
      split <;> simp_all
    rw [Moves, hskip, Moves]
  · rintro ⟨rest, offset⟩ c' ⟨hhead, h⟩
    obtain ⟨rest, rfl⟩ := List.head?_eq_some_iff.mp hhead
    unfold Moves skipScalar at h
    split at h <;> simp_all

end Cursor

end Json

end TaskDaemon
