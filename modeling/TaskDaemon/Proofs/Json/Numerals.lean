import TaskDaemon.Proofs.Json.LookaheadWord

/-!
# Numbers that are read back

A number is written by its numeral, and not every double comes back from it: the digits are read as
a whole number, which becomes a double and is scaled by a power of ten, and each of the two steps
may round. So a number that is read back (`TaskDaemon.Json.Number.ReadsBack`) is one whose numeral,
as a text by itself, is read to its end as that number. Integers of 64 bits are.

What is read to the end of a text is read in the same way with more text behind, as long as no
number goes on with that (`TaskDaemon.Json.Cursor.readScalar_chars`). The cursors of the two
readings differ by that text and by where they started (`TaskDaemon.Json.Cursor.within`).
-/

namespace TaskDaemon

namespace Json

namespace Cursor

open Way

/-- **The cursor with more text behind** its own, and `shift` bytes further on. -/
def within (c : Cursor) (rest : List Glyph) (shift : Nat) : Cursor :=
  ⟨c.rest ++ rest, c.offset + shift⟩

section Within

variable {c c' : Cursor} {rest : List Glyph} (shift : Nat)

theorem rest_ne_nil {glyph : Glyph} (h : c.rest.head? = some glyph) : c.rest ≠ [] := by
  rintro hnil
  rw [hnil] at h
  cases h

theorem head?_within (hc : c.rest ≠ []) : (c.within rest shift).rest.head? = c.rest.head? := by
  obtain ⟨glyph, more, hmore⟩ := List.exists_cons_of_ne_nil hc
  simp only [within, hmore, List.cons_append, List.head?_cons]

theorem advance_within (hc : c.rest ≠ []) :
    (c.within rest shift).advance = c.advance.within rest shift := by
  obtain ⟨glyph, more, hmore⟩ := List.exists_cons_of_ne_nil hc
  simp only [within, advance, hmore, List.cons_append, List.tail_cons]
  rw [Nat.add_right_comm]

theorem takeSign_within (hc : c.rest ≠ []) : takeSign (c.within rest shift) =
    ((takeSign c).1, (takeSign c).2.within rest shift) := by
  have hpeek {ch : Char} : (c.within rest shift).peek? = some ch ↔ c.peek? = some ch := by
    rw [peek?_eq_some_iff, peek?_eq_some_iff, head?_within shift hc]
  simp only [takeSign, hpeek, advance_within shift hc]
  split_ifs <;> rfl

variable (hrest : Closed rest)

include hrest

/-- What a number goes on with is met in its own text or not at all. -/
theorem Closed.head?_within_iff (ch : Char) (hch : ch = '.' ∨ ch = 'e' ∨ ch = 'E') :
    (c.within rest shift).rest.head? = some (.char ch) ↔ c.rest.head? = some (.char ch) := by
  obtain ⟨_ | ⟨glyph, more⟩, offset⟩ := c
  · obtain ⟨hpoint, he, hE⟩ := hrest.peek_ne (offset + shift)
    rw [← peek?_eq_some_iff]
    refine iff_of_false ?_ nofun
    rcases hch with rfl | rfl | rfl <;> assumption
  · rw [head?_within shift (List.cons_ne_nil glyph more)]

theorem Closed.takeDigits_within : takeDigits (c.within rest shift) =
    ((takeDigits c).1, (takeDigits c).2.within rest shift) := by
  obtain ⟨glyphs, offset⟩ := c
  obtain ⟨used, ds, more, rfl, hused, hmore⟩ := exists_digits glyphs
  have hbehind : NoDigit (more ++ rest).head? := by
    cases more with
    | nil => exact fun glyph hglyph => (hrest glyph hglyph).1
    | cons glyph more => exact hmore
  rw [takeDigits_of_digits hused hmore, within, List.append_assoc,
    takeDigits_of_digits hused hbehind, within, Nat.add_right_comm]

theorem Closed.readWhole_within {ds : List Nat} (h : readWhole c = .ok (ds, c')) :
    readWhole (c.within rest shift) = .ok (ds, c'.within rest shift) := by
  rcases hhead : c.rest.head? with _ | glyph
  · obtain ⟨glyphs, offset⟩ := c
    obtain rfl := List.head?_eq_none_iff.mp hhead
    cases h
  have hc := rest_ne_nil hhead
  have hwithin : (c.within rest shift).rest.head? = some glyph :=
    (head?_within shift hc).trans hhead
  rcases hdigit : glyphDigit? glyph with _ | _ | d
  · obtain ⟨glyphs, offset⟩ := c
    obtain ⟨more, rfl⟩ := List.head?_eq_some_iff.mp hhead
    simp only [readWhole, hdigit] at h
    cases h
  · rw [readWhole_of_zero hdigit hhead] at h
    rw [readWhole_of_zero hdigit hwithin, advance_within shift hc, hrest.takeDigits_within]
    split at h
    · next hnone =>
      obtain ⟨rfl, rfl⟩ := Prod.mk.inj (Except.ok.inj h)
      exact if_pos hnone
    · cases h
  · rw [readWhole_of_succ hdigit hhead] at h
    rw [readWhole_of_succ hdigit hwithin, hrest.takeDigits_within, Except.ok.inj h]

theorem Closed.readFraction_within {ds : Option (List Nat)} (h : readFraction c = .ok (ds, c')) :
    readFraction (c.within rest shift) = .ok (ds, c'.within rest shift) := by
  refine reads_readFraction_iff.mpr ?_
  have hpoint := hrest.head?_within_iff (c := c) shift '.' (by decide)
  replace h := reads_readFraction_iff.mp h
  split at h
  · next hhead =>
    obtain ⟨hds, rfl, rfl⟩ := h
    have hc := rest_ne_nil hhead
    rw [if_pos (hpoint.mpr hhead), advance_within shift hc, hrest.takeDigits_within]
    exact ⟨hds, rfl, rfl⟩
  · next hhead =>
    obtain ⟨rfl, rfl⟩ := h
    rw [if_neg (mt hpoint.mp hhead)]
    exact ⟨rfl, rfl⟩

theorem Closed.readExponent_within {exponent : Option (Bool × List Nat)}
    (h : readExponent c = .ok (exponent, c')) :
    readExponent (c.within rest shift) = .ok (exponent, c'.within rest shift) := by
  refine reads_readExponent_iff.mpr ?_
  have hletter := or_congr (hrest.head?_within_iff (c := c) shift 'e' (by decide))
    (hrest.head?_within_iff (c := c) shift 'E' (by decide))
  replace h := reads_readExponent_iff.mp h
  split at h
  · next hhead =>
    obtain ⟨hds, rfl, rfl⟩ := h
    have hc : c.rest ≠ [] := hhead.elim rest_ne_nil rest_ne_nil
    -- There are digits behind the letter, so that the sign is looked for in the text itself.
    have hbehind : c.advance.rest ≠ [] := by
      intro hnil
      refine hds ?_
      simp only [takeSign, peek?, hnil]
      simp [takeDigits, hnil]
    rw [if_pos (hletter.mpr hhead), advance_within shift hc, takeSign_within shift hbehind,
      hrest.takeDigits_within]
    exact ⟨hds, rfl, rfl⟩
  · next hhead =>
    obtain ⟨rfl, rfl⟩ := h
    rw [if_neg (mt hletter.mp hhead)]
    exact ⟨rfl, rfl⟩

/-- **A number that ends its text** is read with more text behind, if it does not go
on with that. -/
theorem Closed.readNumber_within {negative : Bool} {n : Number}
    (h : readNumber negative c = .ok (n, c')) :
    readNumber negative (c.within rest shift) = .ok (n, c'.within rest shift) := by
  obtain ⟨whole, fraction, exponent, hnumber, c₁, hwhole, c₂, hfraction, hexponent⟩ :=
    reads_readNumber_iff.mp h
  exact reads_readNumber_iff.mpr ⟨whole, fraction, exponent, hnumber, _,
    hrest.readWhole_within shift hwhole, _, hrest.readFraction_within shift hfraction,
    hrest.readExponent_within shift hexponent⟩

end Within

end Cursor

/-- **A number that is read back** from its numeral, which is read to its end. -/
def Number.ReadsBack (n : Number) : Prop :=
  ∃ offset, Cursor.readScalar ⟨Cursor.shown n.chars, 0⟩ = .ok (.number n, ⟨[], offset⟩)

/-- **Integers of 64 bits are read back.** -/
theorem Number.readsBack_int {n : Int} (hleast : -9223372036854775808 ≤ n)
    (hgreatest : n ≤ 18446744073709551615) : (Number.int n).ReadsBack := by
  obtain ⟨offset, hread⟩ :=
    Cursor.readScalar_intChars ⟨hleast, hgreatest⟩ (nofun : Cursor.Closed []) 0
  rw [List.append_nil] at hread
  exact ⟨offset, hread⟩

namespace Cursor

open Attempt

/-- **How a number is met**: by its sign or by a digit. -/
theorem readNumber_of_readScalar {glyphs : List Glyph} {offset : Nat} {n : Number} {c' : Cursor}
    (h : readScalar ⟨glyphs, offset⟩ = .ok (.number n, c')) :
    ∃ glyph more, glyphs = glyph :: more ∧
      (glyph = .char '-' ∧ readNumber true ⟨more, offset + 1⟩ = .ok (n, c') ∨
        (glyphDigit? glyph).isSome = true ∧
          readNumber false ⟨glyph :: more, offset⟩ = .ok (n, c')) := by
  unfold readScalar at h
  split at h
  · cases h
  · obtain ⟨_, -, heq⟩ := map_eq_ok_iff.mp h
    cases heq
  · obtain ⟨_, -, heq⟩ := map_eq_ok_iff.mp h
    cases heq
  · obtain ⟨_, -, heq⟩ := map_eq_ok_iff.mp h
    cases heq
  · obtain ⟨_, -, heq⟩ := map_eq_ok_iff.mp h
    cases heq
  · next more hglyphs =>
    obtain ⟨read, hread, heq⟩ := map_eq_ok_iff.mp h
    cases heq
    obtain rfl : glyphs = _ := hglyphs
    exact ⟨_, more, rfl, Or.inl ⟨rfl, hread⟩⟩
  · next glyph more _ _ _ _ _ hglyphs =>
    split at h
    · next hdigit =>
      obtain ⟨read, hread, heq⟩ := map_eq_ok_iff.mp h
      cases heq
      obtain rfl : glyphs = _ := hglyphs
      exact ⟨glyph, more, rfl, Or.inr ⟨hdigit, hread⟩⟩
    · cases h

/-- **The numeral of a number starts** with a digit or a minus sign. -/
theorem exists_chars_eq_cons_of_readsBack {n : Number} (h : n.ReadsBack) :
    ∃ ch more, n.chars = ch :: more ∧ isSeparator (.char ch) = false ∧
      ch ∉ ['[', ']', '\x7b'] := by
  obtain ⟨offset, hread⟩ := h
  obtain ⟨glyph, more, hglyphs, hstart⟩ := readNumber_of_readScalar hread
  obtain ⟨ch, chars, hchars, rfl, -⟩ := List.map_eq_cons_iff.mp hglyphs
  refine ⟨ch, chars, hchars, ?_⟩
  rcases hstart with ⟨hminus, -⟩ | ⟨hdigit, -⟩
  · obtain rfl := Glyph.char.inj hminus
    decide
  · have hother : [' ', '\n', '\t', '\r', '[', ']', '\x7b'].all
        (fun other => (glyphDigit? (.char other)).isNone) = true := by
      decide
    have hne : ∀ other ∈ [' ', '\n', '\t', '\r', '[', ']', '\x7b'], ch ≠ other := by
      rintro other hmem rfl
      rw [Option.isNone_iff_eq_none.mp (List.all_eq_true.mp hother ch hmem)] at hdigit
      cases hdigit
    simp only [List.forall_mem_cons] at hne
    simp [isSeparator, hne]

/-- **A number that is read back** is so in front of what no number goes on with. -/
theorem readScalar_chars {n : Number} (h : n.ReadsBack) {rest : List Glyph} (hrest : Closed rest)
    (offset : Nat) : ∃ offset', readScalar ⟨shown n.chars ++ rest, offset⟩ =
      .ok (.number n, ⟨rest, offset'⟩) := by
  obtain ⟨behind, hread⟩ := h
  obtain ⟨glyph, more, hglyphs, ⟨rfl, hnumber⟩ | ⟨hdigit, hnumber⟩⟩ :=
    readNumber_of_readScalar hread
  · refine ⟨behind + offset, ?_⟩
    have hwithin := hrest.readNumber_within offset hnumber
    simp only [within, List.nil_append, Nat.zero_add, Nat.add_comm 1] at hwithin
    rw [hglyphs, List.cons_append]
    exact map_eq_ok_iff.mpr ⟨_, hwithin, rfl⟩
  · refine ⟨behind + offset, ?_⟩
    have hwithin := hrest.readNumber_within offset hnumber
    simp only [within, List.nil_append, Nat.zero_add] at hwithin
    rw [hglyphs, List.cons_append, readScalar_of_digit hdigit, ← List.cons_append, hwithin]
    rfl

end Cursor

end Json

end TaskDaemon
