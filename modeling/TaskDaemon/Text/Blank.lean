/-!
# Blank characters

The characters with the Unicode property `White_Space`, and the trimming of text by them.

* `TaskDaemon.isBlank`: the property;
* `TaskDaemon.trimStart`, `TaskDaemon.trimEnd`, `TaskDaemon.trim`: text without the blank
  characters at its ends;
* `TaskDaemon.IsBlankText`: text that has no other characters, which is text that trims to nothing
  (`TaskDaemon.trim_eq_nil_iff`). Behind other text it is trimmed off
  (`TaskDaemon.trim_append_blank`).
-/

namespace TaskDaemon

/-- **The blank characters**, as inclusive ranges of code points. -/
def blankRanges : List (Nat × Nat) :=
  [(0x09, 0x0D), (0x20, 0x20), (0x85, 0x85), (0xA0, 0xA0), (0x1680, 0x1680), (0x2000, 0x200A),
    (0x2028, 0x2029), (0x202F, 0x202F), (0x205F, 0x205F), (0x3000, 0x3000)]

/-- **A blank character.** -/
def isBlank (c : Char) : Bool :=
  blankRanges.any fun range => range.1 ≤ c.toNat && c.toNat ≤ range.2

/-- Text without the blank characters it starts with. -/
def trimStart (text : List Char) : List Char :=
  text.dropWhile isBlank

/-- Text without the blank characters it ends with. -/
def trimEnd (text : List Char) : List Char :=
  (text.reverse.dropWhile isBlank).reverse

/-- **Text without the blank characters at its ends.** -/
def trim (text : List Char) : List Char :=
  trimEnd (trimStart text)

/-- **Text of blank characters only**, the empty text among it. -/
def IsBlankText (text : List Char) : Prop :=
  ∀ c ∈ text, isBlank c = true

instance (text : List Char) : Decidable (IsBlankText text) :=
  List.decidableBAll _ text

theorem dropWhile_isBlank_eq_nil_iff (text : List Char) :
    text.dropWhile isBlank = [] ↔ IsBlankText text := by
  induction text with
  | nil => simp [IsBlankText]
  | cons c rest ih =>
    by_cases h : isBlank c
    · rw [List.dropWhile_cons_of_pos h, ih]
      simp [IsBlankText, h]
    · rw [List.dropWhile_cons_of_neg h]
      simp [IsBlankText, h]

/-- **Blank text is text that trims to nothing.** -/
theorem trim_eq_nil_iff (text : List Char) : trim text = [] ↔ IsBlankText text := by
  constructor
  · intro h c hc
    have hrev : (trimStart text).reverse.dropWhile isBlank = [] := by
      simpa [trim, trimEnd] using h
    have hstart : IsBlankText (trimStart text) := by
      intro d hd
      exact (dropWhile_isBlank_eq_nil_iff _).mp hrev d (List.mem_reverse.mpr hd)
    have hsplit : text.takeWhile isBlank ++ trimStart text = text :=
      List.takeWhile_append_dropWhile
    rw [← hsplit] at hc
    rcases List.mem_append.mp hc with hc | hc
    · exact List.all_eq_true.mp List.all_takeWhile c hc
    · exact hstart c hc
  · intro h
    have hstart : trimStart text = [] := (dropWhile_isBlank_eq_nil_iff text).mpr h
    simp [trim, trimEnd, hstart]

theorem isBlankText_append (front back : List Char) :
    IsBlankText (front ++ back) ↔ IsBlankText front ∧ IsBlankText back :=
  List.forall_mem_append

/-- **Blanks behind a text** do not change what it trims to. -/
theorem trim_append_blank (text : List Char) {blanks : List Char} (h : IsBlankText blanks) :
    trim (text ++ blanks) = trim text := by
  unfold trim trimEnd trimStart
  rw [List.dropWhile_append]
  cases htext : text.dropWhile isBlank with
  | nil => simp [(dropWhile_isBlank_eq_nil_iff blanks).mpr h]
  | cons c rest =>
    have hback : blanks.reverse.dropWhile isBlank = [] :=
      (dropWhile_isBlank_eq_nil_iff _).mpr fun d hd => h d (List.mem_reverse.mp hd)
    rw [if_neg (by simp), List.reverse_append, List.dropWhile_append, hback]
    rfl

end TaskDaemon
