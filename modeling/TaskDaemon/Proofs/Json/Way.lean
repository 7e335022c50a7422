import TaskDaemon.Json.Document

/-!
# How far a reader looks

A reader takes some glyphs off the front of a text, and it looks at the glyph behind these and no
further: what it takes and what it comes to are the same in front of any other text that begins
alike (`TaskDaemon.Json.Cursor.Way.Local`). Where the last glyph taken tells that it is the last, as
a bracket does, not even the next one matters (`TaskDaemon.Json.Cursor.Way.Sealed`).

A reader is looked at as the cursors that it leads from and to (`TaskDaemon.Json.Cursor.Way`). The
ways of readers are put together from shorter ones, one after the other or one among others, and
that keeps them local; so a reader is local as soon as it is known what its way is put together
from.

* `TaskDaemon.Json.Cursor.Way.Local.comp`, `TaskDaemon.Json.Cursor.Way.Local.comp_sealed`: one way
  and then another;
* `TaskDaemon.Json.Cursor.Way.Local.guard`, `TaskDaemon.Json.Cursor.Way.Local.behind`: a way that is
  taken depending on the glyph in front, or behind;
* `TaskDaemon.Json.Cursor.Way.Local.congr`: a way that is the same as a local one;
* `TaskDaemon.Json.Cursor.Way.Local.rounds`: a loop whose bound is the length of the text.
-/

namespace TaskDaemon

namespace Json

namespace Cursor

/-- **The cursors that a reader leads from and to.** -/
abbrev Way := Cursor → Cursor → Prop

/-- The way of a reader that comes to the value `a`. -/
def Reads {α : Type} (f : Cursor → Read α) (a : α) : Way :=
  fun c c' => f c = .ok (a, c')

/-- The way of a reader that comes to no value. -/
def Moves (f : Cursor → Except Fault Cursor) : Way :=
  fun c c' => f c = .ok c'

namespace Way

/-- **A way looks no further than the glyph behind it**: it takes `least` glyphs or more, and takes
the same ones in front of any other text that begins alike. -/
def Local (least : Nat) (W : Way) : Prop :=
  ∀ ⦃c c' : Cursor⦄, W c c' → ∃ used, least ≤ used.length ∧ c.rest = used ++ c'.rest ∧
    ∀ rest, rest.head? = c'.rest.head? → W ⟨used ++ rest, c.offset⟩ ⟨rest, c'.offset⟩

/-- The way over a glyph. -/
def glyph (g : Glyph) : Way :=
  fun c c' => c.rest.head? = some g ∧ c' = c.advance

/-- The way over blanks. -/
def blanks : Way :=
  fun c c' => c.skipBlank = c'

/-- The way over digits. -/
def digits (ds : List Nat) : Way :=
  fun c c' => takeDigits c = (ds, c')

/-- **A way that tells its own end**: it takes the same glyphs in front of any other text. -/
def Sealed (W : Way) : Prop :=
  ∀ ⦃c c' : Cursor⦄, W c c' → ∃ used, used ≠ [] ∧ c.rest = used ++ c'.rest ∧
    ∀ rest, W ⟨used ++ rest, c.offset⟩ ⟨rest, c'.offset⟩

/-- **One way and then another.** -/
def comp (W V : Way) : Way :=
  fun c c'' => ∃ c', W c c' ∧ V c' c''

theorem glyph_comp_iff {g : Glyph} {W : Way} {c c' : Cursor} :
    (glyph g).comp W c c' ↔ c.rest.head? = some g ∧ W c.advance c' :=
  ⟨fun ⟨_, ⟨hhead, hc⟩, hW⟩ => ⟨hhead, hc ▸ hW⟩, fun ⟨hhead, hW⟩ => ⟨_, ⟨hhead, rfl⟩, hW⟩⟩

theorem blanks_comp_iff {W : Way} {c c' : Cursor} : blanks.comp W c c' ↔ W c.skipBlank c' :=
  ⟨fun ⟨_, hc, hW⟩ => hc ▸ hW, fun hW => ⟨_, rfl, hW⟩⟩

namespace Local

variable {W V : Way} {least more : Nat}

/-- Text that begins alike begins alike with the same glyphs in front of it. -/
theorem head?_append {rest rest' : List Glyph} (h : rest.head? = rest'.head?) (used : List Glyph) :
    (used ++ rest).head? = (used ++ rest').head? := by
  cases used with
  | nil => exact h
  | cons glyph used => rfl

theorem congr (h : W.Local least) (hiff : ∀ c c', V c c' ↔ W c c') : V.Local least := by
  intro c c' hV
  obtain ⟨used, hlength, hrest, hsame⟩ := h ((hiff c c').mp hV)
  exact ⟨used, hlength, hrest, fun rest hrest => (hiff _ _).mpr (hsame rest hrest)⟩

theorem anti (h : W.Local more) (hle : least ≤ more) : W.Local least := by
  intro c c' hW
  obtain ⟨used, hlength, hrest, hsame⟩ := h hW
  exact ⟨used, Nat.le_trans hle hlength, hrest, hsame⟩

theorem comp (hW : W.Local least) (hV : V.Local more) : (W.comp V).Local (least + more) := by
  rintro c c'' ⟨c', hc, hc'⟩
  obtain ⟨used, hlength, hrest, hsame⟩ := hW hc
  obtain ⟨used', hlength', hrest', hsame'⟩ := hV hc'
  refine ⟨used ++ used', ?_, ?_,
    fun rest hhead => ⟨⟨used' ++ rest, c'.offset⟩, ?_, hsame' rest hhead⟩⟩
  · rw [List.length_append]
    exact Nat.add_le_add hlength hlength'
  · rw [hrest, hrest', List.append_assoc]
  · rw [List.append_assoc]
    refine hsame _ ?_
    rw [hrest']
    exact head?_append hhead used'

/-- A way that is taken depending on the glyph in front of it. -/
theorem guard (P : Option Glyph → Prop) (h : W.Local least) :
    Way.Local least fun c c' => P c.rest.head? ∧ W c c' := by
  rintro c c' ⟨hP, hW⟩
  obtain ⟨used, hlength, hrest, hsame⟩ := h hW
  refine ⟨used, hlength, hrest, fun rest hhead => ⟨?_, hsame rest hhead⟩⟩
  rw [hrest] at hP
  rw [head?_append hhead used]
  exact hP

/-- A way that is taken depending on the glyph behind it. -/
theorem behind (P : Option Glyph → Prop) (h : W.Local least) :
    Way.Local least fun c c' => W c c' ∧ P c'.rest.head? := by
  rintro c c' ⟨hW, hP⟩
  obtain ⟨used, hlength, hrest, hsame⟩ := h hW
  exact ⟨used, hlength, hrest, fun rest hhead => ⟨hsame rest hhead, hhead ▸ hP⟩⟩

/-- A way that is taken depending on something else. -/
theorem given {P : Prop} (h : P → W.Local least) : Way.Local least fun c c' => P ∧ W c c' := by
  rintro c c' ⟨hP, hW⟩
  obtain ⟨used, hlength, hrest, hsame⟩ := h hP hW
  exact ⟨used, hlength, hrest, fun rest hhead => ⟨hP, hsame rest hhead⟩⟩

theorem or (hW : W.Local least) (hV : V.Local least) :
    Way.Local least fun c c' => W c c' ∨ V c c' := by
  rintro c c' (h | h)
  · obtain ⟨used, hlength, hrest, hsame⟩ := hW h
    exact ⟨used, hlength, hrest, fun rest hhead => Or.inl (hsame rest hhead)⟩
  · obtain ⟨used, hlength, hrest, hsame⟩ := hV h
    exact ⟨used, hlength, hrest, fun rest hhead => Or.inr (hsame rest hhead)⟩

theorem any {ι : Type} {U : ι → Way} (h : ∀ i, (U i).Local least) :
    Way.Local least fun c c' => ∃ i, U i c c' := by
  rintro c c' ⟨i, hU⟩
  obtain ⟨used, hlength, hrest, hsame⟩ := h i hU
  exact ⟨used, hlength, hrest, fun rest hhead => ⟨i, hsame rest hhead⟩⟩

/-- **What is known for each glyph in front** is known. -/
theorem of_head (h : ∀ glyph, Way.Local least fun c c' => c.rest.head? = glyph ∧ W c c') :
    W.Local least :=
  (any h).congr fun _ _ => ⟨fun hW => ⟨_, rfl, hW⟩, fun ⟨_, _, hW⟩ => hW⟩

/-- A local way takes as many glyphs as it takes. -/
theorem length_le {c c' : Cursor} (h : W.Local least) (hW : W c c') :
    c'.rest.length + least ≤ c.rest.length := by
  obtain ⟨used, hlength, hrest, -⟩ := h hW
  rw [hrest, List.length_append]
  omega

/-- **A loop whose bound is the length of the text** is local, if it is for each bound and rounds
are never needed but for what is taken. -/
theorem rounds {L : Nat → Way} (hlocal : ∀ fuel, (L fuel).Local least)
    (henough : ∀ {fuel fuel' c c'}, L fuel c c' → c.rest.length < fuel' + c'.rest.length →
      L fuel' c c') : Way.Local least fun c c' => L c.rounds c c' := by
  refine (any hlocal).congr fun c c' => ⟨fun h => ⟨_, h⟩, fun ⟨fuel, h⟩ => henough h ?_⟩
  unfold Cursor.rounds
  omega

/-- **A way that tells its own end** still does with another one before it. -/
theorem comp_sealed (hW : W.Local least) (hV : V.Sealed) : (W.comp V).Sealed := by
  rintro c c'' ⟨c', hc, hc'⟩
  obtain ⟨used, -, hrest, hsame⟩ := hW hc
  obtain ⟨used', hused', hrest', hsame'⟩ := hV hc'
  refine ⟨used ++ used', fun hnil => hused' (List.append_eq_nil_iff.mp hnil).2, ?_,
    fun rest => ⟨⟨used' ++ rest, c'.offset⟩, ?_, hsame' rest⟩⟩
  · rw [hrest, hrest', List.append_assoc]
  · rw [List.append_assoc]
    refine hsame _ ?_
    obtain ⟨glyph, used', rfl⟩ := List.exists_cons_of_ne_nil hused'
    rw [hrest']
    rfl

end Local

namespace Sealed

variable {W V : Way}

/-- A way that tells its own end looks no further than that. -/
theorem toLocal (h : W.Sealed) : W.Local 1 := by
  intro c c' hW
  obtain ⟨used, hused, hrest, hsame⟩ := h hW
  exact ⟨used, List.length_pos_iff.mpr hused, hrest, fun rest _ => hsame rest⟩

theorem congr (h : W.Sealed) (hiff : ∀ c c', V c c' ↔ W c c') : V.Sealed := by
  intro c c' hV
  obtain ⟨used, hused, hrest, hsame⟩ := h ((hiff c c').mp hV)
  exact ⟨used, hused, hrest, fun rest => (hiff _ _).mpr (hsame rest)⟩

theorem given {P : Prop} (h : P → W.Sealed) : Way.Sealed fun c c' => P ∧ W c c' := by
  rintro c c' ⟨hP, hW⟩
  obtain ⟨used, hused, hrest, hsame⟩ := h hP hW
  exact ⟨used, hused, hrest, fun rest => ⟨hP, hsame rest⟩⟩

theorem or (hW : W.Sealed) (hV : V.Sealed) : Way.Sealed fun c c' => W c c' ∨ V c c' := by
  rintro c c' (h | h)
  · obtain ⟨used, hused, hrest, hsame⟩ := hW h
    exact ⟨used, hused, hrest, fun rest => Or.inl (hsame rest)⟩
  · obtain ⟨used, hused, hrest, hsame⟩ := hV h
    exact ⟨used, hused, hrest, fun rest => Or.inr (hsame rest)⟩

theorem any {ι : Type} {U : ι → Way} (h : ∀ i, (U i).Sealed) :
    Way.Sealed fun c c' => ∃ i, U i c c' := by
  rintro c c' ⟨i, hU⟩
  obtain ⟨used, hused, hrest, hsame⟩ := h i hU
  exact ⟨used, hused, hrest, fun rest => ⟨i, hsame rest⟩⟩

end Sealed

end Way

open Way

variable {c c' : Cursor}

/-! ### Steps -/

theorem peek?_eq_some_iff {ch : Char} : c.peek? = some ch ↔ c.rest.head? = some (.char ch) := by
  obtain ⟨rest, offset⟩ := c
  rcases rest with _ | ⟨_ | _, rest⟩ <;> simp [peek?]

theorem local_stay : Way.Local 0 fun c c' => c' = c := by
  rintro c _ rfl
  exact ⟨[], Nat.le_refl 0, rfl, fun _ _ => rfl⟩

theorem local_blanks : blanks.Local 0 := by
  have hfrom : ∀ glyphs offset, ∃ used, glyphs = used ++ (skipBlankFrom glyphs offset).rest ∧
      ∀ rest, rest.head? = (skipBlankFrom glyphs offset).rest.head? →
        skipBlankFrom (used ++ rest) offset = ⟨rest, (skipBlankFrom glyphs offset).offset⟩ := by
    intro glyphs
    induction glyphs with
    | nil =>
      intro offset
      refine ⟨[], rfl, fun rest hhead => ?_⟩
      obtain rfl := List.head?_eq_none_iff.mp hhead
      rfl
    | cons glyph glyphs ih =>
      intro offset
      by_cases hblank : isSeparator glyph = true
      · obtain ⟨used, hglyphs, hsame⟩ := ih (offset + 1)
        simp only [skipBlankFrom, if_pos hblank]
        refine ⟨glyph :: used, congrArg (glyph :: ·) hglyphs, fun rest hhead => ?_⟩
        simp only [List.cons_append, skipBlankFrom, if_pos hblank]
        exact hsame rest hhead
      · simp only [skipBlankFrom, if_neg hblank]
        refine ⟨[], rfl, fun rest hhead => ?_⟩
        obtain ⟨rest, rfl⟩ := List.head?_eq_some_iff.mp hhead
        simp only [List.nil_append, skipBlankFrom, if_neg hblank]
  rintro c _ rfl
  obtain ⟨used, hrest, hsame⟩ := hfrom c.rest c.offset
  exact ⟨used, Nat.zero_le _, hrest, hsame⟩

/-- A glyph is taken in front of any text. -/
theorem sealed_glyph (g : Glyph) : (glyph g).Sealed := by
  rintro ⟨rest, offset⟩ _ ⟨hhead, rfl⟩
  obtain ⟨rest, rfl⟩ := List.head?_eq_some_iff.mp hhead
  exact ⟨[g], List.cons_ne_nil g [], rfl, fun rest => ⟨rfl, rfl⟩⟩

theorem local_glyph (g : Glyph) : (glyph g).Local 1 :=
  (sealed_glyph g).toLocal

end Cursor

end Json

end TaskDaemon
