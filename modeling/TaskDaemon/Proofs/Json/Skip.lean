import TaskDaemon.Proofs.Json.SkipWord

/-!
# Skipping what could be read

A value that nobody asked for is skipped, with less care than it would be read with: strings need
not be text, and surrogates no partner. Where it could be read, skipping it comes to the same place
(`TaskDaemon.Json.Cursor.skipValue_of_readValue`).

The two go through a value in different ways. Reading recurs into the parts of a container, within a
bound on the nesting; skipping is one loop, with the containers that are open on a stack and a bound
on the rounds. So the lemma about a value is about the loop in any of its states: having met the
value, it stands behind it with the same stack and rounds enough for the rest
(`TaskDaemon.Json.Cursor.Skips`). The rest of a container is treated in the same way
(`TaskDaemon.Json.Cursor.Ends`).
-/

namespace TaskDaemon

namespace Json

namespace Cursor

open Attempt

variable {c c' : Cursor}

/-! ### Keys -/

/-- **A key that can be read can be skipped**, with its colon. -/
theorem skipKey_of_readString {key : String} {behind : Cursor}
    (hquote : c.skipBlank.peek? = some '"')
    (hkey : readString c.skipBlank.advance = .ok (key, behind))
    (hcolon : readColon behind = .ok c') :
    skipKey c = .ok c' := by
  unfold skipKey
  dsimp only
  rw [if_pos hquote]
  exact bind_eq_ok_iff.mpr ⟨behind, skipString_of_readString hkey, hcolon⟩

theorem length_readColon_lt (h : readColon c = .ok c') : c'.rest.length < c.rest.length := by
  unfold readColon at h
  dsimp only at h
  split at h
  · next hcolon =>
    obtain rfl := Except.ok.inj h
    exact (length_advance_lt (rest_ne_nil_of_peek hcolon)).trans_le (length_skipBlank_le c)
  · cases h

/-- A key with its colon takes a glyph at least. -/
theorem length_key_le {key : String} {colon : Cursor}
    (hkey : readString c.advance = .ok (key, colon))
    (hcolon : readColon colon = .ok c') : c'.rest.length ≤ c.rest.length :=
  calc c'.rest.length ≤ colon.rest.length := (length_readColon_lt hcolon).le
    _ ≤ c.advance.rest.length := length_readString_le hkey
    _ ≤ c.rest.length := length_advance_le c

/-! ### The loop of skipping -/

/-- **What is done behind a skipped value**: containers that end are left, and if one goes on, so
does the loop. -/
def skipOn (fuel : Nat) (stack : List Container) (c : Cursor) : Except Fault Cursor := do
  let (stack, c) ← skipEnds stack c
  if stack.isEmpty then .ok c else skipValueFrom fuel stack c

/-- **A value is skipped**: from the one cursor the loop gets to the other, whatever is on the
stack, and has rounds enough left. -/
def Skips (c c' : Cursor) : Prop :=
  c'.rest.length < c.rest.length ∧
    ∀ fuel stack, c.rest.length < fuel →
      ∃ fuel', c'.rest.length < fuel' ∧ skipValueFrom fuel stack c = skipOn fuel' stack c'

/-- **The rest of a container is skipped**, from behind one of its values to behind its end. -/
def Ends (container : Container) (c c' : Cursor) : Prop :=
  c'.rest.length < c.rest.length ∧
    ∀ fuel stack, c.rest.length < fuel →
      ∃ fuel', c'.rest.length < fuel' ∧ skipOn fuel (container :: stack) c = skipOn fuel' stack c'

section Loop

variable {container : Container} {value behind : Cursor}

theorem skipValueFrom_skipBlank (fuel : Nat) (stack : List Container) (c : Cursor) :
    skipValueFrom fuel stack c.skipBlank = skipValueFrom fuel stack c ∨ fuel = 0 := by
  cases fuel with
  | zero => exact Or.inr rfl
  | succ fuel =>
    left
    simp only [skipValueFrom, skipBlank_skipBlank]

theorem Skips.of_skipBlank (h : Skips c.skipBlank c') : Skips c c' := by
  refine ⟨h.1.trans_le (length_skipBlank_le c), fun fuel stack hfuel => ?_⟩
  obtain ⟨fuel', hfuel', hskip⟩ := h.2 fuel stack ((length_skipBlank_le c).trans_lt hfuel)
  refine ⟨fuel', hfuel', ?_⟩
  rcases skipValueFrom_skipBlank fuel stack c with hsame | rfl
  · exact hsame.symm.trans hskip
  · exact absurd hfuel (Nat.not_lt_zero _)

/-- A value without parts is skipped in one round. -/
theorem Skips.of_scalar (hopened : Container.opened? c.skipBlank.peek? = none)
    (h : skipScalar c.skipBlank = .ok c') : Skips c c' := by
  have hlt : c'.rest.length < c.rest.length :=
    (length_skipScalar_lt h).trans_le (length_skipBlank_le c)
  refine ⟨hlt, fun fuel stack hfuel => ?_⟩
  cases fuel with
  | zero => exact absurd hfuel (Nat.not_lt_zero _)
  | succ fuel =>
    refine ⟨fuel, hlt.trans_le (Nat.lt_succ_iff.mp hfuel), ?_⟩
    simp only [skipValueFrom, hopened, h]
    rfl

/-- An empty container is skipped in one round. -/
theorem Skips.of_empty (hopened : Container.opened? c.skipBlank.peek? = some container)
    (hend : c.skipBlank.advance.skipBlank.peek? = some container.closing) :
    Skips c c.skipBlank.advance.skipBlank.advance := by
  have hrest := rest_ne_nil_of_peek hend
  have hlt : c.skipBlank.advance.skipBlank.advance.rest.length < c.rest.length :=
    calc c.skipBlank.advance.skipBlank.advance.rest.length
        < c.skipBlank.advance.skipBlank.rest.length := length_advance_lt hrest
      _ ≤ c.skipBlank.advance.rest.length := length_skipBlank_le _
      _ ≤ c.skipBlank.rest.length := length_advance_le _
      _ ≤ c.rest.length := length_skipBlank_le c
  refine ⟨hlt, fun fuel stack hfuel => ?_⟩
  cases fuel with
  | zero => exact absurd hfuel (Nat.not_lt_zero _)
  | succ fuel =>
    refine ⟨fuel, hlt.trans_le (Nat.lt_succ_iff.mp hfuel), ?_⟩
    have hempty : c.skipBlank.advance.skipBlank.rest.isEmpty = false := by simpa using hrest
    simp only [skipValueFrom, hopened, hempty, hend, if_true, Bool.false_eq_true, if_false]
    rfl

/-- A container with a value in it is skipped in one round for its opening, and those of the
value and of the rest. -/
theorem Skips.of_container (hopened : Container.opened? c.skipBlank.peek? = some container)
    (hrest : c.skipBlank.advance.skipBlank.rest ≠ [])
    (hend : c.skipBlank.advance.skipBlank.peek? ≠ some container.closing)
    (hto : skipToValue container c.skipBlank.advance.skipBlank = .ok value)
    (hle : value.rest.length ≤ c.skipBlank.advance.skipBlank.rest.length)
    (hvalue : Skips value behind) (hends : Ends container behind c') : Skips c c' := by
  have hlt : value.rest.length < c.rest.length := by
    have hne : c.skipBlank.rest ≠ [] := by
      intro hnil
      unfold peek? at hopened
      rw [hnil] at hopened
      cases hopened
    calc value.rest.length ≤ c.skipBlank.advance.skipBlank.rest.length := hle
      _ ≤ c.skipBlank.advance.rest.length := length_skipBlank_le _
      _ < c.skipBlank.rest.length := length_advance_lt hne
      _ ≤ c.rest.length := length_skipBlank_le c
  refine ⟨(hends.1.trans hvalue.1).trans hlt, fun fuel stack hfuel => ?_⟩
  cases fuel with
  | zero => exact absurd hfuel (Nat.not_lt_zero _)
  | succ fuel =>
    obtain ⟨fuel', hfuel', hskip⟩ := hvalue.2 fuel (container :: stack)
      (hlt.trans_le (Nat.lt_succ_iff.mp hfuel))
    obtain ⟨fuel'', hfuel'', hskip'⟩ := hends.2 fuel' stack hfuel'
    refine ⟨fuel'', hfuel'', ?_⟩
    have hempty : c.skipBlank.advance.skipBlank.rest.isEmpty = false := by simpa using hrest
    simp only [skipValueFrom, hopened, hempty, hend, Bool.false_eq_true, if_false, hto]
    exact hskip.trans hskip'

theorem Ends.of_closing (hcomma : container.closing ≠ ',')
    (hend : c.skipBlank.peek? = some container.closing) :
    Ends container c c.skipBlank.advance := by
  have hrest := rest_ne_nil_of_peek hend
  have hlt : c.skipBlank.advance.rest.length < c.rest.length :=
    (length_advance_lt hrest).trans_le (length_skipBlank_le c)
  refine ⟨hlt, fun fuel stack hfuel => ⟨fuel, hlt.trans hfuel, ?_⟩⟩
  have hempty : c.skipBlank.rest.isEmpty = false := by simpa using hrest
  simp only [skipOn, skipEnds, hempty, hend, hcomma, Option.some.injEq, Bool.false_eq_true,
    if_false, if_true]

/-- **A comma leads to another value.** -/
theorem Ends.of_comma (hcomma : c.skipBlank.peek? = some ',')
    (hto : skipToValue container c.skipBlank.advance = .ok value)
    (hle : value.rest.length ≤ c.skipBlank.advance.rest.length)
    (hvalue : Skips value behind) (hends : Ends container behind c') : Ends container c c' := by
  have hrest := rest_ne_nil_of_peek hcomma
  have hlt : value.rest.length < c.rest.length :=
    calc value.rest.length ≤ c.skipBlank.advance.rest.length := hle
      _ < c.skipBlank.rest.length := length_advance_lt hrest
      _ ≤ c.rest.length := length_skipBlank_le c
  refine ⟨(hends.1.trans hvalue.1).trans hlt, fun fuel stack hfuel => ?_⟩
  obtain ⟨fuel', hfuel', hskip⟩ := hvalue.2 fuel (container :: stack) (hlt.trans hfuel)
  obtain ⟨fuel'', hfuel'', hskip'⟩ := hends.2 fuel' stack hfuel'
  refine ⟨fuel'', hfuel'', ?_⟩
  have hempty : c.skipBlank.rest.isEmpty = false := by simpa using hrest
  simp only [skipOn, skipEnds, hempty, hcomma, hto, Bool.false_eq_true, if_false, if_true]
  exact hskip.trans hskip'

end Loop

/-! ### Values -/

section Values

variable {one : Cursor → Read Json}
  (hone : ∀ {c c' : Cursor} {value : Json}, one c = .ok (value, c') → Skips c c')

include hone in
/-- The items behind the first one are skipped. -/
theorem ends_of_items {items : List Json} (h : Items one false c items c') :
    Ends .array c c'.advance := by
  generalize hfirst : false = first at h
  induction h with
  | done hnext =>
    obtain ⟨rfl, hend⟩ := hasNextItem_eq_false hnext
    exact Ends.of_closing (by decide) hend
  | item hnext hvalue hmore ih =>
    subst hfirst
    obtain ⟨-, -, ⟨hcontra, -⟩ | ⟨-, hcomma, rfl⟩⟩ := hasNextItem_eq_true hnext
    · cases hcontra
    · exact Ends.of_comma hcomma rfl le_rfl (hone hvalue).of_skipBlank (ih rfl)

include hone in
/-- The members behind the first one are skipped. -/
theorem ends_of_members {members : List (String × Json)} (h : Members one false c members c') :
    Ends .object c c'.advance := by
  generalize hfirst : false = first at h
  induction h with
  | done hnext =>
    obtain ⟨rfl, hend⟩ := hasNextMember_eq_false hnext
    exact Ends.of_closing (by decide) hend
  | member hnext hkey hcolon hvalue hmore ih =>
    subst hfirst
    obtain ⟨hquote, ⟨hcontra, -⟩ | ⟨-, hcomma, rfl⟩⟩ := hasNextMember_eq_true hnext
    · cases hcontra
    · exact Ends.of_comma hcomma (skipKey_of_readString hquote hkey hcolon)
        ((length_key_le hkey hcolon).trans (length_skipBlank_le _)) (hone hvalue) (ih rfl)

end Values

theorem opened?_eq_none {given : Option Char} (hbracket : given ≠ some '[')
    (hbrace : given ≠ some '\x7b') : Container.opened? given = none := by
  unfold Container.opened?
  split
  · exact absurd rfl hbracket
  · exact absurd rfl hbrace
  · rfl

/-- **A value that can be read is skipped.** -/
theorem skips_of_readValue {depth : Nat} {value : Json}
    (h : readValue depth c = .ok (value, c')) : Skips c c' := by
  induction depth using Nat.strongRecOn generalizing c c' value with
  | ind depth ih =>
  rcases readValue_eq_ok h with ⟨less, items, after, rfl, hbracket, -, hitems, -, rfl⟩ |
    ⟨less, members, after, rfl, hbrace, -, hmembers, -, rfl⟩ | ⟨hbracket, hbrace, hscalar⟩
  · have hopened : Container.opened? c.skipBlank.peek? = some .array := by rw [hbracket]; rfl
    have hone := @ih less (Nat.lt_succ_self less)
    cases hitems with
    | done hnext =>
      obtain ⟨rfl, hend⟩ := hasNextItem_eq_false hnext
      exact Skips.of_empty hopened hend
    | item hnext hvalue hmore =>
      obtain ⟨hrest, hend, ⟨-, rfl⟩ | ⟨hcontra, -⟩⟩ := hasNextItem_eq_true hnext
      · exact Skips.of_container hopened hrest hend rfl le_rfl (hone hvalue)
          (ends_of_items hone hmore)
      · cases hcontra
  · have hopened : Container.opened? c.skipBlank.peek? = some .object := by rw [hbrace]; rfl
    have hone := @ih less (Nat.lt_succ_self less)
    cases hmembers with
    | done hnext =>
      obtain ⟨rfl, hend⟩ := hasNextMember_eq_false hnext
      exact Skips.of_empty hopened hend
    | @member _ _ _ _ start _ _ _ _ _ hnext hkey hcolon hvalue hmore =>
      obtain ⟨hquote, ⟨-, rfl⟩ | ⟨hcontra, -⟩⟩ := hasNextMember_eq_true hnext
      · have hend : c.skipBlank.advance.skipBlank.peek? ≠ some Container.object.closing := by
          rw [hquote]
          decide
        have hto : skipToValue .object c.skipBlank.advance.skipBlank = .ok start := by
          rw [← skipBlank_skipBlank] at hquote hkey
          exact skipKey_of_readString hquote hkey hcolon
        exact Skips.of_container hopened (rest_ne_nil_of_peek hquote) hend hto
          (length_key_le hkey hcolon) (hone hvalue) (ends_of_members hone hmore)
      · cases hcontra
  · exact Skips.of_scalar (opened?_eq_none hbracket hbrace) (skipScalar_of_readScalar hscalar)

/-- **Skipping a value that can be read** comes to the same place. -/
theorem skipValue_of_readValue {depth : Nat} {value : Json}
    (h : readValue depth c = .ok (value, c')) : skipValue c = .ok c' := by
  obtain ⟨-, hskips⟩ := skips_of_readValue h
  obtain ⟨fuel, -, hskip⟩ := hskips c.rounds [] (Nat.lt_succ_self _)
  exact hskip

end Cursor

end Json

end TaskDaemon
