import TaskDaemon.Proofs.Json.LookaheadWord
import TaskDaemon.Proofs.Json.Skip

/-!
# Reading and skipping values looks no further than the glyph behind

A value is read from its own glyphs (`TaskDaemon.Json.Cursor.local_readValue`), and one that is
skipped is skipped by them (`TaskDaemon.Json.Cursor.local_skipValue`): what either does is the same
in front of any other text that begins alike. Arrays and objects tell their own end by their
bracket, so the glyph behind does not matter to them.

* `TaskDaemon.Json.Cursor.sealed_items`, `TaskDaemon.Json.Cursor.sealed_members`: the loops over
  items and members up to the bracket, for any way of reading one of them that looks no further.

A loop is given a bound, which comes from the length of the whole text. So for each loop there are
two lemmas: it is local whatever the bound, by induction on it, and a bound that leaves a round for
each glyph taken is as good as any.
-/

namespace TaskDaemon

namespace Json

namespace Cursor

open Attempt Way

variable {c c' : Cursor}

/-! ### Punctuation -/

theorem isEmpty_rest_iff : c.rest.isEmpty = true ↔ c.rest.head? = none := by
  rw [List.isEmpty_iff, List.head?_eq_none_iff]

theorem local_readColon : (Moves readColon).Local 1 := by
  refine (local_blanks.comp (local_glyph (.char ':'))).congr fun c c' => ?_
  unfold Moves readColon comp blanks glyph
  simp only [peek?_eq_some_iff, exists_eq_left']
  split
  · next hhead => simp [hhead, eq_comm]
  · next hhead => simp [hhead]

theorem local_hasNextItem (first more : Bool) : (Reads (hasNextItem first) more).Local 0 := by
  have hend := local_stay.guard (· = some (.char ']'))
  have hfirst := local_stay.guard fun g => g ≠ none ∧ g ≠ some (.char ']')
  have hcomma := (((local_glyph (.char ',')).comp local_blanks).behind
    fun g => g ≠ none ∧ g ≠ some (.char ']')).anti (Nat.zero_le _)
  refine (local_blanks.comp ((Local.given (P := more = false) fun _ => hend).or
    ((Local.given (P := more = true ∧ first = true) fun _ => hfirst).or
      (.given (P := more = true ∧ first = false) fun _ => hcomma)))).congr fun c c' => ?_
  unfold Reads hasNextItem comp blanks glyph
  simp only [peek?_eq_some_iff, isEmpty_rest_iff, exists_eq_left']
  generalize c.skipBlank = start
  grind

theorem local_hasNextMember (first more : Bool) : (Reads (hasNextMember first) more).Local 0 := by
  have hend := local_stay.guard (· = some (.char '\x7d'))
  have hfirst := local_stay.guard (· = some (.char '"'))
  have hcomma := (((local_glyph (.char ',')).comp local_blanks).behind
    (· = some (.char '"'))).anti (Nat.zero_le _)
  refine (local_blanks.comp ((Local.given (P := more = false) fun _ => hend).or
    ((Local.given (P := more = true ∧ first = true) fun _ => hfirst).or
      (.given (P := more = true ∧ first = false) fun _ => hcomma)))).congr fun c c' => ?_
  unfold Reads hasNextMember comp blanks glyph
  simp only [peek?_eq_some_iff, isEmpty_rest_iff, exists_eq_left']
  generalize c.skipBlank = start
  grind

/-- The end of an array is told by its bracket. -/
theorem sealed_endItems : (Moves endItems).Sealed := by
  refine (local_blanks.comp_sealed (sealed_glyph (.char ']'))).congr fun c c' => ?_
  unfold Moves endItems comp blanks glyph
  simp only [peek?_eq_some_iff, isEmpty_rest_iff, exists_eq_left']
  generalize c.skipBlank = start
  grind

/-! ### Loops -/

section Items

variable {α : Type} {one : Cursor → Read α} (hone : ∀ a, (Reads one a).Local 1)

/-- One round of the loop over an array. -/
theorem readItems_succ_iff {fuel : Nat} {done all : List α} :
    readItems one (fuel + 1) done c = .ok (all, c') ↔
      (done.reverse = all ∧ Reads (hasNextItem done.isEmpty) false c c') ∨
        ∃ item, (Reads (hasNextItem done.isEmpty) true).comp
          ((Reads one item).comp (Reads (readItems one fuel (item :: done)) all)) c c' := by
  rw [readItems]
  constructor
  · intro h
    obtain ⟨⟨more, start⟩, hnext, h⟩ := bind_eq_ok_iff.mp h
    have hnext := mapError_eq_ok_iff.mp hnext
    cases more with
    | false =>
      obtain ⟨rfl, rfl⟩ := Prod.mk.inj (Except.ok.inj h)
      exact Or.inl ⟨rfl, hnext⟩
    | true =>
      obtain ⟨⟨item, behind⟩, hitem, h⟩ := bind_eq_ok_iff.mp h
      exact Or.inr ⟨item, start, hnext, behind, mapError_eq_ok_iff.mp hitem, h⟩
  · rintro (⟨rfl, hnext⟩ | ⟨item, start, hnext, behind, hitem, h⟩)
    · exact bind_eq_ok_iff.mpr ⟨_, mapError_eq_ok_iff.mpr hnext, rfl⟩
    · exact bind_eq_ok_iff.mpr ⟨_, mapError_eq_ok_iff.mpr hnext,
        bind_eq_ok_iff.mpr ⟨_, mapError_eq_ok_iff.mpr hitem, h⟩⟩

include hone in
theorem local_readItems_fuel (fuel : Nat) (done all : List α) :
    (Reads (readItems one fuel done) all).Local 0 := by
  induction fuel generalizing done with
  | zero => exact fun _ _ h => by cases h
  | succ fuel ih =>
    refine Local.congr (Local.or (Local.given fun _ => local_hasNextItem _ false)
      (Local.any fun item => Local.anti ((local_hasNextItem _ true).comp
        ((hone item).comp (ih (item :: done)))) (Nat.zero_le _)))
      fun c c' => readItems_succ_iff

include hone in
/-- Rounds that are not needed make no difference. -/
theorem readItems_of_fuel {fuel fuel' : Nat} {done all : List α}
    (h : readItems one fuel done c = .ok (all, c'))
    (hfuel : c.rest.length < fuel' + c'.rest.length) :
    readItems one fuel' done c = .ok (all, c') := by
  have hlength := (local_readItems_fuel hone fuel done all).length_le h
  induction fuel generalizing fuel' done c with
  | zero => cases h
  | succ fuel ih =>
    obtain ⟨fuel', rfl⟩ : ∃ less, fuel' = less + 1 := Nat.exists_eq_succ_of_ne_zero (by omega)
    refine readItems_succ_iff.mpr ((readItems_succ_iff.mp h).imp_right ?_)
    rintro ⟨item, start, hnext, behind, hitem, h⟩
    have hstart := (local_hasNextItem _ true).length_le hnext
    have hbehind := (hone item).length_le hitem
    exact ⟨item, start, hnext, behind, hitem, ih h (by omega)
      ((local_readItems_fuel hone fuel _ all).length_le h)⟩

include hone in
/-- **The items of an array are read from their own glyphs.** -/
theorem local_readItems (all : List α) :
    Way.Local 0 fun c c' => readItems one c.rounds [] c = .ok (all, c') :=
  Local.rounds (L := fun fuel => Reads (readItems one fuel []) all)
    (fun fuel => local_readItems_fuel hone fuel [] all)
    fun h hfuel => readItems_of_fuel hone h hfuel

/-- The items of an array lead to its bracket. -/
theorem head?_of_readItems {fuel : Nat} {done all : List α}
    (h : readItems one fuel done c = .ok (all, c')) : c'.rest.head? = some (.char ']') := by
  induction fuel generalizing done c with
  | zero => cases h
  | succ fuel ih =>
    rcases readItems_succ_iff.mp h with ⟨-, hnext⟩ | ⟨item, start, -, behind, -, h⟩
    · exact peek?_eq_some_iff.mp (hasNextItem_eq_false hnext).2
    · exact ih h

end Items

section Members

variable {σ : Type} {member : String → σ → Cursor → Read σ}
  (hmember : ∀ key taken after, (Reads (member key taken) after).Local 0)

/-- One round of the loop over an object. -/
theorem readMembers_succ_iff {fuel : Nat} {first : Bool} {taken all : σ} :
    readMembers member (fuel + 1) first taken c = .ok (all, c') ↔
      (taken = all ∧ Reads (hasNextMember first) false c c') ∨
        ∃ key after, (Reads (hasNextMember first) true).comp
          (Way.comp (fun c c' => readString c.advance = .ok (key, c'))
            ((Reads (member key taken) after).comp
              (Reads (readMembers member fuel false after) all))) c c' := by
  rw [readMembers]
  constructor
  · intro h
    obtain ⟨⟨more, start⟩, hnext, h⟩ := bind_eq_ok_iff.mp h
    cases more with
    | false =>
      obtain ⟨rfl, rfl⟩ := Prod.mk.inj (Except.ok.inj h)
      exact Or.inl ⟨rfl, hnext⟩
    | true =>
      obtain ⟨⟨key, colon⟩, hkey, h⟩ := bind_eq_ok_iff.mp h
      obtain ⟨⟨after, behind⟩, hafter, h⟩ := bind_eq_ok_iff.mp h
      exact Or.inr ⟨key, after, start, hnext, colon, hkey, behind, hafter, h⟩
  · rintro (⟨rfl, hnext⟩ | ⟨key, after, start, hnext, colon, hkey, behind, hafter, h⟩)
    · exact bind_eq_ok_iff.mpr ⟨_, hnext, rfl⟩
    · exact bind_eq_ok_iff.mpr ⟨_, hnext, bind_eq_ok_iff.mpr ⟨_, hkey,
        bind_eq_ok_iff.mpr ⟨_, hafter, h⟩⟩⟩

/-- A key is read from behind its quote. -/
theorem local_key (key : String) : Way.Local 1 fun c c' =>
    c.rest.head? = some (.char '"') ∧ readString c.advance = .ok (key, c') :=
  local_behind_glyph (local_readString key) _ fun _ _ _ => Iff.rfl

include hmember in
theorem local_readMembers_fuel (fuel : Nat) (first : Bool) (taken all : σ) :
    (Reads (readMembers member fuel first taken) all).Local 0 := by
  induction fuel generalizing first taken with
  | zero => exact fun _ _ h => by cases h
  | succ fuel ih =>
    refine Local.congr (Local.or
      (Local.given (P := taken = all) fun _ => local_hasNextMember first false)
      (Local.any fun key => Local.any fun after => Local.anti ((local_hasNextMember first true).comp
        ((local_key key).comp ((hmember key taken after).comp (ih false after)))) (Nat.zero_le _)))
      fun c c' => ?_
    refine readMembers_succ_iff.trans
      (or_congr_right (exists_congr fun key => exists_congr fun after => ?_))
    -- Where a member follows there is the quote of its key.
    constructor
    · rintro ⟨start, hnext, colon, hkey, hrest⟩
      exact ⟨start, hnext, colon,
        ⟨peek?_eq_some_iff.mp (hasNextMember_eq_true hnext).1, hkey⟩, hrest⟩
    · rintro ⟨start, hnext, colon, ⟨-, hkey⟩, hrest⟩
      exact ⟨start, hnext, colon, hkey, hrest⟩

include hmember in
/-- Rounds that are not needed make no difference. -/
theorem readMembers_of_fuel {fuel fuel' : Nat} {first : Bool} {taken all : σ}
    (h : readMembers member fuel first taken c = .ok (all, c'))
    (hfuel : c.rest.length < fuel' + c'.rest.length) :
    readMembers member fuel' first taken c = .ok (all, c') := by
  have hlength := (local_readMembers_fuel hmember fuel first taken all).length_le h
  induction fuel generalizing fuel' first taken c with
  | zero => cases h
  | succ fuel ih =>
    obtain ⟨fuel', rfl⟩ : ∃ less, fuel' = less + 1 := Nat.exists_eq_succ_of_ne_zero (by omega)
    refine readMembers_succ_iff.mpr ((readMembers_succ_iff.mp h).imp_right ?_)
    rintro ⟨key, after, start, hnext, colon, hkey, behind, hafter, h⟩
    have hstart := (local_hasNextMember first true).length_le hnext
    have hcolon := (local_key key).length_le
      ⟨peek?_eq_some_iff.mp (hasNextMember_eq_true hnext).1, hkey⟩
    have hbehind := (hmember key taken after).length_le hafter
    exact ⟨key, after, start, hnext, colon, hkey, behind, hafter, ih h (by omega)
      ((local_readMembers_fuel hmember fuel _ _ all).length_le h)⟩

include hmember in
/-- **The members of an object are read from their own glyphs.** -/
theorem local_readMembers (blank all : σ) :
    Way.Local 0 fun c c' => readMembers member c.rounds true blank c = .ok (all, c') :=
  Local.rounds (L := fun fuel => Reads (readMembers member fuel true blank) all)
    (fun fuel => local_readMembers_fuel hmember fuel true blank all)
    fun h hfuel => readMembers_of_fuel hmember h hfuel

/-- The members of an object lead to its brace. -/
theorem head?_of_readMembers {fuel : Nat} {first : Bool} {taken all : σ}
    (h : readMembers member fuel first taken c = .ok (all, c')) :
    c'.rest.head? = some (.char '\x7d') := by
  induction fuel generalizing first taken c with
  | zero => cases h
  | succ fuel ih =>
    rcases readMembers_succ_iff.mp h with ⟨-, hnext⟩ | ⟨_, _, _, -, _, -, _, -, h⟩
    · exact peek?_eq_some_iff.mp (hasNextMember_eq_false hnext).2
    · exact ih h

end Members

/-- **A member that is kept** is read from its own glyphs. -/
theorem local_keepMember {one : Cursor → Read Json} (hone : ∀ value, (Reads one value).Local 1)
    (key : String) (taken after : List (String × Json)) :
    (Reads (keepMember one key taken) after).Local 0 := by
  refine Local.congr (Local.any fun value =>
    Local.given (P := after = (key, value) :: taken) fun _ =>
    (local_readColon.comp (hone value)).anti (Nat.zero_le _)) fun c c' => ?_
  refine keepMember_eq_ok_iff.trans ⟨?_, ?_⟩
  · rintro ⟨start, value, hcolon, hvalue, rfl⟩
    exact ⟨value, rfl, start, hcolon, hvalue⟩
  · rintro ⟨value, rfl, start, hcolon, hvalue⟩
    exact ⟨start, value, hcolon, hvalue, rfl⟩

/-! ### Values -/

/-- **The parts of an array and its bracket** tell their own end. -/
theorem sealed_items {α : Type} {one : Cursor → Read α} (hone : ∀ a, (Reads one a).Local 1)
    (items : List α) : Way.Sealed fun c c' =>
      ∃ c₁, readItems one c.rounds [] c = .ok (items, c₁) ∧ c' = c₁.advance := by
  refine ((local_readItems hone items).comp_sealed (sealed_glyph (.char ']'))).congr fun c c' => ?_
  refine exists_congr fun c₁ => and_congr_right fun h => ?_
  exact ⟨fun hc' => ⟨head?_of_readItems h, hc'⟩, fun hglyph => hglyph.2⟩

/-- **The parts of an object and its brace** tell their own end. -/
theorem sealed_members {σ : Type} {member : String → σ → Cursor → Read σ}
    (hmember : ∀ key taken after, (Reads (member key taken) after).Local 0) (blank all : σ) :
    Way.Sealed fun c c' => ∃ c₁, readMembers member c.rounds true blank c = .ok (all, c₁) ∧
      c' = c₁.advance := by
  refine ((local_readMembers hmember blank all).comp_sealed (sealed_glyph (.char '\x7d'))).congr
    fun c c' => ?_
  refine exists_congr fun c₁ => and_congr_right fun h => ?_
  exact ⟨fun hc' => ⟨head?_of_readMembers h, hc'⟩, fun hglyph => hglyph.2⟩

/-- **The three ways to read a value** whose parts are read by `inner`. -/
theorem readValueWith_iff {inner : Option (Cursor → Read Json)} {value : Json} :
    readValueWith inner c = .ok (value, c') ↔
      (∃ one ∈ inner, ∃ items, value = .array items ∧
          c.skipBlank.rest.head? = some (.char '[') ∧
          ∃ c₁, readItems one c.skipBlank.advance.rounds [] c.skipBlank.advance = .ok (items, c₁) ∧
            c' = c₁.advance) ∨
        (∃ one ∈ inner, ∃ members, value = .object members.reverse ∧
          c.skipBlank.rest.head? = some (.char '\x7b') ∧
          ∃ c₁, readMembers (keepMember one) c.skipBlank.advance.rounds true []
            c.skipBlank.advance = .ok (members, c₁) ∧ c' = c₁.advance) ∨
        ((c.skipBlank.rest.head? ≠ some (.char '[') ∧
            c.skipBlank.rest.head? ≠ some (.char '\x7b')) ∧
          readScalar c.skipBlank = .ok (value, c')) := by
  simp only [← peek?_eq_some_iff, ne_eq]
  unfold readValueWith
  generalize c.skipBlank = start
  constructor
  · intro h
    dsimp only at h
    split at h
    · next hbracket =>
      cases inner with
      | none => cases h
      | some one =>
        obtain ⟨⟨items, c₁⟩, hread, h⟩ := bind_eq_ok_iff.mp h
        obtain ⟨rfl, rfl⟩ := Prod.mk.inj (Except.ok.inj h)
        exact Or.inl ⟨one, rfl, items, rfl, hbracket, c₁, hread, rfl⟩
    next hbracket =>
    split at h
    · next hbrace =>
      cases inner with
      | none => cases h
      | some one =>
        obtain ⟨⟨members, c₁⟩, hread, h⟩ := bind_eq_ok_iff.mp h
        obtain ⟨rfl, rfl⟩ := Prod.mk.inj (Except.ok.inj h)
        exact Or.inr (Or.inl ⟨one, rfl, members, rfl, hbrace, c₁, hread, rfl⟩)
    next hbrace => exact Or.inr (Or.inr ⟨⟨hbracket, hbrace⟩, h⟩)
  · rintro (⟨one, hone, items, rfl, hbracket, c₁, hread, rfl⟩ |
      ⟨one, hone, members, rfl, hbrace, c₁, hread, rfl⟩ | ⟨⟨hbracket, hbrace⟩, h⟩)
    · obtain rfl := Option.mem_def.mp hone
      dsimp only
      rw [if_pos hbracket]
      exact bind_eq_ok_iff.mpr ⟨_, hread, rfl⟩
    · obtain rfl := Option.mem_def.mp hone
      dsimp only
      rw [if_neg (by rw [hbrace]; decide), if_pos hbrace]
      exact bind_eq_ok_iff.mpr ⟨_, hread, rfl⟩
    · dsimp only
      rw [if_neg hbracket, if_neg hbrace]
      exact h

theorem local_readValueWith {inner : Option (Cursor → Read Json)}
    (hinner : ∀ one ∈ inner, ∀ value, (Reads one value).Local 1) (value : Json) :
    (Reads (readValueWith inner) value).Local 1 := by
  have hitems : Way.Local 1 fun c c' => ∃ one, one ∈ inner ∧ ∃ items, value = .array items ∧
      (glyph (.char '[')).comp (fun c c' => ∃ c₁,
        readItems one c.rounds [] c = .ok (items, c₁) ∧ c' = c₁.advance) c c' :=
    .any fun one => .given fun hone => .any fun items => .given fun _ =>
      ((local_glyph _).comp_sealed (sealed_items (hinner one hone) items)).toLocal
  have hmembers : Way.Local 1 fun c c' => ∃ one, one ∈ inner ∧ ∃ members,
      value = .object members.reverse ∧
      (glyph (.char '\x7b')).comp (fun c c' => ∃ c₁,
        readMembers (keepMember one) c.rounds true [] c = .ok (members, c₁) ∧
          c' = c₁.advance) c c' :=
    .any fun one => .given fun hone => .any fun members => .given fun _ =>
      ((local_glyph _).comp_sealed
        (sealed_members (local_keepMember (hinner one hone)) [] members)).toLocal
  have hscalar := (local_readScalar value).guard
    fun g => g ≠ some (.char '[') ∧ g ≠ some (.char '\x7b')
  refine ((local_blanks.comp (hitems.or (hmembers.or hscalar))).anti (Nat.zero_add 1).ge).congr
    fun c c' => readValueWith_iff.trans ?_
  simp only [blanks_comp_iff, glyph_comp_iff, Reads]

/-- **A value is read from its own glyphs.** -/
theorem local_readValue (depth : Nat) (value : Json) : (Reads (readValue depth) value).Local 1 := by
  induction depth generalizing value with
  | zero =>
    refine local_readValueWith (fun one hone => ?_) value
    cases hone
  | succ depth ih =>
    refine local_readValueWith (fun one hone => ?_) value
    obtain rfl := Option.some.inj hone
    exact ih

/-! ### Values nobody asked for -/

theorem local_skipKey : (Moves skipKey).Local 1 := by
  refine ((local_blanks.comp ((local_glyph (.char '"')).comp (local_skipString.comp
    local_readColon))).anti (by omega)).congr fun c c' => ?_
  simp only [blanks_comp_iff, glyph_comp_iff]
  unfold Moves skipKey
  simp only [← peek?_eq_some_iff]
  constructor
  · intro h
    split at h
    · next hquote =>
      obtain ⟨c₁, hskip, hcolon⟩ := bind_eq_ok_iff.mp h
      exact ⟨hquote, c₁, hskip, hcolon⟩
    · cases h
  · rintro ⟨hquote, c₁, hskip, hcolon⟩
    rw [if_pos hquote]
    exact bind_eq_ok_iff.mpr ⟨c₁, hskip, hcolon⟩

theorem local_skipToValue (container : Container) : (Moves (skipToValue container)).Local 0 := by
  cases container with
  | array => exact local_stay.congr fun c c' =>
      ⟨fun h => (Except.ok.inj h).symm, fun h => congrArg _ h.symm⟩
  | object => exact local_skipKey.anti (Nat.zero_le 1)

/-- What follows a value inside a container. -/
theorem skipEnds_cons_iff {container : Container} {outer after : List Container} :
    skipEnds (container :: outer) c = .ok (after, c') ↔
      (container :: outer = after ∧ c.skipBlank.rest.head? = some (.char ',') ∧
        skipToValue container c.skipBlank.advance = .ok c') ∨
      (c.skipBlank.rest.head? = some (.char container.closing) ∧
        skipEnds outer c.skipBlank.advance = .ok (after, c')) := by
  have hclosing : container.closing ≠ ',' := by cases container <;> decide
  simp only [← peek?_eq_some_iff, skipEnds]
  generalize c.skipBlank = start
  constructor
  · intro h
    split at h
    · cases h
    split at h
    · next hcomma =>
      obtain ⟨c₁, hto, hpair⟩ := map_eq_ok_iff.mp h
      obtain ⟨rfl, rfl⟩ := Prod.mk.inj hpair
      exact Or.inl ⟨rfl, hcomma, hto⟩
    split at h
    · next hend => exact Or.inr ⟨hend, h⟩
    · cases h
  · rintro (⟨rfl, hcomma, hto⟩ | ⟨hend, h⟩)
    · rw [if_neg (by simp [rest_ne_nil_of_peek hcomma]), if_pos hcomma]
      exact map_eq_ok_iff.mpr ⟨c', hto, rfl⟩
    · rw [if_neg (by simp [rest_ne_nil_of_peek hend]), if_neg (by simp [hend, hclosing]),
        if_pos hend]
      exact h

theorem local_skipEnds (stack after : List Container) : (Reads (skipEnds stack) after).Local 0 := by
  induction stack with
  | nil =>
    refine (Local.given (P := [] = after) fun _ => local_stay).congr fun c c' => ?_
    simp [Reads, skipEnds, eq_comm]
  | cons container outer ih =>
    refine Local.congr (Local.anti (local_blanks.comp
      ((Local.given (P := container :: outer = after) fun _ =>
        ((local_glyph (.char ',')).comp (local_skipToValue container))).or
      ((local_glyph (.char container.closing)).comp ih))) (Nat.zero_le _)) fun c c' => ?_
    simp only [blanks_comp_iff, glyph_comp_iff]
    exact skipEnds_cons_iff

/-- The character that opens a container. -/
def Container.opening : Container → Char
  | .array => '['
  | .object => '\x7b'

theorem Container.opened?_eq_some_iff {given : Option Char} {container : Container} :
    opened? given = some container ↔ given = some container.opening := by
  unfold opened?
  split
  · cases container <;> simp [opening]
  · cases container <;> simp [opening]
  · next hbracket hbrace => cases container <;> simp_all [opening]

theorem skipOn_iff {fuel : Nat} {stack : List Container} : skipOn fuel stack c = .ok c' ↔
    ∃ after, (Reads (skipEnds stack) after).comp
      (fun c c' => (after = [] ∧ c' = c) ∨ (after ≠ [] ∧ Moves (skipValueFrom fuel after) c c'))
      c c' := by
  unfold skipOn
  constructor
  · intro h
    obtain ⟨⟨after, c₁⟩, hends, h⟩ := bind_eq_ok_iff.mp h
    dsimp only at h
    split at h
    · next hnil =>
      exact ⟨after, c₁, hends, Or.inl ⟨List.isEmpty_iff.mp hnil, (Except.ok.inj h).symm⟩⟩
    · next hsome =>
      exact ⟨after, c₁, hends, Or.inr ⟨fun hnil => hsome (List.isEmpty_iff.mpr hnil), h⟩⟩
  · rintro ⟨after, c₁, hends, ⟨rfl, rfl⟩ | ⟨hsome, h⟩⟩
    · exact bind_eq_ok_iff.mpr ⟨_, hends, rfl⟩
    · refine bind_eq_ok_iff.mpr ⟨_, hends, ?_⟩
      dsimp only
      rw [if_neg fun hnil => hsome (List.isEmpty_iff.mp hnil)]
      exact h

/-- **One round of skipping**: a container is opened, or a value without parts is skipped. -/
theorem skipValueFrom_succ_iff {fuel : Nat} {stack : List Container} :
    skipValueFrom (fuel + 1) stack c = .ok c' ↔
      (∃ container : Container, c.skipBlank.rest.head? = some (.char container.opening) ∧
        ((c.skipBlank.advance.skipBlank.rest.head? = some (.char container.closing) ∧
            skipOn fuel stack c.skipBlank.advance.skipBlank.advance = .ok c') ∨
          ((c.skipBlank.advance.skipBlank.rest.head? ≠ none ∧
            c.skipBlank.advance.skipBlank.rest.head? ≠ some (.char container.closing)) ∧
            (Moves (skipToValue container)).comp (Moves (skipValueFrom fuel (container :: stack)))
              c.skipBlank.advance.skipBlank c'))) ∨
      ((∀ container : Container, c.skipBlank.rest.head? ≠ some (.char container.opening)) ∧
        (Moves skipScalar).comp (Moves (skipOn fuel stack)) c.skipBlank c') := by
  simp only [← peek?_eq_some_iff, ← Container.opened?_eq_some_iff, ne_eq, ← isEmpty_rest_iff]
  rw [skipValueFrom]
  generalize c.skipBlank = start
  dsimp only
  cases hopened : Container.opened? start.peek? with
  | some container =>
    generalize start.advance.skipBlank = inside
    have hclosed (hclosing : inside.peek? = some container.closing) :
        ¬inside.rest.isEmpty = true := fun hempty =>
      rest_ne_nil_of_peek hclosing (List.isEmpty_iff.mp hempty)
    simp only [Option.some.injEq, exists_eq_left']
    rw [or_iff_left fun h => h.1 container rfl]
    split
    · next hempty =>
      refine iff_of_false (fun h => by cases h) ?_
      rintro (⟨hclosing, -⟩ | ⟨⟨hsome, -⟩, -⟩)
      exacts [hclosed hclosing hempty, hsome hempty]
    next hsome =>
    split
    · next hclosing =>
      rw [or_iff_left fun h => h.1.2 hclosing, and_iff_right hclosing]
      rfl
    · next hclosing =>
      rw [or_iff_right fun h => hclosing h.1, and_iff_right ⟨hsome, hclosing⟩]
      exact bind_eq_ok_iff
  | none =>
    simp only [reduceCtorEq, false_and, exists_false, false_or, not_false_eq_true, implies_true,
      true_and]
    exact bind_eq_ok_iff

/-- What is behind a value is skipped by its own glyphs, if the values in there are. -/
theorem local_skipOn {fuel : Nat} (hskip : ∀ stack, (Moves (skipValueFrom fuel stack)).Local 1)
    (stack : List Container) : (Moves (skipOn fuel stack)).Local 0 :=
  Local.congr (Local.any fun after => (local_skipEnds stack after).comp
    ((Local.given fun _ => local_stay).or
      (.given fun _ => (hskip after).anti (Nat.zero_le 1)))) fun _ _ => skipOn_iff

/-- **A value that is skipped is skipped by its own glyphs**, for each bound of the loop. -/
theorem local_skipValueFrom (fuel : Nat) (stack : List Container) :
    (Moves (skipValueFrom fuel stack)).Local 1 := by
  induction fuel generalizing stack with
  | zero => exact fun _ _ h => by cases h
  | succ fuel ih =>
    have hon := local_skipOn ih
    have hopened (container : Container) : Way.Local 1 ((glyph (.char container.opening)).comp
        (blanks.comp fun c c' =>
          (glyph (.char container.closing)).comp (Moves (skipOn fuel stack)) c c' ∨
          ((c.rest.head? ≠ none ∧ c.rest.head? ≠ some (.char container.closing)) ∧
            (Moves (skipToValue container)).comp (Moves (skipValueFrom fuel (container :: stack)))
              c c'))) :=
      (local_glyph _).comp (local_blanks.comp ((((local_glyph _).comp (hon stack)).anti
        (Nat.zero_le 1)).or ((((local_skipToValue container).comp (ih (container :: stack))).anti
          (Nat.zero_le 1)).guard fun g => g ≠ none ∧ g ≠ some (.char container.closing))))
    have hscalar : Way.Local 1 fun c c' =>
        (∀ container : Container, c.rest.head? ≠ some (.char container.opening)) ∧
          (Moves skipScalar).comp (Moves (skipOn fuel stack)) c c' :=
      (local_skipScalar.comp (hon stack)).guard fun g => ∀ container : Container,
        g ≠ some (.char container.opening)
    refine ((local_blanks.comp ((Local.any hopened).or hscalar)).anti (Nat.zero_add 1).ge).congr
      fun c c' => skipValueFrom_succ_iff.trans ?_
    simp only [blanks_comp_iff, glyph_comp_iff]
    rfl

/-- Rounds that are not needed make no difference. -/
theorem skipValueFrom_of_fuel {fuel fuel' : Nat} {stack : List Container}
    (h : skipValueFrom fuel stack c = .ok c') (hfuel : c.rest.length < fuel' + c'.rest.length) :
    skipValueFrom fuel' stack c = .ok c' := by
  have hlength := (local_skipValueFrom fuel stack).length_le h
  induction fuel generalizing fuel' stack c with
  | zero => cases h
  | succ fuel ih =>
    obtain ⟨fuel', rfl⟩ : ∃ less, fuel' = less + 1 := Nat.exists_eq_succ_of_ne_zero (by omega)
    have hstart := length_skipBlank_le c
    -- What is behind the glyphs of this round has fewer glyphs, and a round less is enough for it.
    have hon {stack : List Container} {start : Cursor} (h : skipOn fuel stack start = .ok c')
        (hlt : start.rest.length < c.rest.length) : skipOn fuel' stack start = .ok c' := by
      obtain ⟨after, c₁, hends, hrest⟩ := skipOn_iff.mp h
      have hends' := (local_skipEnds stack after).length_le hends
      refine skipOn_iff.mpr ⟨after, c₁, hends, hrest.imp_right ?_⟩
      rintro ⟨hafter, h⟩
      exact ⟨hafter, ih h (by omega) ((local_skipValueFrom fuel after).length_le h)⟩
    refine skipValueFrom_succ_iff.mpr ((skipValueFrom_succ_iff.mp h).imp ?_ ?_)
    · rintro ⟨container, hopening, hinside⟩
      have hopening' := length_advance_lt (rest_ne_nil_of_peek (peek?_eq_some_iff.mpr hopening))
      have hinside' := length_skipBlank_le c.skipBlank.advance
      refine ⟨container, hopening, hinside.imp ?_ ?_⟩
      · rintro ⟨hclosing, h⟩
        have := length_advance_lt (rest_ne_nil_of_peek (peek?_eq_some_iff.mpr hclosing))
        exact ⟨hclosing, hon h (by omega)⟩
      · rintro ⟨hvalue, c₁, hto, h⟩
        have hto' := (local_skipToValue container).length_le hto
        exact ⟨hvalue, c₁, hto, ih h (by omega)
          ((local_skipValueFrom fuel _).length_le h)⟩
    · rintro ⟨hscalar, c₁, hskip, h⟩
      have hskip' := local_skipScalar.length_le hskip
      exact ⟨hscalar, c₁, hskip, hon h (by omega)⟩

/-- **A value is skipped by its own glyphs.** -/
theorem local_skipValue : (Moves skipValue).Local 1 :=
  Local.rounds (L := fun fuel => Moves (skipValueFrom fuel []))
    (fun fuel => local_skipValueFrom fuel []) skipValueFrom_of_fuel

end Cursor

end Json

end TaskDaemon
