import Mathlib.Order.Nat
import TaskDaemon.Json.Document
import TaskDaemon.Proofs.Attempt

/-!
# What reading a value goes through

The loops over the items of an array and over the members of an object come with a bound on their
rounds and with what was taken before. Here they are said without these, as relations between the
cursor where they start, what they find, and the cursor at the bracket or brace where they end:
`TaskDaemon.Json.Cursor.Items` and `TaskDaemon.Json.Cursor.Members`. Whatever is proved about
reading is proved by induction on these.

* `TaskDaemon.Json.Cursor.items_of_readItems`, `TaskDaemon.Json.Cursor.readItems_of_items`: an array
  is read as some items exactly if there are such items, and few enough of them;
* `TaskDaemon.Json.Cursor.members_of_readMembers`, `TaskDaemon.Json.Cursor.readMembers_of_members`:
  the same for objects;
* `TaskDaemon.Json.Cursor.readValue_eq_ok`: the three ways in which a value is read, and
  `TaskDaemon.Json.Cursor.readValue_of_items`, `TaskDaemon.Json.Cursor.readValue_of_members`,
  `TaskDaemon.Json.Cursor.readValue_of_scalar` in the other direction.
-/

namespace TaskDaemon

namespace Json

namespace Cursor

open Attempt

variable {c c' : Cursor}

/-! ### Blanks -/

theorem skipBlankFrom_skipBlankFrom (glyphs : List Glyph) (offset : Nat) :
    (skipBlankFrom glyphs offset).skipBlank = skipBlankFrom glyphs offset := by
  induction glyphs generalizing offset with
  | nil => rfl
  | cons glyph rest ih =>
    unfold skipBlankFrom
    split
    · exact ih (offset + 1)
    · next hother =>
      unfold skipBlank skipBlankFrom
      rw [if_neg hother]

/-- Behind blanks there are no blanks. -/
@[simp]
theorem skipBlank_skipBlank (c : Cursor) : c.skipBlank.skipBlank = c.skipBlank :=
  skipBlankFrom_skipBlankFrom c.rest c.offset

theorem length_skipBlankFrom_le (glyphs : List Glyph) (offset : Nat) :
    (skipBlankFrom glyphs offset).rest.length ≤ glyphs.length := by
  induction glyphs generalizing offset with
  | nil => exact Nat.le_refl 0
  | cons glyph rest ih =>
    unfold skipBlankFrom
    split
    · exact Nat.le_trans (ih (offset + 1)) (Nat.le_succ _)
    · exact Nat.le_refl _

theorem length_skipBlank_le (c : Cursor) : c.skipBlank.rest.length ≤ c.rest.length :=
  length_skipBlankFrom_le c.rest c.offset

theorem length_advance_le (c : Cursor) : c.advance.rest.length ≤ c.rest.length := by
  unfold advance
  rw [List.length_tail]
  omega

theorem length_advance_lt (h : c.rest ≠ []) : c.advance.rest.length < c.rest.length := by
  unfold advance
  have hpos := List.length_pos_iff.mpr h
  rw [List.length_tail]
  omega

theorem rest_ne_nil_of_peek {ch : Char} (h : c.peek? = some ch) : c.rest ≠ [] := by
  intro hnil
  unfold peek? at h
  rw [hnil] at h
  cases h

/-! ### Whether a container goes on -/

/-- **An array goes on** at its first item, or behind a comma. -/
theorem hasNextItem_eq_true {first : Bool} (h : hasNextItem first c = .ok (true, c')) :
    c'.rest ≠ [] ∧ c'.peek? ≠ some ']' ∧
      ((first = true ∧ c' = c.skipBlank) ∨
        (first = false ∧ c.skipBlank.peek? = some ',' ∧ c' = c.skipBlank.advance.skipBlank)) := by
  unfold hasNextItem at h
  dsimp only at h
  split at h
  · cases h
  next hrest =>
  split at h
  · cases h
  next hend =>
  split at h
  · next hfirst =>
    obtain rfl := (Prod.mk.inj (Except.ok.inj h)).2
    exact ⟨fun heq => hrest (List.isEmpty_iff.mpr heq), hend, Or.inl ⟨hfirst, rfl⟩⟩
  next hfirst =>
  split at h
  · next hcomma =>
    split at h
    · cases h
    next hrest' =>
    split at h
    · cases h
    next hend' =>
    obtain rfl := (Prod.mk.inj (Except.ok.inj h)).2
    exact ⟨fun heq => hrest' (List.isEmpty_iff.mpr heq), hend',
      Or.inr ⟨Bool.eq_false_iff.mpr hfirst, hcomma, rfl⟩⟩
  · cases h

theorem hasNextItem_eq_false {first : Bool} (h : hasNextItem first c = .ok (false, c')) :
    c' = c.skipBlank ∧ c'.peek? = some ']' := by
  unfold hasNextItem at h
  dsimp only at h
  split at h
  · cases h
  split at h
  · next hend =>
    obtain rfl := (Prod.mk.inj (Except.ok.inj h)).2
    exact ⟨rfl, hend⟩
  split at h
  · cases h
  split at h
  · split at h
    · cases h
    split at h <;> cases h
  · cases h

/-- **An object goes on** at its first key, or behind a comma. -/
theorem hasNextMember_eq_true {first : Bool} (h : hasNextMember first c = .ok (true, c')) :
    c'.peek? = some '"' ∧
      ((first = true ∧ c' = c.skipBlank) ∨
        (first = false ∧ c.skipBlank.peek? = some ',' ∧ c' = c.skipBlank.advance.skipBlank)) := by
  unfold hasNextMember at h
  dsimp only at h
  split at h
  · cases h
  split at h
  · cases h
  split at h
  · next hfirst =>
    split at h
    · next hquote =>
      obtain rfl := (Prod.mk.inj (Except.ok.inj h)).2
      exact ⟨hquote, Or.inl ⟨hfirst, rfl⟩⟩
    · cases h
  next hfirst =>
  split at h
  · next hcomma =>
    split at h
    · cases h
    split at h
    · next hquote =>
      obtain rfl := (Prod.mk.inj (Except.ok.inj h)).2
      exact ⟨hquote, Or.inr ⟨Bool.eq_false_iff.mpr hfirst, hcomma, rfl⟩⟩
    · split at h <;> cases h
  · cases h

theorem hasNextMember_eq_false {first : Bool} (h : hasNextMember first c = .ok (false, c')) :
    c' = c.skipBlank ∧ c'.peek? = some '\x7d' := by
  unfold hasNextMember at h
  dsimp only at h
  split at h
  · cases h
  split at h
  · next hend =>
    obtain rfl := (Prod.mk.inj (Except.ok.inj h)).2
    exact ⟨rfl, hend⟩
  split at h
  · split at h <;> cases h
  split at h
  · split at h
    · cases h
    split at h
    · cases h
    split at h <;> cases h
  · cases h

/-! ### The loops as relations -/

/-- **The items of an array** from the cursor `c` on, up to its bracket at `c'`. Unless they are the
first, each stands behind a comma. -/
inductive Items (one : Cursor → Read Json) : Bool → Cursor → List Json → Cursor → Prop
  /-- There is no other item. -/
  | done {first : Bool} {c c' : Cursor} (hnext : hasNextItem first c = .ok (false, c')) :
    Items one first c [] c'
  /-- There is an item, and then those behind it. -/
  | item {first : Bool} {c start behind c' : Cursor} {value : Json} {values : List Json}
    (hnext : hasNextItem first c = .ok (true, start)) (hvalue : one start = .ok (value, behind))
    (hmore : Items one false behind values c') : Items one first c (value :: values) c'

/-- **The members of an object** from the cursor `c` on, up to its brace at `c'`. -/
inductive Members (one : Cursor → Read Json) : Bool → Cursor → List (String × Json) → Cursor → Prop
  /-- There is no other member. -/
  | done {first : Bool} {c c' : Cursor} (hnext : hasNextMember first c = .ok (false, c')) :
    Members one first c [] c'
  /-- There is a member, and then those behind it. -/
  | member {first : Bool} {c start colon place behind c' : Cursor} {key : String} {value : Json}
    {members : List (String × Json)} (hnext : hasNextMember first c = .ok (true, start))
    (hkey : readString start.advance = .ok (key, colon)) (hcolon : readColon colon = .ok place)
    (hvalue : one place = .ok (value, behind)) (hmore : Members one false behind members c') :
    Members one first c ((key, value) :: members) c'

variable {one : Cursor → Read Json}

/-- **What an array is read as** are its items. -/
theorem items_of_readItems {fuel : Nat} {before all : List Json}
    (h : readItems one fuel before c = .ok (all, c')) :
    ∃ items, all = before.reverse ++ items ∧ items.length < fuel ∧
      Items one before.isEmpty c items c' := by
  induction fuel generalizing before c with
  | zero => cases h
  | succ fuel ih =>
    unfold readItems at h
    obtain ⟨⟨more, start⟩, hnext, h⟩ := bind_eq_ok_iff.mp h
    have hnext := mapError_eq_ok_iff.mp hnext
    cases more with
    | false =>
      obtain ⟨rfl, rfl⟩ := Prod.mk.inj (Except.ok.inj h)
      exact ⟨[], (List.append_nil _).symm, Nat.succ_pos fuel, .done hnext⟩
    | true =>
      obtain ⟨⟨value, behind⟩, hvalue, h⟩ := bind_eq_ok_iff.mp h
      obtain ⟨items, rfl, hlength, hitems⟩ := ih h
      refine ⟨value :: items, ?_, Nat.succ_lt_succ hlength,
        .item hnext (mapError_eq_ok_iff.mp hvalue) hitems⟩
      rw [List.reverse_cons, List.append_assoc, List.singleton_append]

/-- **The items of an array** are what it is read as. -/
theorem readItems_of_items {first : Bool} {items : List Json} (h : Items one first c items c')
    {fuel : Nat} (hfuel : items.length < fuel) {before : List Json}
    (hfirst : before.isEmpty = first) :
    readItems one fuel before c = .ok (before.reverse ++ items, c') := by
  induction h generalizing fuel before with
  | done hnext =>
    obtain ⟨fuel, rfl⟩ := Nat.exists_eq_succ_of_ne_zero (Nat.ne_zero_of_lt hfuel)
    rw [List.append_nil, readItems, hfirst, hnext]
    rfl
  | item hnext hvalue hmore ih =>
    obtain ⟨fuel, rfl⟩ := Nat.exists_eq_succ_of_ne_zero (Nat.ne_zero_of_lt hfuel)
    rw [readItems, hfirst, hnext]
    refine bind_eq_ok_iff.mpr ⟨_, rfl, bind_eq_ok_iff.mpr ⟨_, mapError_eq_ok_iff.mpr hvalue, ?_⟩⟩
    refine (ih (Nat.lt_of_succ_lt_succ hfuel) rfl).trans ?_
    rw [List.reverse_cons, List.append_assoc, List.singleton_append]

theorem keepMember_eq_ok_iff {one : Cursor → Read Json} {key : String}
    {taken after : List (String × Json)} :
    keepMember one key taken c = .ok (after, c') ↔
      ∃ start value, readColon c = .ok start ∧ one start = .ok (value, c') ∧
        after = (key, value) :: taken := by
  unfold keepMember
  constructor
  · intro h
    obtain ⟨start, hcolon, h⟩ := bind_eq_ok_iff.mp h
    obtain ⟨⟨value, behind⟩, hvalue, h⟩ := bind_eq_ok_iff.mp h
    obtain ⟨rfl, rfl⟩ := Prod.mk.inj (Except.ok.inj h)
    exact ⟨start, value, hcolon, hvalue, rfl⟩
  · rintro ⟨start, value, hcolon, hvalue, rfl⟩
    exact bind_eq_ok_iff.mpr ⟨start, hcolon, bind_eq_ok_iff.mpr ⟨(value, c'), hvalue, rfl⟩⟩

/-- **What an object is read as** are its members, the last one first. -/
theorem members_of_readMembers {fuel : Nat} {first : Bool} {before all : List (String × Json)}
    (h : readMembers (keepMember one) fuel first before c = .ok (all, c')) :
    ∃ members, all = members.reverse ++ before ∧ members.length < fuel ∧
      Members one first c members c' := by
  induction fuel generalizing first before c with
  | zero => cases h
  | succ fuel ih =>
    unfold readMembers at h
    obtain ⟨⟨more, start⟩, hnext, h⟩ := bind_eq_ok_iff.mp h
    cases more with
    | false =>
      obtain ⟨rfl, rfl⟩ := Prod.mk.inj (Except.ok.inj h)
      exact ⟨[], rfl, Nat.succ_pos fuel, .done hnext⟩
    | true =>
      obtain ⟨⟨key, colon⟩, hkey, h⟩ := bind_eq_ok_iff.mp h
      obtain ⟨⟨taken, behind⟩, hmember, h⟩ := bind_eq_ok_iff.mp h
      obtain ⟨start', value, hcolon, hvalue, rfl⟩ := keepMember_eq_ok_iff.mp hmember
      obtain ⟨members, rfl, hlength, hmembers⟩ := ih h
      refine ⟨(key, value) :: members, ?_, Nat.succ_lt_succ hlength,
        .member hnext hkey hcolon hvalue hmembers⟩
      rw [List.reverse_cons, List.append_assoc, List.singleton_append]

/-- **The members of an object** are what it is read as. -/
theorem readMembers_of_members {first : Bool} {members : List (String × Json)}
    (h : Members one first c members c') {fuel : Nat} (hfuel : members.length < fuel)
    (before : List (String × Json)) :
    readMembers (keepMember one) fuel first before c = .ok (members.reverse ++ before, c') := by
  induction h generalizing fuel before with
  | done hnext =>
    obtain ⟨fuel, rfl⟩ := Nat.exists_eq_succ_of_ne_zero (Nat.ne_zero_of_lt hfuel)
    rw [readMembers, hnext]
    rfl
  | member hnext hkey hcolon hvalue hmore ih =>
    obtain ⟨fuel, rfl⟩ := Nat.exists_eq_succ_of_ne_zero (Nat.ne_zero_of_lt hfuel)
    rw [readMembers, hnext]
    refine bind_eq_ok_iff.mpr ⟨_, rfl, bind_eq_ok_iff.mpr ⟨_, hkey, bind_eq_ok_iff.mpr
      ⟨_, keepMember_eq_ok_iff.mpr ⟨_, _, hcolon, hvalue, rfl⟩, ?_⟩⟩⟩
    refine (ih (Nat.lt_of_succ_lt_succ hfuel) _).trans ?_
    rw [List.reverse_cons, List.append_assoc, List.singleton_append]

/-- **The three ways to read a value**: an array, an object, and a value without parts. -/
theorem readValue_eq_ok {depth : Nat} {value : Json} (h : readValue depth c = .ok (value, c')) :
    (∃ less items after, depth = less + 1 ∧ c.skipBlank.peek? = some '[' ∧
        items.length < c.skipBlank.advance.rounds ∧
        Items (readValue less) true c.skipBlank.advance items after ∧
        value = .array items ∧ c' = after.advance) ∨
      (∃ less members after, depth = less + 1 ∧ c.skipBlank.peek? = some '\x7b' ∧
        members.length < c.skipBlank.advance.rounds ∧
        Members (readValue less) true c.skipBlank.advance members after ∧
        value = .object members ∧ c' = after.advance) ∨
      (c.skipBlank.peek? ≠ some '[' ∧ c.skipBlank.peek? ≠ some '\x7b' ∧
        readScalar c.skipBlank = .ok (value, c')) := by
  have hwith : readValue depth c =
      readValueWith (match depth with | 0 => none | less + 1 => some (readValue less)) c := by
    cases depth <;> rfl
  rw [hwith] at h
  unfold readValueWith at h
  dsimp only at h
  split at h
  · next hbracket =>
    cases depth with
    | zero => cases h
    | succ less =>
      obtain ⟨⟨all, after⟩, hread, h⟩ := bind_eq_ok_iff.mp h
      obtain ⟨rfl, rfl⟩ := Prod.mk.inj (Except.ok.inj h)
      obtain ⟨items, hall, hlength, hitems⟩ := items_of_readItems hread
      exact Or.inl
        ⟨less, items, after, rfl, hbracket, hlength, hitems, congrArg Json.array hall, rfl⟩
  next hbracket =>
  split at h
  · next hbrace =>
    cases depth with
    | zero => cases h
    | succ less =>
      obtain ⟨⟨all, after⟩, hread, h⟩ := bind_eq_ok_iff.mp h
      obtain ⟨rfl, rfl⟩ := Prod.mk.inj (Except.ok.inj h)
      obtain ⟨members, rfl, hlength, hmembers⟩ := members_of_readMembers hread
      refine Or.inr (Or.inl ⟨less, members, after, rfl, hbrace, hlength, hmembers, ?_, rfl⟩)
      rw [List.append_nil, List.reverse_reverse]
  next hbrace => exact Or.inr (Or.inr ⟨hbracket, hbrace, h⟩)

/-- **An array is read** as its items. -/
theorem readValue_of_items {depth : Nat} {items : List Json} (hpeek : c.skipBlank.peek? = some '[')
    (hitems : Items (readValue depth) true c.skipBlank.advance items c')
    (hlength : items.length < c.skipBlank.advance.rounds) :
    readValue (depth + 1) c = .ok (.array items, c'.advance) := by
  have hread := readItems_of_items hitems hlength List.isEmpty_nil
  simp only [readValue, readValueWith]
  rw [if_pos hpeek, hread]
  rfl

/-- **An object is read** as its members. -/
theorem readValue_of_members {depth : Nat} {members : List (String × Json)}
    (hpeek : c.skipBlank.peek? = some '\x7b')
    (hmembers : Members (readValue depth) true c.skipBlank.advance members c')
    (hlength : members.length < c.skipBlank.advance.rounds) :
    readValue (depth + 1) c = .ok (.object members, c'.advance) := by
  have hread := readMembers_of_members hmembers hlength []
  simp only [readValue, readValueWith]
  rw [if_neg (by rw [hpeek]; decide), if_pos hpeek, hread]
  simp only [bind, Except.bind, List.append_nil, List.reverse_reverse]

/-- **Anything else** is a value without parts. -/
theorem readValue_of_scalar (depth : Nat) (hbracket : c.skipBlank.peek? ≠ some '[')
    (hbrace : c.skipBlank.peek? ≠ some '\x7b') : readValue depth c = readScalar c.skipBlank := by
  cases depth <;> simp only [readValue, readValueWith, if_neg hbracket, if_neg hbrace]

end Cursor

end Json

end TaskDaemon
