import TaskDaemon.Proofs.Json.Numerals

/-!
# Reading the text of a value

What `TaskDaemon.Json.render` writes, `TaskDaemon.Json.parse` reads as what it was
(`TaskDaemon.Json.parse_render`), for the values that are read back at all: those whose numbers are
read back and whose containers nest no deeper than a reader goes (`TaskDaemon.Json.Readable`).

The lemma behind it is about a value in front of any other text
(`TaskDaemon.Json.readValue_chars`), so that it passes through items and members.
-/

namespace TaskDaemon

namespace Json

namespace Cursor

/-! ### What stands in front -/

theorem skipBlank_cons {g : Glyph} (h : isSeparator g = false) (rest : List Glyph)
    (offset : Nat) : (⟨g :: rest, offset⟩ : Cursor).skipBlank = ⟨g :: rest, offset⟩ := by
  unfold skipBlank skipBlankFrom
  rw [if_neg (by rw [h]; decide)]

@[simp]
theorem peek_cons (ch : Char) (rest : List Glyph) (offset : Nat) :
    (⟨.char ch :: rest, offset⟩ : Cursor).peek? = some ch := rfl

@[simp]
theorem advance_cons (glyph : Glyph) (rest : List Glyph) (offset : Nat) :
    (⟨glyph :: rest, offset⟩ : Cursor).advance = ⟨rest, offset + 1⟩ := rfl

/-- **An array behind its bracket.** -/
theorem readValue_bracket {depth : Nat} {rest : List Glyph} {offset : Nat} {items : List Json}
    {c' : Cursor} (hitems : Items (readValue depth) true ⟨rest, offset + 1⟩ items c')
    (hlength : items.length ≤ rest.length) :
    readValue (depth + 1) ⟨.char '[' :: rest, offset⟩ = .ok (.array items, c'.advance) :=
  readValue_of_items (c := ⟨.char '[' :: rest, offset⟩) rfl hitems (Nat.lt_succ_of_le hlength)

/-- **An object behind its brace.** -/
theorem readValue_brace {depth : Nat} {rest : List Glyph} {offset : Nat}
    {members : List (String × Json)} {c' : Cursor}
    (hmembers : Members (readValue depth) true ⟨rest, offset + 1⟩ members c')
    (hlength : members.length ≤ rest.length) :
    readValue (depth + 1) ⟨.char '\x7b' :: rest, offset⟩ = .ok (.object members, c'.advance) :=
  readValue_of_members (c := ⟨.char '\x7b' :: rest, offset⟩) rfl hmembers
    (Nat.lt_succ_of_le hlength)

/-- **A value without parts** is known by its first character. -/
theorem readValue_cons {ch : Char} (hblank : isSeparator (.char ch) = false)
    (hother : ch ∉ ['[', ']', '\x7b']) (depth : Nat) (rest : List Glyph) (offset : Nat) :
    readValue depth ⟨.char ch :: rest, offset⟩ = readScalar ⟨.char ch :: rest, offset⟩ := by
  have hsame := skipBlank_cons hblank rest offset
  have hread := readValue_of_scalar (c := ⟨.char ch :: rest, offset⟩) depth
    (by rw [hsame]; rintro heq; simp_all) (by rw [hsame]; rintro heq; simp_all)
  rwa [hsame] at hread

/-- An item is met at its start, if it is the first one. -/
theorem hasNextItem_first {ch : Char} (hblank : isSeparator (.char ch) = false) (hend : ch ≠ ']')
    (rest : List Glyph) (offset : Nat) :
    hasNextItem true ⟨.char ch :: rest, offset⟩ = .ok (true, ⟨.char ch :: rest, offset⟩) := by
  simp [hasNextItem, skipBlank_cons hblank, hend]

/-- An item is met behind its comma, if it is another one. -/
theorem hasNextItem_comma {ch : Char} (hblank : isSeparator (.char ch) = false) (hend : ch ≠ ']')
    (rest : List Glyph) (offset : Nat) :
    hasNextItem false ⟨.char ',' :: .char ch :: rest, offset⟩ =
      .ok (true, ⟨.char ch :: rest, offset + 1⟩) := by
  simp [hasNextItem, skipBlank_cons (g := .char ',') rfl, skipBlank_cons hblank, hend]

theorem hasNextItem_bracket (first : Bool) (rest : List Glyph) (offset : Nat) :
    hasNextItem first ⟨.char ']' :: rest, offset⟩ = .ok (false, ⟨.char ']' :: rest, offset⟩) := by
  simp [hasNextItem, skipBlank_cons (g := .char ']') rfl]

theorem hasNextMember_first (rest : List Glyph) (offset : Nat) :
    hasNextMember true ⟨.char '"' :: rest, offset⟩ = .ok (true, ⟨.char '"' :: rest, offset⟩) := by
  simp [hasNextMember, skipBlank_cons (g := .char '"') rfl]

theorem hasNextMember_comma (rest : List Glyph) (offset : Nat) :
    hasNextMember false ⟨.char ',' :: .char '"' :: rest, offset⟩ =
      .ok (true, ⟨.char '"' :: rest, offset + 1⟩) := by
  simp [hasNextMember, skipBlank_cons (g := .char ',') rfl,
    skipBlank_cons (g := .char '"') rfl]

theorem hasNextMember_brace (first : Bool) (rest : List Glyph) (offset : Nat) :
    hasNextMember first ⟨.char '\x7d' :: rest, offset⟩ =
      .ok (false, ⟨.char '\x7d' :: rest, offset⟩) := by
  simp [hasNextMember, skipBlank_cons (g := .char '\x7d') rfl]

theorem readColon_colon (rest : List Glyph) (offset : Nat) :
    readColon ⟨.char ':' :: rest, offset⟩ = .ok ⟨rest, offset + 1⟩ := by
  simp [readColon, skipBlank_cons (g := .char ':') rfl]

end Cursor

/-! ### Values -/

mutual

/-- **A value that is read back**: its numbers are, and no more than `depth` of its containers lie
in one another. -/
def Readable : Nat → Json → Prop
  | _, .null => True
  | _, .bool _ => True
  | _, .number n => n.ReadsBack
  | _, .string _ => True
  | 0, .array _ => False
  | depth + 1, .array items => ReadableItems depth items
  | 0, .object _ => False
  | depth + 1, .object members => ReadableMembers depth members

/-- The same of all items. -/
def ReadableItems : Nat → List Json → Prop
  | _, [] => True
  | depth, item :: items => Readable depth item ∧ ReadableItems depth items

/-- The same of all members. -/
def ReadableMembers : Nat → List (String × Json) → Prop
  | _, [] => True
  | depth, m :: members => Readable depth m.2 ∧ ReadableMembers depth members

end

theorem ReadableMembers.insertMember {depth : Nat} {key : String} {value : Json}
    (hvalue : Readable depth value) : ∀ {members : List (String × Json)},
      ReadableMembers depth members → ReadableMembers depth (insertMember key value members)
  | [], _ => ⟨hvalue, trivial⟩
  | (name, given) :: rest, h => by
    obtain ⟨hgiven, hrest⟩ := h
    unfold Json.insertMember
    split
    · exact ⟨hvalue, hgiven, hrest⟩
    split
    · exact ⟨hvalue, hrest⟩
    · exact ⟨hgiven, hrest.insertMember hvalue⟩

mutual

/-- **The canonical form of a value is read back** if the value is. -/
theorem readable_canonical : ∀ {depth : Nat} {value : Json}, Readable depth value →
    Readable depth value.canonical
  | _, .null, h => h
  | _, .bool _, h => h
  | _, .number _, h => h
  | _, .string _, h => h
  | 0, .array _, h => absurd h (by simp [Readable])
  | _ + 1, .array _, h => readableItems_canonical h
  | 0, .object _, h => absurd h (by simp [Readable])
  | _ + 1, .object _, h => readableMembers_canonical h trivial

theorem readableItems_canonical : ∀ {depth : Nat} {items : List Json}, ReadableItems depth items →
    ReadableItems depth (canonicalItems items)
  | _, [], _ => trivial
  | _, item :: items, h => by
    obtain ⟨hitem, hitems⟩ := h
    exact ⟨readable_canonical hitem, readableItems_canonical hitems⟩

theorem readableMembers_canonical : ∀ {depth : Nat} {members done : List (String × Json)},
    ReadableMembers depth members → ReadableMembers depth done →
      ReadableMembers depth (canonicalMembers members done)
  | _, [], _, _, hdone => hdone
  | _, (key, value) :: members, _, h, hdone => by
    obtain ⟨hvalue, hmembers⟩ := h
    rw [canonicalMembers]
    exact readableMembers_canonical hmembers (hdone.insertMember (readable_canonical hvalue))

end

/-- The items of an array behind its first one, each behind its comma. -/
def itemsTail : List Json → List Char
  | [] => []
  | item :: items => ',' :: (item.chars ++ itemsTail items)

/-- The members of an object behind its first one. -/
def membersTail : List (String × Json) → List Char
  | [] => []
  | (key, value) :: members =>
    ',' :: (quotedChars key.toList ++ ':' :: (value.chars ++ membersTail members))

theorem itemsChars_cons (item : Json) (items : List Json) :
    itemsChars (item :: items) = item.chars ++ itemsTail items := by
  induction items generalizing item with
  | nil => simp [itemsChars, itemsTail]
  | cons next items ih =>
    rw [itemsChars, ih, itemsTail]
    exact List.cons_ne_nil next items

theorem membersChars_cons (key : String) (value : Json) (members : List (String × Json)) :
    membersChars ((key, value) :: members) =
      quotedChars key.toList ++ ':' :: (value.chars ++ membersTail members) := by
  induction members generalizing key value with
  | nil => simp [membersChars, membersTail]
  | cons next members ih =>
    obtain ⟨name, given⟩ := next
    rw [membersChars, ih, membersTail]
    · simp
    · exact List.cons_ne_nil _ members

theorem length_le_itemsTail (items : List Json) : items.length ≤ (itemsTail items).length := by
  induction items with
  | nil => exact Nat.le_refl 0
  | cons item items ih =>
    simp only [itemsTail, List.length_cons, List.length_append]
    omega

theorem length_le_membersTail (members : List (String × Json)) :
    members.length ≤ (membersTail members).length := by
  induction members with
  | nil => exact Nat.le_refl 0
  | cons m members ih =>
    simp only [membersTail, List.length_cons, List.length_append]
    omega

/-- **How the text of a value starts**: with no blank, and with no bracket that ends an array. -/
theorem exists_chars_eq_cons {depth : Nat} : ∀ {value : Json}, Readable depth value →
    ∃ ch more, value.chars = ch :: more ∧ Cursor.isSeparator (.char ch) = false ∧ ch ≠ ']'
  | .null, _ => ⟨'n', _, rfl, by decide⟩
  | .bool true, _ => ⟨'t', _, rfl, by decide⟩
  | .bool false, _ => ⟨'f', _, rfl, by decide⟩
  | .number _, h => by
    obtain ⟨ch, more, htext, hblank, hother⟩ := Cursor.exists_chars_eq_cons_of_readsBack h
    exact ⟨ch, more, htext, hblank, fun heq => hother (by simp [heq])⟩
  | .string s, _ => ⟨'"', _, rfl, by decide⟩
  | .array items, _ => ⟨'[', _, rfl, by decide⟩
  | .object members, _ => ⟨'\x7b', _, rfl, by decide⟩

open Cursor

theorem closed_tail (tail : List Char) (hcomma : ∀ ch ∈ tail.head?, ch = ',') {last : Char}
    (hlast : last = ']' ∨ last = '\x7d') (rest : List Glyph) :
    Closed (shown tail ++ .char last :: rest) := by
  have hclosed : ∀ ch more, ch = ',' ∨ ch = ']' ∨ ch = '\x7d' → Closed (.char ch :: more) := by
    rintro ch more hch glyph hglyph
    obtain rfl : Glyph.char ch = glyph := Option.some.inj hglyph
    rcases hch with rfl | rfl | rfl <;> decide
  cases tail with
  | nil => exact hclosed last rest (Or.inr hlast)
  | cons ch tail => exact hclosed ch _ (Or.inl (hcomma ch rfl))

theorem itemsTail_head (items : List Json) : ∀ ch ∈ (itemsTail items).head?, ch = ',' := by
  cases items <;> simp [itemsTail]

theorem membersTail_head (members : List (String × Json)) :
    ∀ ch ∈ (membersTail members).head?, ch = ',' := by
  cases members <;> simp [membersTail]

mutual

/-- **The text of a value is read as the value**, in front of what no number goes on with. -/
theorem readValue_chars : ∀ {depth : Nat} {value : Json}, Readable depth value →
    ∀ {rest : List Glyph}, Closed rest → ∀ offset : Nat, ∃ offset',
      readValue depth ⟨shown value.chars ++ rest, offset⟩ = .ok (value, ⟨rest, offset'⟩)
  | depth, .null, _, rest, _, offset => ⟨offset + 4, by
    exact readValue_cons (by decide) (by decide) depth _ offset⟩
  | depth, .bool true, _, rest, _, offset => ⟨offset + 4, by
    exact readValue_cons (by decide) (by decide) depth _ offset⟩
  | depth, .bool false, _, rest, _, offset => ⟨offset + 5, by
    exact readValue_cons (by decide) (by decide) depth _ offset⟩
  | depth, .number n, h, rest, hrest, offset => by
    obtain ⟨offset', hread⟩ := readScalar_chars h hrest offset
    obtain ⟨ch, more, htext, hblank, hother⟩ := exists_chars_eq_cons_of_readsBack h
    refine ⟨offset', ?_⟩
    change readValue depth ⟨shown n.chars ++ rest, offset⟩ = _
    rw [htext] at hread ⊢
    exact (readValue_cons hblank hother depth _ offset).trans hread
  | depth, .string s, _, rest, _, offset => by
    obtain ⟨offset', hread⟩ := readString_quoted s.toList rest (offset + 1)
    refine ⟨offset', (readValue_cons (by decide : isSeparator (.char '"') = false) (by decide)
      depth _ offset).trans ?_⟩
    change (readString ⟨shown (s.toList.flatMap escape ++ ['"']) ++ rest, offset + 1⟩).map _ = _
    rw [hread, String.ofList_toList]
    rfl
  | 0, .array _, h, _, _, _ => absurd h (by simp [Readable])
  | depth + 1, .array [], _, rest, _, offset => by
    have hnext := hasNextItem_bracket true rest (offset + 1)
    exact ⟨_, readValue_bracket (.done hnext) (Nat.zero_le _)⟩
  | depth + 1, .array (item :: items), h, rest, _, offset => by
    obtain ⟨hitem, hitems⟩ := h
    obtain ⟨ch, more, htext, hblank, hother⟩ := exists_chars_eq_cons hitem
    obtain ⟨behind, hread⟩ := readValue_chars hitem
      (closed_tail _ (itemsTail_head items) (Or.inl rfl) rest) (offset + 1)
    obtain ⟨offset', hmore⟩ := items_itemsTail hitems rest behind
    have hnext := hasNextItem_first hblank hother
      (shown more ++ (shown (itemsTail items) ++ .char ']' :: rest)) (offset + 1)
    have hstart : (⟨shown (chars (.array (item :: items))) ++ rest, offset⟩ : Cursor) =
        ⟨.char '[' :: (shown item.chars ++ (shown (itemsTail items) ++ .char ']' :: rest)),
          offset⟩ := by
      simp [chars, itemsChars_cons]
    rw [hstart]
    have hlength := length_le_itemsTail items
    rw [htext] at hread ⊢
    refine ⟨_, readValue_bracket (.item hnext hread hmore) ?_⟩
    simp only [List.length_cons, List.length_append, List.length_map]
    omega
  | 0, .object _, h, _, _, _ => absurd h (by simp [Readable])
  | depth + 1, .object [], _, rest, _, offset => by
    have hnext := hasNextMember_brace true rest (offset + 1)
    exact ⟨_, readValue_brace (.done hnext) (Nat.zero_le _)⟩
  | depth + 1, .object ((key, value) :: members), h, rest, _, offset => by
    obtain ⟨hvalue, hmembers⟩ := h
    obtain ⟨colon, hkey⟩ := readString_quoted key.toList
      (.char ':' :: (shown value.chars ++ (shown (membersTail members) ++ .char '\x7d' :: rest)))
      (offset + 2)
    obtain ⟨behind, hread⟩ := readValue_chars hvalue
      (closed_tail _ (membersTail_head members) (Or.inr rfl) rest) (colon + 1)
    obtain ⟨offset', hmore⟩ := members_membersTail hmembers rest behind
    rw [String.ofList_toList] at hkey
    have hnext := hasNextMember_first (shown (key.toList.flatMap escape ++ ['"']) ++ .char ':' ::
      (shown value.chars ++ (shown (membersTail members) ++ .char '\x7d' :: rest))) (offset + 1)
    have hstart : (⟨shown (chars (.object ((key, value) :: members))) ++ rest, offset⟩ : Cursor) =
        ⟨.char '\x7b' :: .char '"' :: (shown (key.toList.flatMap escape ++ ['"']) ++ .char ':' ::
          (shown value.chars ++ (shown (membersTail members) ++ .char '\x7d' :: rest))),
          offset⟩ := by
      simp [chars, membersChars_cons, quotedChars]
    rw [hstart]
    have hlength := length_le_membersTail members
    refine ⟨_, readValue_brace (.member hnext hkey (readColon_colon _ colon) hread hmore) ?_⟩
    simp only [List.length_cons, List.length_append, List.length_map]
    omega

theorem items_itemsTail : ∀ {depth : Nat} {items : List Json}, ReadableItems depth items →
    ∀ (rest : List Glyph) (offset : Nat), ∃ offset',
      Items (readValue depth) false ⟨shown (itemsTail items) ++ .char ']' :: rest, offset⟩ items
        ⟨.char ']' :: rest, offset'⟩
  | _, [], _, rest, offset => ⟨offset, .done (hasNextItem_bracket false rest offset)⟩
  | depth, item :: items, h, rest, offset => by
    obtain ⟨hitem, hitems⟩ := h
    obtain ⟨ch, more, htext, hblank, hother⟩ := exists_chars_eq_cons hitem
    obtain ⟨behind, hread⟩ := readValue_chars hitem
      (closed_tail _ (itemsTail_head items) (Or.inl rfl) rest) (offset + 1)
    obtain ⟨offset', hmore⟩ := items_itemsTail hitems rest behind
    refine ⟨offset', .item ?_ hread hmore⟩
    rw [itemsTail, htext]
    simpa using hasNextItem_comma hblank hother
      (shown more ++ (shown (itemsTail items) ++ .char ']' :: rest)) offset

theorem members_membersTail : ∀ {depth : Nat} {members : List (String × Json)},
    ReadableMembers depth members → ∀ (rest : List Glyph) (offset : Nat), ∃ offset',
      Members (readValue depth) false ⟨shown (membersTail members) ++ .char '\x7d' :: rest, offset⟩
        members ⟨.char '\x7d' :: rest, offset'⟩
  | _, [], _, rest, offset => ⟨offset, .done (hasNextMember_brace false rest offset)⟩
  | depth, (key, value) :: members, h, rest, offset => by
    obtain ⟨hvalue, hmembers⟩ := h
    obtain ⟨colon, hkey⟩ := readString_quoted key.toList
      (.char ':' :: (shown value.chars ++ (shown (membersTail members) ++ .char '\x7d' :: rest)))
      (offset + 2)
    obtain ⟨behind, hread⟩ := readValue_chars hvalue
      (closed_tail _ (membersTail_head members) (Or.inr rfl) rest) (colon + 1)
    obtain ⟨offset', hmore⟩ := members_membersTail hmembers rest behind
    rw [String.ofList_toList] at hkey
    have hnext := hasNextMember_comma (shown (key.toList.flatMap escape ++ ['"']) ++ .char ':' ::
      (shown value.chars ++ (shown (membersTail members) ++ .char '\x7d' :: rest))) offset
    have hstart : (⟨shown (membersTail ((key, value) :: members)) ++ .char '\x7d' :: rest, offset⟩ :
        Cursor) = ⟨.char ',' :: .char '"' :: (shown (key.toList.flatMap escape ++ ['"']) ++
          .char ':' ::
            (shown value.chars ++ (shown (membersTail members) ++ .char '\x7d' :: rest))),
          offset⟩ := by
      simp [membersTail, quotedChars]
    rw [hstart]
    exact ⟨offset', .member hnext hkey (readColon_colon _ colon) hread hmore⟩

end

/-- **A text that was written is read as what it was.** -/
theorem parse_render {value : Json} (h : Readable depthLimit value) :
    parse (Glyph.ofString value.render) = .ok value := by
  obtain ⟨offset, hread⟩ := readValue_chars h (nofun : Closed []) 0
  unfold parse Glyph.ofString render Cursor.start
  rw [List.append_nil] at hread
  rw [String.toList_ofList, hread]
  rfl

end Json

end TaskDaemon
