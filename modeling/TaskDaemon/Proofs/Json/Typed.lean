import TaskDaemon.Proofs.Json.Shape
import TaskDaemon.Proofs.Json.Skip
import TaskDaemon.Proofs.Json.Text

/-!
# Reading straight from a text

A schema takes its values from a text in one go, without the JSON value in between. Where there is
such a value, both ways come to the same (`TaskDaemon.Json.Schema.read_follows`): the text in front
of the cursor is read as what its JSON value stands for, the cursor is behind it afterwards, and
what is refused in the one way is refused in the other.

The other way round this is not so. A schema reads more texts than those of JSON values, since it
skips what it does not know, and skipping is less careful than reading.

`TaskDaemon.Json.Follows` says this for one value. It passes through the loops over items and
members (`TaskDaemon.Json.Cursor.readItems_follows`, `TaskDaemon.Json.Cursor.readMembers_follows`),
where both ways take their turns in step.
-/

namespace TaskDaemon

namespace Json

open Attempt Cursor

/-- **Reading from a text follows taking from a value**: it succeeds with the same value, and the
cursor behind it, or it fails too. -/
def Follows {α : Type} (typed : Except Fault (α × Cursor)) (taken : Except String α)
    (after : Cursor) : Prop :=
  match taken with
  | .ok a => typed = .ok (a, after)
  | .error _ => ∃ fault, typed = .error fault

namespace Follows

variable {α β : Type} {typed : Except Fault (α × Cursor)} {taken : Except String α}
  {after after' : Cursor}

theorem ok (a : α) (after : Cursor) : Follows (.ok (a, after)) (.ok a) after :=
  rfl

theorem error (fault : Fault) (message : String) (after : Cursor) :
    Follows (.error fault : Except Fault (α × Cursor)) (.error message) after :=
  ⟨fault, rfl⟩

theorem map (h : Follows typed taken after) (f : α → β) :
    Follows (typed.map fun r => (f r.1, r.2)) (taken.map f) after := by
  cases taken with
  | ok a =>
    obtain rfl : typed = .ok (a, after) := h
    rfl
  | error message =>
    obtain ⟨fault, rfl⟩ := h
    exact ⟨fault, rfl⟩

/-- Where a fault is said to lie makes no difference. -/
theorem mapError (h : Follows typed taken after) (f : Fault → Fault) :
    Follows (typed.mapError f) taken after := by
  cases taken with
  | ok a =>
    obtain rfl : typed = .ok (a, after) := h
    rfl
  | error message =>
    obtain ⟨fault, rfl⟩ := h
    exact ⟨f fault, rfl⟩

/-- **What goes on in step follows.** -/
theorem bind (h : Follows typed taken after) {next : α × Cursor → Except Fault (β × Cursor)}
    {next' : α → Except String β} (hnext : ∀ a, Follows (next (a, after)) (next' a) after') :
    Follows (typed >>= next) (taken >>= next') after' := by
  cases taken with
  | ok a =>
    obtain rfl : typed = .ok (a, after) := h
    exact hnext a
  | error message =>
    obtain ⟨fault, rfl⟩ := h
    exact ⟨fault, rfl⟩

/-- A bracket or brace is passed. -/
theorem advance (h : Follows typed taken after) :
    Follows (typed >>= fun r => .ok (r.1, r.2.advance)) taken after.advance := by
  cases taken with
  | ok a =>
    obtain rfl : typed = .ok (a, after) := h
    rfl
  | error message =>
    obtain ⟨fault, rfl⟩ := h
    exact ⟨fault, rfl⟩

end Follows

/-! ### Loops -/

namespace Cursor

variable {one : Cursor → Read Json} {c c' : Cursor}

/-- **Items are taken in step.** -/
theorem readItems_follows {α : Type} {typed : Cursor → Read α} {take : Json → Except String α}
    (hone : ∀ (c c' : Cursor) (value : Json), one c = .ok (value, c') →
      Follows (typed c) (take value) c')
    {first : Bool} {items : List Json} (h : Items one first c items c') {fuel : Nat}
    (hfuel : items.length < fuel) {done : List α} (hfirst : done.isEmpty = first) :
    Follows (readItems typed fuel done c) ((items.mapM take).map (done.reverse ++ ·)) c' := by
  induction h generalizing fuel done with
  | @done _ _ c' hnext =>
    obtain ⟨fuel, rfl⟩ := Nat.exists_eq_succ_of_ne_zero (Nat.ne_zero_of_lt hfuel)
    rw [readItems, hfirst, hnext]
    exact congrArg (fun values => Except.ok (values, c')) (List.append_nil done.reverse).symm
  | @item _ _ _ _ c' value values hnext hvalue hmore ih =>
    obtain ⟨fuel, rfl⟩ := Nat.exists_eq_succ_of_ne_zero (Nat.ne_zero_of_lt hfuel)
    have htaken : ((value :: values).mapM take).map (done.reverse ++ ·) =
        take value >>= fun a => (values.mapM take).map ((a :: done).reverse ++ ·) := by
      rw [List.mapM_cons]
      cases take value with
      | error message => rfl
      | ok a => cases values.mapM take <;> simp [bind, Except.bind, pure, Except.pure, Except.map]
    rw [htaken, readItems, hfirst, hnext]
    exact ((hone _ _ _ hvalue).mapError _).bind fun a => ih (Nat.lt_of_succ_lt_succ hfuel) rfl

/-- **Members are taken in step**, if each of them is. -/
theorem readMembers_follows {σ : Type} {typed : String → σ → Cursor → Read σ}
    (put : String → Json → σ → Except String σ)
    (hmember : ∀ (key : String) (state : σ) (colon place behind : Cursor) (value : Json),
      readColon colon = .ok place → one place = .ok (value, behind) →
        Follows (typed key state colon) (put key value state) behind)
    {first : Bool} {members : List (String × Json)} (h : Members one first c members c')
    {fuel : Nat} (hfuel : members.length < fuel) (state : σ) :
    Follows (readMembers typed fuel first state c)
      (members.foldlM (fun state m => put m.1 m.2 state) state) c' := by
  induction h generalizing fuel state with
  | done hnext =>
    obtain ⟨fuel, rfl⟩ := Nat.exists_eq_succ_of_ne_zero (Nat.ne_zero_of_lt hfuel)
    rw [readMembers, hnext]
    rfl
  | member hnext hkey hcolon hvalue hmore ih =>
    obtain ⟨fuel, rfl⟩ := Nat.exists_eq_succ_of_ne_zero (Nat.ne_zero_of_lt hfuel)
    rw [readMembers, hnext, List.foldlM_cons]
    change Follows (readString _ >>= fun r => typed r.1 state r.2 >>= fun r =>
      readMembers typed fuel false r.1 r.2) _ _
    rw [hkey]
    exact (hmember _ _ _ _ _ _ hcolon hvalue).bind fun state =>
      ih (Nat.lt_of_succ_lt_succ hfuel) state

/-- Where a sequence was expected and something else stands, it is refused. -/
theorem refuse_eq_error {α : Type} (expected : String) (c : Cursor) :
    ∃ fault, (c.refuse expected : Except Fault α) = .error fault := by
  unfold refuse
  split
  · exact ⟨_, rfl⟩
  split
  · exact ⟨_, rfl⟩
  · split <;> exact ⟨_, rfl⟩

/-- An array goes on where it does not end, and who wants no more items refuses it. -/
theorem endItems_eq_error (h : c.skipBlank.peek? ≠ some ']') :
    ∃ fault, endItems c = .error fault := by
  unfold endItems
  dsimp only
  split
  · exact ⟨_, rfl⟩
  · split <;> exact ⟨_, rfl⟩

theorem endItems_eq_ok (h : c.skipBlank.peek? = some ']') :
    endItems c = .ok c.skipBlank.advance := by
  unfold endItems
  dsimp only
  rw [if_neg (by simpa using rest_ne_nil_of_peek h), if_pos h]

/-- Blanks in front of a value do not belong to it. -/
theorem readValue_skipBlank (depth : Nat) (c : Cursor) :
    readValue depth c.skipBlank = readValue depth c := by
  cases depth <;> simp only [readValue, readValueWith, skipBlank_skipBlank]

/-- What a reader makes of what it read. -/
theorem eq_of_map_eq_ok {β : Type} {x : Except Fault β} {f : β → Json × Cursor} {value : Json}
    (h : x.map f = .ok (value, c')) : ∃ b, value = (f b).1 := by
  obtain ⟨b, -, hb⟩ := map_eq_ok_iff.mp h
  exact ⟨b, congrArg Prod.fst hb.symm⟩

/-- **What starts with an `n` is null**, and no other value without parts is. -/
theorem scalar_of_readScalar {value : Json} (h : readScalar c = .ok (value, c')) :
    value.isScalar = true ∧
      ((c.peek? = some 'n' ∧ readWord ['u', 'l', 'l'] c.advance = .ok c' ∧ value = .null) ∨
        (c.peek? ≠ some 'n' ∧ value ≠ .null)) := by
  unfold readScalar at h
  unfold peek?
  split at h
  · cases h
  · next hrest =>
    obtain ⟨behind, hword, hpair⟩ := map_eq_ok_iff.mp h
    obtain ⟨rfl, rfl⟩ := Prod.mk.inj hpair
    rw [hrest]
    exact ⟨rfl, Or.inl ⟨rfl, hword, rfl⟩⟩
  · next hrest =>
    obtain ⟨_, rfl⟩ := eq_of_map_eq_ok h
    rw [hrest]
    exact ⟨rfl, Or.inr ⟨by simp, nofun⟩⟩
  · next hrest =>
    obtain ⟨_, rfl⟩ := eq_of_map_eq_ok h
    rw [hrest]
    exact ⟨rfl, Or.inr ⟨by simp, nofun⟩⟩
  · next hrest =>
    obtain ⟨_, rfl⟩ := eq_of_map_eq_ok h
    rw [hrest]
    exact ⟨rfl, Or.inr ⟨by simp, nofun⟩⟩
  · next hrest =>
    obtain ⟨_, rfl⟩ := eq_of_map_eq_ok h
    rw [hrest]
    exact ⟨rfl, Or.inr ⟨by simp, nofun⟩⟩
  · next glyph rest hnull _ _ _ _ hrest =>
    split at h
    · obtain ⟨_, rfl⟩ := eq_of_map_eq_ok h
      refine ⟨rfl, Or.inr ⟨?_, nofun⟩⟩
      rw [hrest]
      cases glyph with
      | stray byte => nofun
      | char ch => exact fun heq => hnull (congrArg Glyph.char (Option.some.inj heq))
    · cases h

/-- **A value is null** exactly if it starts with an `n`. -/
theorem null_of_readValue {depth : Nat} {value : Json} (h : readValue depth c = .ok (value, c')) :
    (c.skipBlank.peek? = some 'n' ∧ readWord ['u', 'l', 'l'] c.skipBlank.advance = .ok c' ∧
        value = .null) ∨
      (c.skipBlank.peek? ≠ some 'n' ∧ value ≠ .null) := by
  rcases readValue_eq_ok h with ⟨_, items, _, -, hpeek, -, -, rfl, -⟩ |
    ⟨_, members, _, -, hpeek, -, -, rfl, -⟩ | ⟨-, -, hscalar⟩
  · rw [hpeek]
    exact Or.inr ⟨by decide, nofun⟩
  · rw [hpeek]
    exact Or.inr ⟨by decide, nofun⟩
  · exact (scalar_of_readScalar hscalar).2

/-- A verdict at the end of an object is the verdict. -/
theorem settleMembers_follows {α : Type} (verdict : Except String α) (c : Cursor) :
    Follows (c.settleMembers verdict) verdict c.advance := by
  cases verdict with
  | ok a => exact Follows.ok a c.advance
  | error message => exact ⟨_, rfl⟩

/-- **The items left over** by who wants no more: there must be none. -/
theorem endItems_follows {first : Bool} {left : List Json} (h : Items one first c left c')
    {α : Type} (a : α) (message : String) :
    Follows (endItems c >>= fun c => .ok (a, c)) (if left.isEmpty then .ok a else .error message)
      c'.advance := by
  cases h with
  | done hnext =>
    obtain ⟨rfl, hend⟩ := hasNextItem_eq_false hnext
    rw [endItems_eq_ok hend]
    exact Follows.ok a _
  | item hnext hvalue hmore =>
    obtain ⟨-, hopen, hwhere⟩ := hasNextItem_eq_true hnext
    have hother : c.skipBlank.peek? ≠ some ']' := by
      rcases hwhere with ⟨-, rfl⟩ | ⟨-, hcomma, -⟩
      · exact hopen
      · rw [hcomma]
        decide
    obtain ⟨fault, hfault⟩ := endItems_eq_error hother
    rw [hfault]
    exact ⟨fault, rfl⟩

/-- At the end of an array it is still at its end. -/
theorem Items.again {first : Bool} (h : Items one first c [] c') : Items one false c' [] c' := by
  cases h with
  | done hnext =>
    obtain ⟨rfl, hend⟩ := hasNextItem_eq_false hnext
    refine .done ?_
    unfold hasNextItem
    dsimp only
    rw [skipBlank_skipBlank, if_neg (by simpa using rest_ne_nil_of_peek hend), if_pos hend]

end Cursor

/-! ### Fields -/

namespace Fields

theorem put_of_not_mem {surplus : Surplus} {name : String} {value : Json} :
    ∀ {σ ρ : Type} (fields : Fields σ ρ), name ∉ fields.keys → ∀ slots : σ,
      fields.put surplus name value slots = .ok slots
  | _, _, .done, _, () => rfl
  | _, _, .field key s absent omits others, h, (slot, slots) => by
    have hne : name ≠ key := List.ne_of_not_mem_cons h
    have hothers : others.put surplus name value slots = .ok slots :=
      others.put_of_not_mem (List.not_mem_of_not_mem_cons h) slots
    simp only [put]
    rw [if_neg hne, hothers]
    rfl

/-- A key that no field has is unknown. -/
theorem readMember_eq_none_iff : ∀ {σ ρ : Type} (fields : Fields σ ρ) (depth : Nat) (name : String)
    (slots : σ) (c : Cursor), fields.readMember depth name slots c = none ↔ name ∉ fields.keys
  | _, _, .done, _, _, _, _ => iff_of_true rfl List.not_mem_nil
  | _, _, .field key s absent omits others, depth, name, (slot, slots), c => by
    rw [Fields.keys, List.mem_cons, not_or]
    simp only [Fields.readMember]
    by_cases hkey : name = key
    · rw [if_pos hkey]
      refine iff_of_false ?_ fun h => h.1 hkey
      cases slot <;> simp
    · rw [if_neg hkey, Option.map_eq_none_iff, others.readMember_eq_none_iff, and_iff_right hkey]

/-- Members under unknown keys may as well be left out. -/
theorem foldlM_put_filter {σ ρ : Type} (fields : Fields σ ρ) {surplus : Surplus}
    {keep : String × Json → Bool} {members : List (String × Json)}
    (h : ∀ m ∈ members, keep m = false → m.1 ∉ fields.keys) (slots : σ) :
    (members.filter keep).foldlM (fun slots m => fields.put surplus m.1 m.2 slots) slots =
      members.foldlM (fun slots m => fields.put surplus m.1 m.2 slots) slots := by
  induction members generalizing slots with
  | nil => rfl
  | cons m members ih =>
    have hmore := ih fun m hm => h m (List.mem_cons_of_mem _ hm)
    by_cases hkeep : keep m = true
    · rw [List.filter_cons_of_pos hkeep, List.foldlM_cons, List.foldlM_cons]
      exact congrArg _ (funext hmore)
    · have hput : fields.put surplus m.1 m.2 slots = .ok slots := fields.put_of_not_mem
        (h m List.mem_cons_self (Bool.eq_false_iff.mpr hkeep)) slots
      rw [List.filter_cons_of_neg hkeep, List.foldlM_cons, hput]
      exact hmore slots

/-- **Puts a member where it belongs, or keeps it** for another record, the last one first. -/
def putOrKeep {σ ρ : Type} (fields : Fields σ ρ) (surplus : Surplus) (key : String) (value : Json)
    (taken : σ × List (String × Json)) : Except String (σ × List (String × Json)) :=
  if key ∈ fields.keys then
    (fields.put surplus key value taken.1).map fun slots => (slots, taken.2)
  else .ok (taken.1, (key, value) :: taken.2)

/-- **What is kept** is what no key is known of. -/
theorem foldlM_putOrKeep {σ ρ : Type} (fields : Fields σ ρ) {surplus : Surplus}
    (members kept : List (String × Json)) (slots : σ) :
    members.foldlM (fun taken m => fields.putOrKeep surplus m.1 m.2 taken) (slots, kept) =
      (members.foldlM (fun slots m => fields.put surplus m.1 m.2 slots) slots).map fun slots =>
        (slots, (members.filter fun m => decide (m.1 ∉ fields.keys)).reverse ++ kept) := by
  induction members generalizing slots kept with
  | nil => rfl
  | cons m members ih =>
    rw [List.foldlM_cons, List.foldlM_cons, putOrKeep]
    by_cases hkey : m.1 ∈ fields.keys
    · rw [if_pos hkey, List.filter_cons_of_neg (by simpa using hkey)]
      cases fields.put surplus m.1 m.2 slots with
      | error message => rfl
      | ok slots => exact ih kept slots
    · rw [if_neg hkey, List.filter_cons_of_pos (by simpa using hkey), fields.put_of_not_mem hkey]
      refine (ih (m :: kept) slots).trans ?_
      rw [List.reverse_cons, List.append_assoc, List.singleton_append]
      rfl

/-- **Two records out of one object**, in one go: what the first does not know is kept for the
second, which does not miss what the first took. -/
theorem foldlM_putOrKeep_bind {σ ρ τ υ : Type} (own : Fields σ ρ) (others : Fields τ υ)
    (hkeys : (own.keys ++ others.keys).Nodup) (surplus : Surplus) (members : List (String × Json)) :
    (members.foldlM (fun taken m => own.putOrKeep surplus m.1 m.2 taken) (own.blank, []) >>=
        fun taken => do
          let value ← own.finish taken.1
          let slots ← taken.2.reverse.foldlM (fun slots m => others.put surplus m.1 m.2 slots)
            others.blank
          let rest ← others.finish slots
          .ok (value, rest) : Except String (ρ × υ)) =
      (do
        let slots ← members.foldlM (fun slots m => own.put surplus m.1 m.2 slots) own.blank
        let value ← own.finish slots
        let slots ← members.foldlM (fun slots m => others.put surplus m.1 m.2 slots) others.blank
        let rest ← others.finish slots
        .ok (value, rest)) := by
  obtain ⟨-, -, hapart⟩ := List.nodup_append.mp hkeys
  have hothers : (members.filter fun m => decide (m.1 ∉ own.keys)).foldlM
      (fun slots m => others.put surplus m.1 m.2 slots) others.blank =
        members.foldlM (fun slots m => others.put surplus m.1 m.2 slots) others.blank := by
    refine others.foldlM_put_filter (fun m _ hkeep hmem => ?_) others.blank
    have hown : m.1 ∈ own.keys := by simpa using hkeep
    exact hapart m.1 hown m.1 hmem rfl
  rw [foldlM_putOrKeep]
  cases members.foldlM (fun slots m => own.put surplus m.1 m.2 slots) own.blank with
  | error message => rfl
  | ok slots =>
    rw [← hothers]
    simp only [Except.map, bind, Except.bind, List.append_nil, List.reverse_reverse]

end Fields

/-! ### Values -/

/-- **Reading a record from an array follows taking it from the items**: it succeeds with the same
record, and the items left over are in front of the cursor, or it fails too. -/
def FollowsItems {ρ : Type} (depth : Nat) (typed : Except Fault (ρ × Cursor))
    (taken : Except String (ρ × List Json)) (after : Cursor) : Prop :=
  match taken with
  | .ok (record, left) => ∃ behind first, typed = .ok (record, behind) ∧
    Items (readValue depth) first behind left after
  | .error _ => ∃ fault, typed = .error fault

/-- **The end of the array** tells whether it was a record. -/
theorem FollowsItems.record {ρ : Type} {depth : Nat} {typed : Except Fault (ρ × Cursor)}
    {taken : Except String (ρ × List Json)} {after : Cursor}
    (h : FollowsItems depth typed taken after) {message : ρ × List Json → String} :
    Follows (typed >>= fun r => r.2.endItems >>= fun c => .ok (r.1, c))
      (taken >>= fun r => if r.2.isEmpty then .ok r.1 else .error (message r)) after.advance := by
  cases taken with
  | ok taken =>
    obtain ⟨record, left⟩ := taken
    obtain ⟨behind, first, rfl, hitems⟩ := h
    exact endItems_follows hitems record _
  | error message =>
    obtain ⟨fault, rfl⟩ := h
    exact ⟨fault, rfl⟩

/-- A field in front of the others. -/
theorem FollowsItems.cons {α ρ : Type} {depth : Nat} {typed : Except Fault (ρ × Cursor)}
    {taken : Except String (ρ × List Json)} {after : Cursor}
    (h : FollowsItems depth typed taken after) (value : α) :
    FollowsItems depth (typed >>= fun r => .ok ((value, r.1), r.2))
      (taken >>= fun r => .ok ((value, r.1), r.2)) after := by
  cases taken with
  | ok taken =>
    obtain ⟨behind, first, rfl, hitems⟩ := h
    exact ⟨behind, first, rfl, hitems⟩
  | error message =>
    obtain ⟨fault, rfl⟩ := h
    exact ⟨fault, rfl⟩

/-- **An atom is read as what its value stands for.** -/
theorem Atom.read_follows {α : Type} (atom : Atom α) {depth : Nat} {c c' : Cursor} {value : Json}
    (h : c.readValue depth = .ok (value, c')) :
    Follows (atom.read c) ((atom.accept value).mapError (atom.complaint value)) c' := by
  -- A container is refused at its first glyph.
  have hcontainer : (c.skipBlank.peek? = some '[' ∨ c.skipBlank.peek? = some '\x7b') →
      value.isScalar = false →
        Follows (atom.read c) ((atom.accept value).mapError (atom.complaint value)) c' := by
    intro hpeek hvalue
    unfold Atom.read
    dsimp only
    rw [if_pos hpeek]
    cases haccept : atom.accept value with
    | ok a => exact absurd (atom.isScalar_of_accept haccept) (by rw [hvalue]; decide)
    | error refusal => exact refuse_eq_error _ _
  rcases readValue_eq_ok h with ⟨_, items, _, -, hpeek, -, -, rfl, -⟩ |
    ⟨_, members, _, -, hpeek, -, -, rfl, -⟩ | ⟨hbracket, hbrace, hscalar⟩
  · exact hcontainer (Or.inl hpeek) rfl
  · exact hcontainer (Or.inr hpeek) rfl
  · unfold Atom.read
    dsimp only
    rw [if_neg (not_or.mpr ⟨hbracket, hbrace⟩), hscalar]
    cases haccept : atom.accept value with
    | ok a =>
      dsimp only
      rw [haccept]
      exact Follows.ok a c'
    | error refusal =>
      dsimp only
      rw [haccept]
      exact ⟨_, rfl⟩

/-- **What neither opens an array nor an object is refused** where one of them is wanted. -/
theorem refuse_follows {α : Type} (expected message : String) (c c' : Cursor) :
    Follows (c.refuse expected : Except Fault (α × Cursor)) (.error message) c' :=
  refuse_eq_error expected c

mutual

/-- **Reading a value of a schema follows reading the value.** -/
theorem Schema.read_follows : ∀ {α : Type} (s : Schema α), s.Tidy → ∀ {depth : Nat}
    {c c' : Cursor} {value : Json}, c.readValue depth = .ok (value, c') →
      Follows (s.read depth c) (s.ofJson .countWanted value) c'
  | _, .any, _, depth, c, c', value, h => by
    simp only [Schema.read, Schema.ofJson]
    rw [h]
    exact Follows.ok value.canonical c'
  | _, .atom atom, _, depth, c, c', value, h => by
    simp only [Schema.read, Schema.ofJson]
    exact atom.read_follows h
  | _, .option s, htidy, depth, c, c', value, h => by
    simp only [Schema.read]
    rcases null_of_readValue h with ⟨hpeek, hword, rfl⟩ | ⟨hpeek, hvalue⟩
    · rw [if_pos hpeek, hword]
      exact Follows.ok none c'
    · rw [if_neg hpeek, s.ofJson_option_of_ne_null hvalue]
      exact (s.read_follows htidy ((readValue_skipBlank depth c).trans h)).map some
  | _, .list s, htidy, depth, c, c', value, h => by
    simp only [Schema.read, Schema.ofJson]
    rcases readValue_eq_ok h with ⟨less, items, after, rfl, hpeek, hlength, hitems, rfl, rfl⟩ |
      ⟨_, members, _, -, hpeek, -, -, rfl, -⟩ | ⟨hbracket, hbrace, hscalar⟩
    · rw [if_pos hpeek]
      have hread := readItems_follows (fun _ _ _ h => s.read_follows htidy h) hitems hlength
        (List.isEmpty_nil (α := _))
      have hall : (items.mapM (s.ofJson .countWanted)).map (([] : List _).reverse ++ ·) =
          items.mapM (s.ofJson .countWanted) := by
        cases items.mapM (s.ofJson .countWanted) <;> rfl
      rw [hall] at hread
      exact hread.advance
    · rw [if_neg (by rw [hpeek]; decide)]
      exact refuse_follows _ _ _ _
    · rw [if_neg hbracket]
      cases value with
      | array items => exact nomatch (scalar_of_readScalar hscalar).1
      | _ => exact refuse_follows _ _ _ _
  | _, .record name fields, htidy, depth, c, c', value, h => by
    obtain ⟨-, htidy⟩ := htidy
    simp only [Schema.read, Schema.ofJson]
    rcases readValue_eq_ok h with ⟨less, items, after, rfl, hpeek, -, hitems, rfl, rfl⟩ |
      ⟨less, members, after, rfl, hpeek, hlength, hmembers, rfl, rfl⟩ | ⟨hbracket, hbrace, hscalar⟩
    · rw [if_pos hpeek]
      simp only [Cursor.descend]
      exact (fields.readItems_follows htidy rfl hitems).record
    · rw [if_neg (by rw [hpeek]; decide), if_pos hpeek]
      simp only [Cursor.descend]
      refine (readMembers_follows (fields.put .countWanted) ?_ hmembers hlength
        fields.blank).bind fun slots => settleMembers_follows _ _
      intro key slots colon place behind value hcolon hvalue
      by_cases hkey : key ∈ fields.keys
      · obtain ⟨read, hread, hfollows⟩ := fields.readMember_follows htidy hkey hcolon hvalue slots
        rw [hread]
        exact hfollows
      · rw [(fields.readMember_eq_none_iff _ _ _ _).mpr hkey, fields.put_of_not_mem hkey, hcolon]
        refine Follows.mapError ?_ _
        have hskip := skipValue_of_readValue hvalue
        change Follows (skipValue place >>= fun c => .ok (slots, c)) _ _
        rw [hskip]
        exact Follows.ok slots behind
    · rw [if_neg hbracket, if_neg hbrace]
      cases value with
      | array items => exact nomatch (scalar_of_readScalar hscalar).1
      | object members => exact nomatch (scalar_of_readScalar hscalar).1
      | _ => exact refuse_follows _ _ _ _
  | _, .merged name own others, htidy, depth, c, c', value, h => by
    obtain ⟨hkeys, hown, hothers⟩ := htidy
    simp only [Schema.read, Schema.ofJson]
    rcases readValue_eq_ok h with ⟨_, items, _, -, hpeek, -, -, rfl, -⟩ |
      ⟨less, members, after, rfl, hpeek, hlength, hmembers, rfl, rfl⟩ | ⟨hbracket, hbrace, hscalar⟩
    · rw [if_neg (by rw [hpeek]; decide)]
      exact refuse_follows _ _ _ _
    · rw [if_pos hpeek]
      simp only [Cursor.descend]
      rw [← own.foldlM_putOrKeep_bind others hkeys .countWanted members]
      refine (readMembers_follows (own.putOrKeep .countWanted) ?_ hmembers hlength _).bind
        fun taken => settleMembers_follows _ _
      intro key taken colon place behind value hcolon hvalue
      unfold Fields.putOrKeep
      by_cases hkey : key ∈ own.keys
      · obtain ⟨read, hread, hfollows⟩ := own.readMember_follows hown hkey hcolon hvalue taken.1
        rw [if_pos hkey, hread]
        exact hfollows.map fun slots => (slots, taken.2)
      · have hkeep : keepMember (readValue less) key taken.2 colon =
            .ok ((key, value) :: taken.2, behind) :=
          keepMember_eq_ok_iff.mpr ⟨place, value, hcolon, hvalue, rfl⟩
        rw [if_neg hkey, (own.readMember_eq_none_iff _ _ _ _).mpr hkey, hkeep]
        exact Follows.ok _ behind
    · rw [if_neg hbrace]
      cases value with
      | object members => exact nomatch (scalar_of_readScalar hscalar).1
      | _ => exact refuse_follows _ _ _ _
  | _, .convert forth back s, htidy, depth, c, c', value, h => by
    simp only [Schema.read, Schema.ofJson]
    exact (s.read_follows htidy h).map forth

theorem Fields.readMember_follows : ∀ {σ ρ : Type} (fields : Fields σ ρ), fields.Tidy →
    ∀ {depth : Nat} {name : String} {colon place behind : Cursor} {value : Json},
      name ∈ fields.keys → readColon colon = .ok place →
        place.readValue depth = .ok (value, behind) → ∀ slots : σ,
          ∃ read, fields.readMember depth name slots colon = some read ∧
            Follows read (fields.put .countWanted name value slots) behind
  | _, _, .done, _, _, _, _, _, _, _, hname, _, _, _ => absurd hname List.not_mem_nil
  | _, _, .field key s absent omits others, htidy, depth, name, colon, place, behind, value, hname,
      hcolon, h, (slot, slots) => by
    obtain ⟨hs, hothers⟩ := htidy
    simp only [Fields.readMember, Fields.put]
    by_cases hkey : name = key
    · rw [if_pos hkey, if_pos hkey]
      cases slot with
      | some before => exact ⟨_, rfl, ⟨_, rfl⟩⟩
      | none =>
        refine ⟨_, rfl, Follows.mapError ?_ _⟩
        rw [hcolon]
        exact (s.read_follows hs h).map fun value => (some value, slots)
    · have hmore : name ∈ others.keys := (List.mem_cons.mp hname).resolve_left hkey
      obtain ⟨read, hread, hfollows⟩ := others.readMember_follows hothers hmore hcolon h slots
      rw [if_neg hkey, if_neg hkey, hread]
      exact ⟨_, rfl, hfollows.map fun slots => (slot, slots)⟩

theorem Fields.readItems_follows : ∀ {σ ρ : Type} (fields : Fields σ ρ), fields.Tidy →
    ∀ {name : String} {depth total done : Nat} {first : Bool} {c after : Cursor}
      {items : List Json}, (done == 0) = first → Items (readValue depth) first c items after →
        FollowsItems depth (fields.readItems name depth total done c)
          (fields.ofItems name .countWanted total done items) after
  | _, _, .done, _, name, depth, total, done, first, c, after, items, _, h => ⟨c, first, rfl, h⟩
  | _, _, .field key s absent omits others, htidy, name, depth, total, done, first, c, after, items,
      hfirst, h => by
    obtain ⟨hs, hothers⟩ := htidy
    subst hfirst
    simp only [Fields.readItems, Fields.ofItems]
    cases h with
    | done hnext =>
      rw [hnext]
      cases absent.ofArray? with
      | none => exact ⟨_, rfl⟩
      | some value =>
        exact (others.readItems_follows hothers (beq_false_of_ne (Nat.succ_ne_zero done))
          (Items.done hnext).again).cons value
    | @item _ _ start behind _ item items hnext hitem hmore =>
      rw [hnext]
      have hfollows := s.read_follows hs hitem
      change FollowsItems depth
        ((s.read depth start).mapError (Fault.under (.index done)) >>= fun r =>
          others.readItems name depth total (done + 1) r.2 >>= fun q => .ok ((r.1, q.1), q.2))
        ((s.ofJson .countWanted item).map (fun value => (value, items)) >>= fun r =>
          others.ofItems name .countWanted total (done + 1) r.2 >>= fun q => .ok ((r.1, q.1), q.2))
        after
      cases htaken : s.ofJson .countWanted item with
      | error message =>
        rw [htaken] at hfollows
        obtain ⟨fault, hfault⟩ := hfollows
        rw [hfault]
        exact ⟨_, rfl⟩
      | ok value =>
        rw [htaken] at hfollows
        have hread : s.read depth start = .ok (value, behind) := hfollows
        have hlater : FollowsItems depth (others.readItems name depth total (done + 1) behind)
            (others.ofItems name .countWanted total (done + 1) items) after :=
          others.readItems_follows hothers (beq_false_of_ne (Nat.succ_ne_zero done)) hmore
        rw [hread]
        exact hlater.cons value

end

namespace Schema

variable {α : Type} {s : Schema α} {value : Json} {a : α}

/-- **The front of a text that is JSON** is read as what its value stands for. -/
theorem parseFront_of_parse (htidy : s.Tidy) {text : List Glyph}
    (hparse : Json.parse text = .ok value) (htake : s.ofJson .countWanted value = .ok a) :
    s.parseFront text = .ok a := by
  unfold Json.parse at hparse
  obtain ⟨⟨value', behind⟩, hread, hend⟩ := bind_eq_ok_iff.mp hparse
  obtain ⟨-, -, hvalue⟩ := bind_eq_ok_iff.mp hend
  obtain rfl : value' = value := Except.ok.inj hvalue
  have hfollows := s.read_follows htidy hread
  rw [htake] at hfollows
  have htyped : s.read depthLimit (Cursor.start text) = .ok (a, behind) := hfollows
  unfold parseFront
  rw [htyped]
  rfl

/-- **A text that is JSON is read** as what its value stands for, and refused where it stands for
nothing. -/
theorem parse_eq_ok_iff_of_parse (htidy : s.Tidy) {text : List Glyph}
    (hparse : Json.parse text = .ok value) :
    s.parse text = .ok a ↔ s.ofJson .countWanted value = .ok a := by
  unfold Json.parse at hparse
  obtain ⟨⟨value', behind⟩, hread, hrest⟩ := bind_eq_ok_iff.mp hparse
  obtain ⟨_, hend, hvalue⟩ := bind_eq_ok_iff.mp hrest
  obtain rfl : value' = value := Except.ok.inj hvalue
  have hfollows := s.read_follows htidy hread
  unfold parse
  cases htaken : s.ofJson .countWanted value' with
  | ok taken =>
    rw [htaken] at hfollows
    have htyped : s.read depthLimit (Cursor.start text) = .ok (taken, behind) := hfollows
    rw [htyped]
    change (behind.endText >>= fun _ => .ok taken) = .ok a ↔ _
    rw [hend]
    exact ⟨fun h => congrArg Except.ok (Except.ok.inj h),
      fun h => congrArg Except.ok (Except.ok.inj h)⟩
  | error message =>
    rw [htaken] at hfollows
    obtain ⟨fault, hfault⟩ := hfollows
    rw [hfault]
    exact iff_of_false (fun h => by cases h) fun h => by cases h

/-- **A line that was written is read** as what its value stands for, its newline included. -/
theorem parse_line (htidy : s.Tidy) (hreadable : Readable depthLimit value)
    (htake : s.ofJson .countWanted value = .ok a) :
    s.parse (shown (value.chars ++ ['\n'])) = .ok a := by
  have hclosed : Closed [.char '\n'] := by
    intro glyph hglyph
    obtain rfl : Glyph.char '\n' = glyph := Option.some.inj hglyph
    decide
  obtain ⟨offset, hread⟩ := readValue_chars hreadable hclosed 0
  have hfollows := s.read_follows htidy hread
  rw [htake] at hfollows
  have htyped : s.read depthLimit ⟨shown value.chars ++ [.char '\n'], 0⟩ =
      .ok (a, ⟨[.char '\n'], offset⟩) := hfollows
  unfold parse Cursor.start
  rw [shown, List.map_append]
  change s.read depthLimit ⟨shown value.chars ++ [.char '\n'], 0⟩ >>= _ = _
  rw [htyped]
  rfl

end Schema

end Json

end TaskDaemon
