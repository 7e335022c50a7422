import TaskDaemon.Json.Schema
import TaskDaemon.Proofs.Attempt

/-!
# What reading can give

Whatever a schema is read from, the values that it gives are put together from values that its atoms
accepted and from those that stand for absent fields (`TaskDaemon.Json.Schema.Admits`). So what is
true of everything that an atom accepts is true wherever the atom stands in what was read.

There are two ways to get a value, and each has its theorem: from a JSON value that was read before
(`TaskDaemon.Json.Schema.admits_of_ofJson`), and straight from a text
(`TaskDaemon.Json.Schema.admits_of_read`). The second does not follow from the first, since a text
may hold more than JSON values can, in places that the schema skips.

A record is gathered member by member, so both proofs carry along that what was gathered so far is
admitted (`TaskDaemon.Json.Fields.AdmitsSlots`).
-/

namespace TaskDaemon

namespace Json

open Attempt

mutual

/-- **A value that reading can give.** -/
def Schema.Admits : {α : Type} → Schema α → α → Prop
  | _, .any, _ => True
  | _, .atom a, value => ∃ given, a.accept given = .ok value
  | _, .option s, value => ∀ inner ∈ value, s.Admits inner
  | _, .list s, values => ∀ value ∈ values, s.Admits value
  | _, .record _ fields, value => fields.Admits value
  | _, .merged _ own others, (value, rest) => own.Admits value ∧ others.Admits rest
  | _, .convert forth _ s, value => ∃ inner, s.Admits inner ∧ forth inner = value

/-- The same of a record: each field was read, or it was absent and may be. -/
def Fields.Admits : {σ ρ : Type} → Fields σ ρ → ρ → Prop
  | _, _, .done, _ => True
  | _, _, .field _ s absent _ others, (value, rest) =>
    (s.Admits value ∨ absent.ofObject? = some value) ∧ others.Admits rest

end

/-- **What was gathered of a record** was read. -/
def Fields.AdmitsSlots : {σ ρ : Type} → Fields σ ρ → σ → Prop
  | _, _, .done, _ => True
  | _, _, .field _ s _ _ others, (slot, slots) =>
    (∀ value ∈ slot, s.Admits value) ∧ others.AdmitsSlots slots

/-! ### Gathering a record -/

theorem Fields.admitsSlots_blank : ∀ {σ ρ : Type} (fields : Fields σ ρ),
    fields.AdmitsSlots fields.blank
  | _, _, .done => trivial
  | _, _, .field _ _ _ _ others => ⟨nofun, others.admitsSlots_blank⟩

/-- **A record of what was read** is admitted. -/
theorem Fields.admits_of_finish : ∀ {σ ρ : Type} (fields : Fields σ ρ) {slots : σ} {value : ρ},
    fields.AdmitsSlots slots → fields.finish slots = .ok value → fields.Admits value
  | _, _, .done, _, _, _, _ => trivial
  | _, _, .field key s absent omits others, (slot, slots), value, hslots, h => by
    unfold Fields.finish at h
    dsimp only at h
    split at h
    · next given hgiven =>
      obtain ⟨first, hfirst, h⟩ := bind_eq_ok_iff.mp h
      obtain ⟨rest, hrest, h⟩ := bind_eq_ok_iff.mp h
      obtain rfl := Except.ok.inj h
      obtain rfl := Except.ok.inj hfirst
      refine ⟨?_, others.admits_of_finish hslots.2 hrest⟩
      cases slot with
      | some read =>
        obtain rfl := Option.some.inj hgiven
        exact Or.inl (hslots.1 read rfl)
      | none => exact Or.inr hgiven
    · cases h

/-- What stands for the absence of an item also does for that of a member. -/
theorem Absence.ofObject?_of_ofArray? {α : Type} {absent : Absence α} {value : α}
    (h : absent.ofArray? = some value) : absent.ofObject? = some value := by
  cases absent with
  | refused => cases h
  | inObject given => cases h
  | anywhere given => exact h

/-- **What each step of a fold keeps**, the fold keeps. -/
theorem foldlM_keeps {ε β σ : Type} {P : σ → Prop} {step : σ → β → Except ε σ}
    (hstep : ∀ b s s', step s b = .ok s' → P s → P s') :
    ∀ {bs : List β} {s s' : σ}, bs.foldlM step s = .ok s' → P s → P s'
  | [], s, s', h, hs => by
    obtain rfl : s = s' := Except.ok.inj h
    exact hs
  | b :: bs, s, s', h, hs => by
    rw [List.foldlM_cons] at h
    obtain ⟨next, hnext, h⟩ := bind_eq_ok_iff.mp h
    exact foldlM_keeps hstep h (hstep b s next hnext hs)

theorem forall_of_mapM {ε β α : Type} {P : α → Prop} {read : β → Except ε α}
    (hread : ∀ b a, read b = .ok a → P a) :
    ∀ {bs : List β} {as : List α}, bs.mapM read = .ok as → ∀ a ∈ as, P a
  | [], as, h => by
    obtain rfl : [] = as := Except.ok.inj h
    exact fun a ha => absurd ha List.not_mem_nil
  | b :: bs, as, h => by
    rw [List.mapM_cons] at h
    obtain ⟨first, hfirst, h⟩ := bind_eq_ok_iff.mp h
    obtain ⟨rest, hrest, h⟩ := bind_eq_ok_iff.mp h
    obtain rfl : first :: rest = as := Except.ok.inj h
    intro a ha
    rcases List.mem_cons.mp ha with rfl | ha
    · exact hread b a hfirst
    · exact forall_of_mapM hread hrest a ha

/-! ### From a JSON value -/

mutual

/-- **What is taken from a JSON value** is admitted. -/
theorem Schema.admits_of_ofJson : ∀ {α : Type} (s : Schema α) {surplus : Surplus} {given : Json}
    {value : α}, s.ofJson surplus given = .ok value → s.Admits value
  | _, .any, _, _, _, _ => trivial
  | _, .atom a, surplus, given, value, h => ⟨given, mapError_eq_ok_iff.mp h⟩
  | _, .option s, surplus, given, value, h => by
    unfold Schema.ofJson at h
    split at h
    · obtain rfl := Except.ok.inj h
      exact nofun
    · obtain ⟨inner, hinner, rfl⟩ := map_eq_ok_iff.mp h
      rintro _ ⟨⟩
      exact s.admits_of_ofJson hinner
  | _, .list s, surplus, given, values, h => by
    unfold Schema.ofJson at h
    split at h
    · exact forall_of_mapM (fun _ _ => s.admits_of_ofJson) h
    · cases h
  | _, .record name fields, surplus, given, value, h => by
    unfold Schema.ofJson at h
    split at h
    · -- from an array, field by field
      obtain ⟨⟨record, left⟩, hitems, h⟩ := bind_eq_ok_iff.mp h
      dsimp only at h
      split at h
      · obtain rfl := Except.ok.inj h
        exact fields.admits_of_ofItems hitems
      · cases h
    · -- from an object, member by member
      obtain ⟨slots, hslots, h⟩ := bind_eq_ok_iff.mp h
      exact fields.admits_of_finish
        (foldlM_keeps (fun _ _ _ => fields.admitsSlots_put) hslots fields.admitsSlots_blank) h
    · cases h
  | _, .merged name own others, surplus, given, (value, rest), h => by
    unfold Schema.ofJson at h
    split at h
    · obtain ⟨slots, hslots, h⟩ := bind_eq_ok_iff.mp h
      obtain ⟨first, hfirst, h⟩ := bind_eq_ok_iff.mp h
      obtain ⟨slots', hslots', h⟩ := bind_eq_ok_iff.mp h
      obtain ⟨second, hsecond, h⟩ := bind_eq_ok_iff.mp h
      obtain ⟨rfl, rfl⟩ := Prod.mk.inj (Except.ok.inj h)
      exact ⟨own.admits_of_finish
          (foldlM_keeps (fun _ _ _ => own.admitsSlots_put) hslots own.admitsSlots_blank) hfirst,
        others.admits_of_finish
          (foldlM_keeps (fun _ _ _ => others.admitsSlots_put) hslots' others.admitsSlots_blank)
          hsecond⟩
    · cases h
  | _, .convert forth back s, surplus, given, value, h => by
    obtain ⟨inner, hinner, rfl⟩ := map_eq_ok_iff.mp h
    exact ⟨inner, s.admits_of_ofJson hinner, rfl⟩

theorem Fields.admitsSlots_put : ∀ {σ ρ : Type} (fields : Fields σ ρ) {surplus : Surplus}
    {name : String} {given : Json} {slots slots' : σ},
      fields.put surplus name given slots = .ok slots' → fields.AdmitsSlots slots →
        fields.AdmitsSlots slots'
  | _, _, .done, _, _, _, _, _, _, _ => trivial
  | _, _, .field key s absent omits others, surplus, name, given, (slot, slots), slots', h,
      hslots => by
    unfold Fields.put at h
    split at h
    · split at h
      · cases h
      · obtain ⟨value, hvalue, rfl⟩ := map_eq_ok_iff.mp h
        refine ⟨?_, hslots.2⟩
        rintro _ ⟨⟩
        exact s.admits_of_ofJson hvalue
    · obtain ⟨more, hmore, rfl⟩ := map_eq_ok_iff.mp h
      exact ⟨hslots.1, others.admitsSlots_put hmore hslots.2⟩

theorem Fields.admits_of_ofItems : ∀ {σ ρ : Type} (fields : Fields σ ρ) {name : String}
    {surplus : Surplus} {total done : Nat} {items left : List Json} {value : ρ},
      fields.ofItems name surplus total done items = .ok (value, left) → fields.Admits value
  | _, _, .done, _, _, _, _, _, _, _, _ => trivial
  | _, _, .field key s absent omits others, name, surplus, total, done, items, left, value, h => by
    unfold Fields.ofItems at h
    dsimp only at h
    split at h
    · obtain ⟨⟨first, behind⟩, hfirst, h⟩ := bind_eq_ok_iff.mp h
      obtain ⟨⟨rest, behind'⟩, hrest, h⟩ := bind_eq_ok_iff.mp h
      obtain ⟨rfl, -⟩ := Prod.mk.inj (Except.ok.inj h)
      obtain ⟨given, hgiven, heq⟩ := map_eq_ok_iff.mp hfirst
      obtain ⟨rfl, -⟩ := Prod.mk.inj heq
      exact ⟨Or.inl (s.admits_of_ofJson hgiven), others.admits_of_ofItems hrest⟩
    split at h
    · next given habsent =>
      obtain ⟨⟨first, behind⟩, hfirst, h⟩ := bind_eq_ok_iff.mp h
      obtain ⟨⟨rest, behind'⟩, hrest, h⟩ := bind_eq_ok_iff.mp h
      obtain ⟨rfl, -⟩ := Prod.mk.inj (Except.ok.inj h)
      obtain ⟨rfl, -⟩ := Prod.mk.inj (Except.ok.inj hfirst)
      exact ⟨Or.inr (Absence.ofObject?_of_ofArray? habsent), others.admits_of_ofItems hrest⟩
    · cases h

end

/-! ### From a text -/

namespace Cursor

/-- **Items that were read** are such as the reader of one gives. -/
theorem forall_of_readItems {α : Type} {P : α → Prop} {one : Cursor → Read α}
    (hone : ∀ c a c', one c = .ok (a, c') → P a) :
    ∀ {fuel : Nat} {done items : List α} {c c' : Cursor},
      readItems one fuel done c = .ok (items, c') → (∀ a ∈ done, P a) → ∀ a ∈ items, P a
  | 0, _, _, _, _, h, _ => nomatch h
  | fuel + 1, done, items, c, c', h, hdone => by
    rw [readItems] at h
    obtain ⟨⟨more, start⟩, -, h⟩ := bind_eq_ok_iff.mp h
    dsimp only at h
    split at h
    · obtain ⟨⟨item, behind⟩, hitem, h⟩ := bind_eq_ok_iff.mp h
      refine forall_of_readItems hone h ?_
      intro a ha
      rcases List.mem_cons.mp ha with rfl | ha
      · exact hone _ _ _ (mapError_eq_ok_iff.mp hitem)
      · exact hdone a ha
    · obtain ⟨rfl, -⟩ := Prod.mk.inj (Except.ok.inj h)
      exact fun a ha => hdone a (List.mem_reverse.mp ha)

/-- **What the reader of a member keeps**, reading all members keeps. -/
theorem readMembers_keeps {σ : Type} {P : σ → Prop} {member : String → σ → Cursor → Read σ}
    (hmember : ∀ key taken c taken' c',
      member key taken c = .ok (taken', c') → P taken → P taken') :
    ∀ {fuel : Nat} {first : Bool} {taken taken' : σ} {c c' : Cursor},
      readMembers member fuel first taken c = .ok (taken', c') → P taken → P taken'
  | 0, _, _, _, _, _, h, _ => nomatch h
  | fuel + 1, first, taken, taken', c, c', h, htaken => by
    rw [readMembers] at h
    obtain ⟨⟨more, start⟩, -, h⟩ := bind_eq_ok_iff.mp h
    dsimp only at h
    split at h
    · obtain ⟨⟨key, colon⟩, -, h⟩ := bind_eq_ok_iff.mp h
      obtain ⟨⟨next, behind⟩, hnext, h⟩ := bind_eq_ok_iff.mp h
      exact readMembers_keeps hmember h (hmember _ _ _ _ _ hnext htaken)
    · obtain ⟨rfl, -⟩ := Prod.mk.inj (Except.ok.inj h)
      exact htaken

/-- A refusal gives nothing. -/
theorem refuse_ne_ok {α : Type} {expected : String} {c c' : Cursor} {a : α} :
    (c.refuse expected : Except Fault (α × Cursor)) ≠ .ok (a, c') := by
  unfold refuse
  split
  · exact nofun
  split
  · exact nofun
  split <;> exact nofun

/-- What a container gives is what its parts give. -/
theorem descend_eq_ok {α : Type} {depth : Nat} {parts : Nat → Cursor → Except Fault (α × Cursor)}
    {c c' : Cursor} {a : α} (h : c.descend depth parts = .ok (a, c')) :
    ∃ less, parts less c.advance = .ok (a, c') := by
  cases depth with
  | zero => cases h
  | succ less => exact ⟨less, h⟩

theorem settleMembers_eq_ok {α : Type} {verdict : Except String α} {c c' : Cursor} {a : α}
    (h : c.settleMembers verdict = .ok (a, c')) : verdict = .ok a := by
  unfold settleMembers at h
  split at h
  · obtain ⟨rfl, -⟩ := Prod.mk.inj (Except.ok.inj h)
    rfl
  · cases h

end Cursor

open Cursor

theorem Atom.accepted_of_read {α : Type} {atom : Atom α} {c c' : Cursor} {value : α}
    (h : atom.read c = .ok (value, c')) : ∃ given, atom.accept given = .ok value := by
  unfold Atom.read at h
  dsimp only at h
  split at h
  · exact absurd h refuse_ne_ok
  split at h
  · cases h
  split at h
  · next given _ _ _ haccept =>
    obtain ⟨rfl, -⟩ := Prod.mk.inj (Except.ok.inj h)
    exact ⟨_, haccept⟩
  · cases h

mutual

/-- **What is read from a text** is admitted. -/
theorem Schema.admits_of_read : ∀ {α : Type} (s : Schema α) {depth : Nat} {c c' : Cursor}
    {value : α}, s.read depth c = .ok (value, c') → s.Admits value
  | _, .any, _, _, _, _, _ => trivial
  | _, .atom a, _, _, _, _, h => a.accepted_of_read h
  | _, .option s, depth, c, c', value, h => by
    unfold Schema.read at h
    dsimp only at h
    split at h
    · obtain ⟨behind, -, heq⟩ := map_eq_ok_iff.mp h
      obtain ⟨rfl, -⟩ := Prod.mk.inj heq
      exact nofun
    · obtain ⟨⟨inner, behind⟩, hinner, heq⟩ := map_eq_ok_iff.mp h
      obtain ⟨rfl, -⟩ := Prod.mk.inj heq
      rintro _ ⟨⟩
      exact s.admits_of_read hinner
  | _, .list s, depth, c, c', values, h => by
    unfold Schema.read at h
    dsimp only at h
    split at h
    · obtain ⟨less, h⟩ := descend_eq_ok h
      obtain ⟨⟨items, behind⟩, hitems, h⟩ := bind_eq_ok_iff.mp h
      obtain ⟨rfl, -⟩ := Prod.mk.inj (Except.ok.inj h)
      exact forall_of_readItems (fun _ _ _ => s.admits_of_read) hitems nofun
    · exact absurd h refuse_ne_ok
  | _, .record name fields, depth, c, c', value, h => by
    unfold Schema.read at h
    dsimp only at h
    split at h
    · obtain ⟨less, h⟩ := descend_eq_ok h
      obtain ⟨⟨record, behind⟩, hitems, h⟩ := bind_eq_ok_iff.mp h
      obtain ⟨ended, -, h⟩ := bind_eq_ok_iff.mp h
      obtain ⟨rfl, -⟩ := Prod.mk.inj (Except.ok.inj h)
      exact fields.admits_of_readItems hitems
    split at h
    · obtain ⟨less, h⟩ := descend_eq_ok h
      obtain ⟨⟨slots, behind⟩, hmembers, h⟩ := bind_eq_ok_iff.mp h
      refine fields.admits_of_finish ?_ (settleMembers_eq_ok h)
      refine readMembers_keeps ?_ hmembers fields.admitsSlots_blank
      intro key taken colon taken' behind' hmember htaken
      split at hmember
      · next hread => exact fields.admitsSlots_readMember hread hmember htaken
      · -- a member that no field has is skipped
        obtain ⟨start, -, hmember⟩ := bind_eq_ok_iff.mp (mapError_eq_ok_iff.mp hmember)
        obtain ⟨skipped, -, hmember⟩ := bind_eq_ok_iff.mp hmember
        obtain ⟨rfl, -⟩ := Prod.mk.inj (Except.ok.inj hmember)
        exact htaken
    · exact absurd h refuse_ne_ok
  | _, .merged name own others, depth, c, c', (value, rest), h => by
    unfold Schema.read at h
    dsimp only at h
    split at h
    · obtain ⟨less, h⟩ := descend_eq_ok h
      obtain ⟨⟨⟨slots, kept⟩, behind⟩, hmembers, h⟩ := bind_eq_ok_iff.mp h
      have hverdict := settleMembers_eq_ok h
      obtain ⟨first, hfirst, hverdict⟩ := bind_eq_ok_iff.mp hverdict
      obtain ⟨slots', hslots', hverdict⟩ := bind_eq_ok_iff.mp hverdict
      obtain ⟨second, hsecond, hverdict⟩ := bind_eq_ok_iff.mp hverdict
      obtain ⟨rfl, rfl⟩ := Prod.mk.inj (Except.ok.inj hverdict)
      refine ⟨own.admits_of_finish ?_ hfirst, others.admits_of_finish
        (foldlM_keeps (fun _ _ _ => others.admitsSlots_put) hslots' others.admitsSlots_blank)
        hsecond⟩
      refine readMembers_keeps (P := fun taken => own.AdmitsSlots taken.1) ?_ hmembers
        own.admitsSlots_blank
      intro key taken colon taken' behind' hmember htaken
      split at hmember
      · next hread =>
        obtain ⟨⟨more, after⟩, hmore, heq⟩ := map_eq_ok_iff.mp hmember
        obtain ⟨rfl, -⟩ := Prod.mk.inj heq
        exact own.admitsSlots_readMember hread hmore htaken
      · -- it is kept for the other record, and put there in the end
        obtain ⟨⟨more, after⟩, -, heq⟩ := map_eq_ok_iff.mp hmember
        obtain ⟨rfl, -⟩ := Prod.mk.inj heq
        exact htaken
    · exact absurd h refuse_ne_ok
  | _, .convert forth back s, depth, c, c', value, h => by
    obtain ⟨⟨inner, behind⟩, hinner, heq⟩ := map_eq_ok_iff.mp h
    obtain ⟨rfl, -⟩ := Prod.mk.inj heq
    exact ⟨inner, s.admits_of_read hinner, rfl⟩

theorem Fields.admitsSlots_readMember : ∀ {σ ρ : Type} (fields : Fields σ ρ) {depth : Nat}
    {name : String} {slots slots' : σ} {c c' : Cursor} {read : Except Fault (σ × Cursor)},
      fields.readMember depth name slots c = some read → read = .ok (slots', c') →
        fields.AdmitsSlots slots → fields.AdmitsSlots slots'
  | _, _, .done, _, _, _, _, _, _, _, _, _, _ => trivial
  | _, _, .field key s absent omits others, depth, name, (slot, slots), slots', c, c', read, hread,
      h, hslots => by
    subst h
    unfold Fields.readMember at hread
    split at hread
    · split at hread
      · cases Option.some.inj hread
      · obtain ⟨start, -, h⟩ := bind_eq_ok_iff.mp (mapError_eq_ok_iff.mp (Option.some.inj hread))
        obtain ⟨⟨value, behind⟩, hvalue, h⟩ := bind_eq_ok_iff.mp h
        obtain ⟨rfl, -⟩ := Prod.mk.inj (Except.ok.inj h)
        refine ⟨?_, hslots.2⟩
        rintro _ ⟨⟩
        exact s.admits_of_read hvalue
    · obtain ⟨inner, hinner, h⟩ := Option.map_eq_some_iff.mp hread
      obtain ⟨⟨more, behind⟩, hmore, heq⟩ := map_eq_ok_iff.mp h
      obtain ⟨rfl, -⟩ := Prod.mk.inj heq
      exact ⟨hslots.1, others.admitsSlots_readMember hinner hmore hslots.2⟩

theorem Fields.admits_of_readItems : ∀ {σ ρ : Type} (fields : Fields σ ρ) {name : String}
    {depth total done : Nat} {c c' : Cursor} {value : ρ},
      fields.readItems name depth total done c = .ok (value, c') → fields.Admits value
  | _, _, .done, _, _, _, _, _, _, _, _ => trivial
  | _, _, .field key s absent omits others, name, depth, total, done, c, c', value, h => by
    unfold Fields.readItems at h
    obtain ⟨⟨more, start⟩, -, h⟩ := bind_eq_ok_iff.mp h
    dsimp only at h
    split at h
    · obtain ⟨⟨first, behind⟩, hfirst, h⟩ := bind_eq_ok_iff.mp h
      obtain ⟨⟨rest, behind'⟩, hrest, h⟩ := bind_eq_ok_iff.mp h
      obtain ⟨rfl, -⟩ := Prod.mk.inj (Except.ok.inj h)
      exact ⟨Or.inl (s.admits_of_read (mapError_eq_ok_iff.mp hfirst)),
        others.admits_of_readItems hrest⟩
    split at h
    · next given habsent =>
      obtain ⟨⟨first, behind⟩, hfirst, h⟩ := bind_eq_ok_iff.mp h
      obtain ⟨⟨rest, behind'⟩, hrest, h⟩ := bind_eq_ok_iff.mp h
      obtain ⟨rfl, -⟩ := Prod.mk.inj (Except.ok.inj h)
      obtain ⟨rfl, -⟩ := Prod.mk.inj (Except.ok.inj hfirst)
      exact ⟨Or.inr (Absence.ofObject?_of_ofArray? habsent), others.admits_of_readItems hrest⟩
    · cases h

end

namespace Schema

variable {α : Type} {s : Schema α} {value : α}

theorem admits_of_decode {given : Json} (h : s.decode given = .ok value) : s.Admits value :=
  s.admits_of_ofJson h

theorem admits_of_parseFront {text : List Glyph} (h : s.parseFront text = .ok value) :
    s.Admits value := by
  obtain ⟨⟨_, behind⟩, hread, rfl⟩ := map_eq_ok_iff.mp h
  exact s.admits_of_read hread

theorem admits_of_parse {text : List Glyph} (h : s.parse text = .ok value) : s.Admits value := by
  obtain ⟨⟨_, behind⟩, hread, hrest⟩ := bind_eq_ok_iff.mp h
  obtain ⟨_, -, hvalue⟩ := bind_eq_ok_iff.mp hrest
  obtain rfl := Except.ok.inj hvalue
  exact s.admits_of_read hread

end Schema

end Json

end TaskDaemon
