import Mathlib.Data.List.Induction
import TaskDaemon.Json.Schema
import TaskDaemon.Proofs.Attempt
import TaskDaemon.Proofs.Json.Canonical

/-!
# Reading what was written

Two laws of schemas, whatever the schema: a value is read back from the JSON that stands for it
(`TaskDaemon.Json.Schema.ofJson_toJson`), and what is read from a JSON value is read from its
canonical form too (`TaskDaemon.Json.Schema.ofJson_canonical`).

Records make the two laws worth stating. A record is read by a fold over the members of an object,
and that fold comes to what each key says for itself (`TaskDaemon.Json.Fields.Takes`,
`TaskDaemon.Json.Fields.foldlM_put_eq_ok_iff`): nothing under a key whose members are none, the one
member's value where there is one, and a refusal where there are more. So neither the order of the
members nor what stands between them makes a difference.

* `TaskDaemon.Json.Schema.Tidy`: no record of a schema has a key twice;
* `TaskDaemon.Json.Schema.Writes`: the values that a schema writes so that they can be told again.
-/

namespace TaskDaemon

namespace Json

open Attempt

mutual

/-- **No record has a key twice**, at any depth. -/
def Schema.Tidy : {α : Type} → Schema α → Prop
  | _, .any => True
  | _, .atom _ => True
  | _, .option s => s.Tidy
  | _, .list s => s.Tidy
  | _, .record _ fields => fields.keys.Nodup ∧ fields.Tidy
  | _, .merged _ own others => (own.keys ++ others.keys).Nodup ∧ own.Tidy ∧ others.Tidy
  | _, .convert _ _ s => s.Tidy

/-- The same of the fields of a record. -/
def Fields.Tidy : {σ ρ : Type} → Fields σ ρ → Prop
  | _, _, .done => True
  | _, _, .field _ s _ _ others => s.Tidy ∧ others.Tidy

end

mutual

/-- **A value that can be told again** from the JSON that stands for it. An optional value must not
look like none, and what a record leaves out must be what its absence stands for. -/
def Schema.Writes : {α : Type} → Schema α → α → Prop
  | _, .any, value => value.canonical = value
  | _, .atom a, value => a.accept (a.toJson value) = .ok value
  | _, .option _, none => True
  | _, .option s, some value => s.toJson value ≠ .null ∧ s.Writes value
  | _, .list s, values => ∀ value ∈ values, s.Writes value
  | _, .record _ fields, value => fields.Writes value
  | _, .merged _ own others, (value, rest) => own.Writes value ∧ others.Writes rest
  | _, .convert forth back s, value => s.Writes (back value) ∧ forth (back value) = value

/-- The same of a record. -/
def Fields.Writes : {σ ρ : Type} → Fields σ ρ → ρ → Prop
  | _, _, .done, _ => True
  | _, _, .field _ s absent omits others, (value, rest) =>
    (if omits value then absent.ofObject? = some value else s.Writes value) ∧ others.Writes rest

end

/-! ### Records, key by key -/

section Members

variable {key name : String} {value : Json} {members more : List (String × Json)}

theorem membersOf_append (key : String) (members more : List (String × Json)) :
    membersOf key (members ++ more) = membersOf key members ++ membersOf key more :=
  List.filter_append ..

theorem membersOf_singleton (key name : String) (value : Json) :
    membersOf key [(name, value)] = if name = key then [(name, value)] else [] := by
  unfold membersOf
  by_cases h : name = key <;> simp [h]

theorem membersOf_append_of_ne (h : name ≠ key) :
    membersOf key (members ++ [(name, value)]) = membersOf key members := by
  rw [membersOf_append, membersOf_singleton, if_neg h, List.append_nil]

theorem membersOf_cons_of_ne (h : name ≠ key) :
    membersOf key ((name, value) :: members) = membersOf key members := by
  simp [membersOf, h]

theorem membersOf_cons_self :
    membersOf key ((key, value) :: members) = (key, value) :: membersOf key members := by
  simp [membersOf]

end Members

namespace Fields

/-- **What has been read of the members of an object**: under each key its value, if it stands
there; it stands there once at most. -/
def Takes : {σ ρ : Type} → Fields σ ρ → Surplus → List (String × Json) → σ → Prop
  | _, _, .done, _, _, _ => True
  | _, _, .field key s _ _ others, surplus, members, (slot, slots) =>
    ((membersOf key members = [] ∧ slot = none) ∨
      ∃ m value, membersOf key members = [m] ∧ s.ofJson surplus m.2 = .ok value ∧
        slot = some value) ∧
    others.Takes surplus members slots

variable {surplus : Surplus}

/-- **What is read depends on the known keys only.** -/
theorem Takes.congr : ∀ {σ ρ : Type} {fields : Fields σ ρ} {members more : List (String × Json)}
    {slots : σ}, (∀ key ∈ fields.keys, membersOf key members = membersOf key more) →
      fields.Takes surplus members slots → fields.Takes surplus more slots
  | _, _, .done, _, _, _, _, _ => trivial
  | _, _, .field key s absent omits others, members, more, (slot, slots), hkeys, h => by
    refine ⟨?_, h.2.congr fun name hname => hkeys name (List.mem_cons_of_mem _ hname)⟩
    rw [← hkeys key List.mem_cons_self]
    exact h.1

theorem takes_nil : ∀ {σ ρ : Type} {fields : Fields σ ρ} {slots : σ},
    fields.Takes surplus [] slots ↔ slots = fields.blank
  | _, _, .done, () => ⟨fun _ => rfl, fun _ => trivial⟩
  | _, _, .field key s absent omits others, (slot, slots) => by
    constructor
    · rintro ⟨⟨-, hslot⟩ | ⟨m, value, hm, -⟩, hslots⟩
      · exact Prod.ext hslot (takes_nil.mp hslots)
      · cases hm
    · intro h
      obtain ⟨hslot, hslots⟩ := Prod.mk.inj h
      exact ⟨Or.inl ⟨rfl, hslot⟩, takes_nil.mpr hslots⟩

/-- **One member more** is taken if its key is new or unknown, and its value fits. -/
theorem takes_append_singleton : ∀ {σ ρ : Type} {fields : Fields σ ρ}, fields.keys.Nodup →
    ∀ {members : List (String × Json)} {name : String} {value : Json} {slots' : σ},
      fields.Takes surplus (members ++ [(name, value)]) slots' ↔
        ∃ slots, fields.Takes surplus members slots ∧
          fields.put surplus name value slots = .ok slots'
  | _, _, .done, _, _, _, _, () => ⟨fun _ => ⟨(), trivial, rfl⟩, fun _ => trivial⟩
  | _, _, .field key s absent omits others, hnodup, members, name, value, (slot', slots') => by
    obtain ⟨hkey, hothers⟩ := List.nodup_cons.mp hnodup
    by_cases hname : name = key
    · subst hname
      -- The member belongs to this field, and to no other.
      have hsame : ∀ other ∈ others.keys,
          membersOf other (members ++ [(name, value)]) = membersOf other members := by
        intro other hother
        exact membersOf_append_of_ne fun heq => hkey (heq ▸ hother)
      have happend : membersOf name (members ++ [(name, value)]) =
          membersOf name members ++ [(name, value)] := by
        rw [membersOf_append, membersOf_singleton, if_pos rfl]
      constructor
      · rintro ⟨⟨hnone, -⟩ | ⟨m, read, hone, hread, hslot⟩, htakes⟩
        · rw [happend] at hnone
          simp at hnone
        · rw [happend] at hone
          obtain ⟨hnone, rfl⟩ : membersOf name members = [] ∧ (name, value) = m := by
            simpa [List.append_eq_cons_iff] using hone
          refine ⟨(none, slots'), ⟨Or.inl ⟨hnone, rfl⟩, htakes.congr hsame⟩, ?_⟩
          simp only [put, if_true]
          rw [hread, hslot]
          rfl
      · rintro ⟨⟨slot, slots⟩, ⟨hslot, htakes⟩, hput⟩
        simp only [put, if_true] at hput
        rcases hslot with ⟨hnone, rfl⟩ | ⟨m, read, -, -, rfl⟩
        · obtain ⟨read, hread, hslots⟩ := map_eq_ok_iff.mp hput
          obtain ⟨rfl, rfl⟩ := Prod.mk.inj hslots
          refine ⟨Or.inr ⟨(name, value), read, ?_, hread, rfl⟩,
            htakes.congr fun other hother => (hsame other hother).symm⟩
          rw [happend, hnone, List.nil_append]
        · cases hput
    · constructor
      · rintro ⟨hslot, htakes⟩
        rw [membersOf_append_of_ne hname] at hslot
        obtain ⟨slots, hslots, hput⟩ := (takes_append_singleton hothers).mp htakes
        refine ⟨(slot', slots), ⟨hslot, hslots⟩, ?_⟩
        simp only [put, if_neg hname, hput]
        rfl
      · rintro ⟨⟨slot, slots⟩, ⟨hslot, htakes⟩, hput⟩
        simp only [put, if_neg hname] at hput
        obtain ⟨after, hafter, hslots⟩ := map_eq_ok_iff.mp hput
        obtain ⟨rfl, rfl⟩ := Prod.mk.inj hslots
        refine ⟨?_, (takes_append_singleton hothers).mpr ⟨slots, htakes, hafter⟩⟩
        rw [membersOf_append_of_ne hname]
        exact hslot

/-- **Reading a record member by member** comes to what each key says. -/
theorem foldlM_put_eq_ok_iff {σ ρ : Type} {fields : Fields σ ρ} (hkeys : fields.keys.Nodup)
    (members : List (String × Json)) {slots : σ} :
    members.foldlM (fun slots m => fields.put surplus m.1 m.2 slots) fields.blank = .ok slots ↔
      fields.Takes surplus members slots := by
  induction members using List.reverseRecOn generalizing slots with
  | nil =>
    rw [takes_nil, List.foldlM_nil]
    exact ⟨fun h => (Except.ok.inj h).symm, fun h => congrArg Except.ok h.symm⟩
  | append_singleton members m ih =>
    rw [List.foldlM_append, bind_eq_ok_iff, takes_append_singleton hkeys]
    constructor
    · rintro ⟨before, hbefore, hput⟩
      refine ⟨before, ih.mp hbefore, ?_⟩
      simpa [List.foldlM_cons, List.foldlM_nil] using hput
    · rintro ⟨before, hbefore, hput⟩
      refine ⟨before, ih.mpr hbefore, ?_⟩
      simpa [List.foldlM_cons, List.foldlM_nil] using hput

/-- **The record of an object**, if every key says something fit and no field is missing. -/
theorem record_eq_ok_iff {σ ρ : Type} {fields : Fields σ ρ} (hkeys : fields.keys.Nodup)
    (members : List (String × Json)) {record : ρ} :
    (do
        let slots ← members.foldlM (fun slots m => fields.put surplus m.1 m.2 slots) fields.blank
        fields.finish slots : Except String ρ) = .ok record ↔
      ∃ slots, fields.Takes surplus members slots ∧ fields.finish slots = .ok record := by
  rw [bind_eq_ok_iff]
  simp only [foldlM_put_eq_ok_iff hkeys]

/-- **The last word on a field** of an object: what was read of it, or what its
absence stands for. -/
theorem finish_field_eq_ok_iff {α σ ρ : Type} {key : String} {s : Schema α}
    {absent : Absence α} {omits : α → Bool} {others : Fields σ ρ} {slot : Option α} {slots : σ}
    {record : α × ρ} :
    (Fields.field key s absent omits others).finish (slot, slots) = .ok record ↔
      (slot.orElse fun _ => absent.ofObject?) = some record.1 ∧
        others.finish slots = .ok record.2 := by
  obtain ⟨value, rest⟩ := record
  rw [Fields.finish]
  cases slot.orElse fun _ => absent.ofObject? with
  | none => exact ⟨nofun, nofun⟩
  | some found =>
    cases hrest : others.finish slots with
    | error message => simp [bind, Except.bind]
    | ok more => simp [bind, Except.bind]

/-- **A field taken from an array** is the next item, or there is none and the field may be
absent. -/
theorem ofItems_field_eq_ok {α σ ρ : Type} {key : String} {s : Schema α}
    {absent : Absence α} {omits : α → Bool} {others : Fields σ ρ} {name : String}
    {surplus : Surplus} {total done : Nat} {items left : List Json} {record : α × ρ}
    (h : (Fields.field key s absent omits others).ofItems name surplus total done items =
      .ok (record, left)) :
    ∃ more, others.ofItems name surplus total (done + 1) more = .ok (record.2, left) ∧
      ((∃ item, items = item :: more ∧ s.ofJson surplus item = .ok record.1) ∨
        (items = [] ∧ more = [] ∧ absent.ofArray? = some record.1)) := by
  cases items with
  | nil =>
    simp only [Fields.ofItems] at h
    cases habsent : absent.ofArray? with
    | none =>
      rw [habsent] at h
      cases h
    | some value =>
      rw [habsent] at h
      obtain ⟨_, htaken, h⟩ := bind_eq_ok_iff.mp h
      obtain rfl := Except.ok.inj htaken
      obtain ⟨⟨rest, left⟩, hrest, hrecord⟩ := bind_eq_ok_iff.mp h
      obtain ⟨rfl, rfl⟩ := Prod.mk.inj (Except.ok.inj hrecord)
      exact ⟨[], hrest, Or.inr ⟨rfl, rfl, rfl⟩⟩
  | cons item items =>
    simp only [Fields.ofItems] at h
    obtain ⟨taken, htaken, h⟩ := bind_eq_ok_iff.mp h
    obtain ⟨value, hvalue, rfl⟩ := map_eq_ok_iff.mp htaken
    obtain ⟨⟨rest, left⟩, hrest, hrecord⟩ := bind_eq_ok_iff.mp h
    obtain ⟨rfl, rfl⟩ := Prod.mk.inj (Except.ok.inj hrecord)
    exact ⟨items, hrest, Or.inl ⟨item, rfl, hvalue⟩⟩

end Fields

/-! ### Canonical form -/

theorem canonical_of_isScalar {value : Json} (h : value.isScalar = true) :
    value.canonical = value := by
  cases value with
  | array items => cases h
  | object members => cases h
  | _ => rfl

theorem canonical_eq_null_iff {value : Json} : value.canonical = .null ↔ value = .null := by
  cases value <;> simp [canonical]

theorem canonical_eq_string_iff {value : Json} {text : String} :
    value.canonical = .string text ↔ value = .string text := by
  cases value <;> simp [canonical]

/-- What is not null is read as a value. -/
theorem Schema.ofJson_option_of_ne_null {α : Type} (s : Schema α) {surplus : Surplus} {value : Json}
    (h : value ≠ .null) :
    (Schema.option s).ofJson surplus value = (s.ofJson surplus value).map some := by
  cases value with
  | null => exact absurd rfl h
  | _ => simp only [Schema.ofJson]

/-- Items that are read one by one are read from their canonical forms. -/
theorem mapM_canonical {α : Type} {read : Json → Except String α}
    (h : ∀ (value : Json) (a : α), read value = .ok a → read value.canonical = .ok a) :
    ∀ {items : List Json} {values : List α}, items.mapM read = .ok values →
      (canonicalItems items).mapM read = .ok values
  | [], _, hread => hread
  | item :: items, values, hread => by
    rw [List.mapM_cons] at hread
    obtain ⟨value, hvalue, hread⟩ := bind_eq_ok_iff.mp hread
    obtain ⟨more, hmore, hvalues⟩ := bind_eq_ok_iff.mp hread
    rw [canonicalItems, List.mapM_cons]
    exact bind_eq_ok_iff.mpr ⟨value, h item value hvalue,
      bind_eq_ok_iff.mpr ⟨more, mapM_canonical h hmore, hvalues⟩⟩

mutual

/-- **What is read from a value is read from its canonical form.** -/
theorem Schema.ofJson_canonical : ∀ {α : Type} (s : Schema α), s.Tidy → ∀ {surplus : Surplus}
    {value : Json} {a : α}, s.ofJson surplus value = .ok a →
      s.ofJson surplus value.canonical = .ok a
  | _, .any, _, surplus, value, a, h => by
    simp only [Schema.ofJson] at h ⊢
    rw [canonical_canonical]
    exact h
  | _, .atom atom, _, surplus, value, a, h => by
    simp only [Schema.ofJson] at h ⊢
    have haccept := mapError_eq_ok_iff.mp h
    rw [canonical_of_isScalar (atom.isScalar_of_accept haccept)]
    exact h
  | _, .option s, htidy, surplus, value, a, h => by
    by_cases hnull : value = .null
    · subst hnull
      exact h
    · have hcanonical : value.canonical ≠ .null := fun heq => hnull (canonical_eq_null_iff.mp heq)
      rw [s.ofJson_option_of_ne_null hnull] at h
      rw [s.ofJson_option_of_ne_null hcanonical]
      obtain ⟨inner, hinner, hsome⟩ := map_eq_ok_iff.mp h
      exact map_eq_ok_iff.mpr ⟨inner, s.ofJson_canonical htidy hinner, hsome⟩
  | _, .list s, htidy, surplus, value, a, h => by
    cases value with
    | array items =>
      simp only [Schema.ofJson, canonical] at h ⊢
      exact mapM_canonical (fun _ _ hread => s.ofJson_canonical htidy hread) h
    | _ => exact h
  | _, .record name fields, htidy, surplus, value, a, h => by
    obtain ⟨hkeys, htidy⟩ := htidy
    cases value with
    | array items =>
      simp only [Schema.ofJson, canonical] at h ⊢
      obtain ⟨⟨record, left⟩, hitems, hleft⟩ := bind_eq_ok_iff.mp h
      refine bind_eq_ok_iff.mpr
        ⟨(record, canonicalItems left), fields.ofItems_canonical htidy hitems, ?_⟩
      cases left with
      | nil => exact hleft
      | cons item left => cases hleft
    | object members =>
      simp only [Schema.ofJson, canonical] at h ⊢
      obtain ⟨slots, htakes, hfinish⟩ := (Fields.record_eq_ok_iff hkeys members).mp h
      exact (Fields.record_eq_ok_iff hkeys _).mpr
        ⟨slots, fields.takes_canonical htidy htakes, hfinish⟩
    | _ => exact h
  | _, .merged name own others, htidy, surplus, value, a, h => by
    obtain ⟨hkeys, hown, hothers⟩ := htidy
    cases value with
    | object members =>
      simp only [Schema.ofJson, canonical] at h ⊢
      obtain ⟨hownKeys, hothersKeys, -⟩ := List.nodup_append.mp hkeys
      obtain ⟨slots, hslots, h⟩ := bind_eq_ok_iff.mp h
      obtain ⟨value, hvalue, h⟩ := bind_eq_ok_iff.mp h
      obtain ⟨slots', hslots', h⟩ := bind_eq_ok_iff.mp h
      have htakes := (Fields.foldlM_put_eq_ok_iff hownKeys members).mp hslots
      have htakes' := (Fields.foldlM_put_eq_ok_iff hothersKeys members).mp hslots'
      refine bind_eq_ok_iff.mpr ⟨slots,
        (Fields.foldlM_put_eq_ok_iff hownKeys _).mpr (own.takes_canonical hown htakes), ?_⟩
      refine bind_eq_ok_iff.mpr ⟨value, hvalue, bind_eq_ok_iff.mpr ⟨slots', ?_, h⟩⟩
      exact (Fields.foldlM_put_eq_ok_iff hothersKeys _).mpr (others.takes_canonical hothers htakes')
    | _ => exact h
  | _, .convert forth back s, htidy, surplus, value, a, h => by
    simp only [Schema.ofJson] at h ⊢
    obtain ⟨inner, hinner, hforth⟩ := map_eq_ok_iff.mp h
    exact map_eq_ok_iff.mpr ⟨inner, s.ofJson_canonical htidy hinner, hforth⟩

theorem Fields.takes_canonical : ∀ {σ ρ : Type} (fields : Fields σ ρ), fields.Tidy →
    ∀ {surplus : Surplus} {members : List (String × Json)} {slots : σ},
      fields.Takes surplus members slots →
        fields.Takes surplus (canonicalMembers members []) slots
  | _, _, .done, _, _, _, _, _ => trivial
  | _, _, .field key s absent omits others, htidy, surplus, members, (slot, slots), h => by
    obtain ⟨hs, hothers⟩ := htidy
    refine ⟨?_, others.takes_canonical hothers h.2⟩
    rw [membersOf_canonicalMembers List.Pairwise.nil]
    rcases h.1 with ⟨hnone, hslot⟩ | ⟨m, value, hone, hread, hslot⟩
    · rw [hnone]
      exact Or.inl ⟨rfl, hslot⟩
    · rw [hone]
      exact Or.inr ⟨_, value, rfl, s.ofJson_canonical hs hread, hslot⟩

theorem Fields.ofItems_canonical : ∀ {σ ρ : Type} (fields : Fields σ ρ), fields.Tidy →
    ∀ {name : String} {surplus : Surplus} {total done : Nat} {items left : List Json} {record : ρ},
      fields.ofItems name surplus total done items = .ok (record, left) →
        fields.ofItems name surplus total done (canonicalItems items) =
          .ok (record, canonicalItems left)
  | _, _, .done, _, _, _, _, _, items, left, record, h => by
    simp only [Fields.ofItems] at h ⊢
    obtain ⟨rfl, rfl⟩ := Prod.mk.inj (Except.ok.inj h)
    rfl
  | _, _, .field key s absent omits others, htidy, name, surplus, total, done, items, left, record,
      h => by
    obtain ⟨hs, hothers⟩ := htidy
    have hothers' : ∀ (items' : List Json) {value},
        (do
            let __x ← others.ofItems name surplus total (done + 1) items'
            .ok ((value, __x.1), __x.2) : Except String _) = .ok (record, left) →
        (do
            let __x ← others.ofItems name surplus total (done + 1) (canonicalItems items')
            .ok ((value, __x.1), __x.2) : Except String _) = .ok (record, canonicalItems left) := by
      intro items' value hread
      obtain ⟨⟨rest, left'⟩, hrest, hpair⟩ := bind_eq_ok_iff.mp hread
      obtain ⟨rfl, rfl⟩ := Prod.mk.inj (Except.ok.inj hpair)
      exact bind_eq_ok_iff.mpr ⟨_, others.ofItems_canonical hothers hrest, rfl⟩
    cases items with
    | cons item more =>
      simp only [Fields.ofItems, canonicalItems] at h ⊢
      obtain ⟨⟨value, items'⟩, hvalue, h⟩ := bind_eq_ok_iff.mp h
      obtain ⟨read, hread, hpair⟩ := map_eq_ok_iff.mp hvalue
      obtain ⟨rfl, rfl⟩ := Prod.mk.inj hpair
      refine bind_eq_ok_iff.mpr ⟨(read, canonicalItems more), ?_, hothers' _ h⟩
      exact map_eq_ok_iff.mpr ⟨read, s.ofJson_canonical hs hread, rfl⟩
    | nil =>
      simp only [Fields.ofItems, canonicalItems] at h ⊢
      cases hdefault : absent.ofArray? with
      | some given =>
        rw [hdefault] at h
        exact hothers' [] h
      | none =>
        rw [hdefault] at h
        cases h

end

/-! ### Written and read again -/

/-- A record is written under its own keys. -/
theorem Fields.membersOf_toMembers : ∀ {σ ρ : Type} (fields : Fields σ ρ) {key : String},
    key ∉ fields.keys → ∀ record : ρ, membersOf key (fields.toMembers record) = []
  | _, _, .done, _, _, _ => rfl
  | _, _, .field name s absent omits others, key, hkey, (value, rest) => by
    have hname : name ≠ key := fun heq => hkey (heq ▸ List.mem_cons_self)
    have hothers := others.membersOf_toMembers
      (fun hmem => hkey (List.mem_cons_of_mem _ hmem)) rest
    simp only [Fields.toMembers]
    split
    · exact hothers
    · rw [membersOf_cons_of_ne hname]
      exact hothers

theorem mapM_map_toJson {α : Type} {read : Json → Except String α} {write : α → Json} :
    ∀ {values : List α}, (∀ value ∈ values, read (write value) = .ok value) →
      (values.map write).mapM read = .ok values
  | [], _ => rfl
  | value :: values, h => by
    rw [List.map_cons, List.mapM_cons]
    exact bind_eq_ok_iff.mpr ⟨value, h value List.mem_cons_self, bind_eq_ok_iff.mpr
      ⟨values, mapM_map_toJson fun more hmore => h more (List.mem_cons_of_mem _ hmore), rfl⟩⟩

mutual

/-- **A value is read back from the JSON that stands for it.** -/
theorem Schema.ofJson_toJson : ∀ {α : Type} (s : Schema α), s.Tidy → ∀ (surplus : Surplus)
    {value : α}, s.Writes value → s.ofJson surplus (s.toJson value) = .ok value
  | _, .any, _, surplus, value, h => congrArg Except.ok h
  | _, .atom atom, _, surplus, value, h => by
    simp only [Schema.Writes] at h
    simp only [Schema.ofJson, Schema.toJson]
    exact mapError_eq_ok_iff.mpr h
  | _, .option s, htidy, surplus, none, h => rfl
  | _, .option s, htidy, surplus, some value, h => by
    obtain ⟨hnull, hwrites⟩ := h
    have hread := s.ofJson_toJson htidy surplus hwrites
    simp only [Schema.toJson]
    rw [s.ofJson_option_of_ne_null hnull]
    exact map_eq_ok_iff.mpr ⟨value, hread, rfl⟩
  | _, .list s, htidy, surplus, values, h => by
    simp only [Schema.ofJson, Schema.toJson]
    exact mapM_map_toJson fun value hvalue => s.ofJson_toJson htidy surplus (h value hvalue)
  | _, .record name fields, htidy, surplus, value, h => by
    obtain ⟨hkeys, htidy⟩ := htidy
    simp only [Schema.ofJson, Schema.toJson]
    exact (Fields.record_eq_ok_iff hkeys _).mpr (fields.takes_toMembers hkeys htidy surplus h)
  | _, .merged name own others, htidy, surplus, (value, rest), h => by
    obtain ⟨hkeys, hown, hothers⟩ := htidy
    obtain ⟨hownKeys, hothersKeys, hapart⟩ := List.nodup_append.mp hkeys
    obtain ⟨slots, htakes, hfinish⟩ := own.takes_toMembers hownKeys hown surplus h.1
    obtain ⟨slots', htakes', hfinish'⟩ := others.takes_toMembers hothersKeys hothers surplus h.2
    -- Neither record says anything under a key of the other one.
    have hleft : ∀ key ∈ own.keys, membersOf key (own.toMembers value) =
        membersOf key (own.toMembers value ++ others.toMembers rest) := by
      intro key hkey
      rw [membersOf_append, others.membersOf_toMembers
        (fun hmem => hapart key hkey key hmem rfl), List.append_nil]
    have hright : ∀ key ∈ others.keys, membersOf key (others.toMembers rest) =
        membersOf key (own.toMembers value ++ others.toMembers rest) := by
      intro key hkey
      rw [membersOf_append, own.membersOf_toMembers
        (fun hmem => hapart key hmem key hkey rfl), List.nil_append]
    simp only [Schema.ofJson, Schema.toJson]
    refine bind_eq_ok_iff.mpr ⟨slots,
      (Fields.foldlM_put_eq_ok_iff hownKeys _).mpr (htakes.congr hleft), ?_⟩
    refine bind_eq_ok_iff.mpr ⟨value, hfinish, bind_eq_ok_iff.mpr ⟨slots',
      (Fields.foldlM_put_eq_ok_iff hothersKeys _).mpr (htakes'.congr hright), ?_⟩⟩
    exact bind_eq_ok_iff.mpr ⟨rest, hfinish', rfl⟩
  | _, .convert forth back s, htidy, surplus, value, h => by
    obtain ⟨hwrites, hforth⟩ := h
    simp only [Schema.ofJson, Schema.toJson]
    exact map_eq_ok_iff.mpr ⟨back value, s.ofJson_toJson htidy surplus hwrites, hforth⟩

theorem Fields.takes_toMembers : ∀ {σ ρ : Type} (fields : Fields σ ρ), fields.keys.Nodup →
    fields.Tidy → ∀ (surplus : Surplus) {record : ρ}, fields.Writes record →
      ∃ slots, fields.Takes surplus (fields.toMembers record) slots ∧
        fields.finish slots = .ok record
  | _, _, .done, _, _, _, (), _ => ⟨(), trivial, rfl⟩
  | _, _, .field key s absent omits others, hkeys, htidy, surplus, (value, rest), h => by
    obtain ⟨hs, hothers⟩ := htidy
    obtain ⟨hvalue, hrest⟩ := h
    obtain ⟨hkey, hnodup⟩ := List.nodup_cons.mp hkeys
    obtain ⟨slots, htakes, hfinish⟩ := others.takes_toMembers hnodup hothers surplus hrest
    have hnone : membersOf key (others.toMembers rest) = [] := others.membersOf_toMembers hkey rest
    simp only [Fields.toMembers, Fields.finish]
    by_cases homits : omits value = true
    · rw [if_pos homits] at hvalue ⊢
      refine ⟨(none, slots), ⟨Or.inl ⟨hnone, rfl⟩, htakes⟩, ?_⟩
      simp only [Option.orElse_none, hvalue, hfinish]
      rfl
    · rw [if_neg homits] at hvalue ⊢
      refine ⟨(some value, slots), ⟨Or.inr ⟨(key, s.toJson value), value, ?_,
        s.ofJson_toJson hs surplus hvalue, rfl⟩, htakes.congr fun other hother => ?_⟩, ?_⟩
      · rw [membersOf_cons_self, hnone]
      · have hne : key ≠ other := by
          rintro rfl
          exact hkey hother
        exact (membersOf_cons_of_ne hne).symm
      · simp only [Option.orElse_some, hfinish]
        rfl

end

end Json

end TaskDaemon
