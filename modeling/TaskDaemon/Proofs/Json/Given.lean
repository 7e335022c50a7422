import TaskDaemon.Proofs.Json.Shape

/-!
# Records of plain objects

An object that has no key twice is plain (`TaskDaemon.Json.IsPlain`), and what a record reads from a
plain object is said field by field, with no loop left in it (`TaskDaemon.Json.Fields.Gives`): the
value under the field's key, or what the absence of the field stands for. So a record that is read
knows nothing of the order of the members, nor of those under keys that it does not have.

| shape | what it reads from a plain object |
|---|---|
| a record | `TaskDaemon.Json.Schema.ofJson_record_iff` |
| two records out of one object | `TaskDaemon.Json.Schema.ofJson_merged_iff` |
| one of these, converted | `TaskDaemon.Json.Schema.ofJson_convert_iff` |
-/

namespace TaskDaemon

namespace Json

open Attempt

/-- **An object that has no key twice.** -/
def IsPlain : Json → Prop
  | .object members => (members.map Prod.fst).Nodup
  | _ => False

instance (value : Json) : Decidable value.IsPlain := by
  cases value with
  | object members => exact inferInstanceAs (Decidable (members.map Prod.fst).Nodup)
  | _ => exact inferInstanceAs (Decidable False)

section Plain

variable {members : List (String × Json)}

/-- **A key of a plain object has one member at most**, the one that is found. -/
theorem membersOf_eq_toList (h : (members.map Prod.fst).Nodup) (key : String) :
    membersOf key members =
      (((Json.object members).member? key).map fun value => (key, value)).toList := by
  have hkey : ∀ m ∈ membersOf key members, m.1 = key := fun m hm =>
    of_decide_eq_true (List.mem_filter.mp hm).2
  have hnodup : ((membersOf key members).map Prod.fst).Nodup :=
    h.sublist (List.filter_sublist.map Prod.fst)
  rw [member?_object]
  rcases hfound : membersOf key members with _ | ⟨m, _ | ⟨n, more⟩⟩
  · rfl
  · rw [hfound] at hkey
    obtain rfl : m.1 = key := hkey m List.mem_cons_self
    rfl
  · rw [hfound] at hkey hnodup
    have hsame : m.1 = n.1 := (hkey m (by simp)).trans (hkey n (by simp)).symm
    simp [hsame] at hnodup

/-- **What is found under a key of a plain object** is what stands there. -/
theorem member?_eq_some_iff_mem (h : (members.map Prod.fst).Nodup) {key : String} {value : Json} :
    (Json.object members).member? key = some value ↔ (key, value) ∈ members := by
  have hmem : (key, value) ∈ membersOf key members ↔ (key, value) ∈ members := by
    simp [membersOf]
  rw [← hmem, membersOf_eq_toList h]
  cases (Json.object members).member? key with
  | none => simp
  | some found => simp [eq_comm]

end Plain

/-- **The value of a field**: that of what was found under its key, or what its absence stands
for. -/
def Schema.Gives {α : Type} (s : Schema α) (surplus : Surplus) (absent : Absence α)
    (found : Option Json) (value : α) : Prop :=
  match found with
  | some given => s.ofJson surplus given = .ok value
  | none => absent.ofObject? = some value

namespace Fields

/-- **What an object gives for a record**, field by field. -/
def Gives : {σ ρ : Type} → Fields σ ρ → Surplus → Json → ρ → Prop
  | _, _, .done, _, _, _ => True
  | _, _, .field key s absent _ others, surplus, given, (value, rest) =>
    s.Gives surplus absent (given.member? key) value ∧ others.Gives surplus given rest

variable {surplus : Surplus} {members : List (String × Json)}

/-- **What is taken from the members of a plain object** makes the record that the object gives. -/
theorem takes_finish_iff (h : (members.map Prod.fst).Nodup) : ∀ {σ ρ : Type} (fields : Fields σ ρ)
    {record : ρ}, (∃ slots, fields.Takes surplus members slots ∧
      fields.finish slots = .ok record) ↔ fields.Gives surplus (.object members) record
  | _, _, .done, _ => ⟨fun _ => trivial, fun _ => ⟨(), trivial, rfl⟩⟩
  | _, _, .field key s absent omits others, (value, rest) => by
    simp only [Gives, ← others.takes_finish_iff h, Takes, membersOf_eq_toList h key, Schema.Gives]
    cases (Json.object members).member? key with
    | none =>
      constructor
      · rintro ⟨⟨slot, slots⟩, ⟨⟨-, rfl⟩ | ⟨m, read, hm, -⟩, htakes⟩, hfinish⟩
        · obtain ⟨habsent, hrest⟩ := finish_field_eq_ok_iff.mp hfinish
          exact ⟨habsent, slots, htakes, hrest⟩
        · cases hm
      · rintro ⟨habsent, slots, htakes, hrest⟩
        exact ⟨(none, slots), ⟨Or.inl ⟨rfl, rfl⟩, htakes⟩,
          finish_field_eq_ok_iff.mpr ⟨habsent, hrest⟩⟩
    | some given =>
      constructor
      · rintro ⟨⟨slot, slots⟩, ⟨⟨hm, -⟩ | ⟨m, read, hm, hread, rfl⟩, htakes⟩, hfinish⟩
        · cases hm
        · obtain ⟨hvalue, hrest⟩ := finish_field_eq_ok_iff.mp hfinish
          obtain rfl : read = value := Option.some.inj hvalue
          obtain rfl : (key, given) = m := (List.cons.inj hm).1
          exact ⟨hread, slots, htakes, hrest⟩
      · rintro ⟨hread, slots, htakes, hrest⟩
        exact ⟨(some value, slots), ⟨Or.inr ⟨(key, given), value, rfl, hread, rfl⟩, htakes⟩,
          finish_field_eq_ok_iff.mpr ⟨rfl, hrest⟩⟩

end Fields

namespace Schema

variable {surplus : Surplus} {object : Json}

/-- **A record of a plain object** is what the object gives for it. -/
theorem ofJson_record_iff {σ ρ : Type} {name : String} {fields : Fields σ ρ}
    (hkeys : fields.keys.Nodup) (hplain : object.IsPlain) {record : ρ} :
    (Schema.record name fields).ofJson surplus object = .ok record ↔
      fields.Gives surplus object record := by
  cases object with
  | object members =>
    rw [← fields.takes_finish_iff hplain, ← Fields.record_eq_ok_iff hkeys]
    rfl
  | _ => exact hplain.elim

/-- **Two records out of one plain object** are what the object gives for each. -/
theorem ofJson_merged_iff {σ ρ τ υ : Type} {name : String} {own : Fields σ ρ} {others : Fields τ υ}
    (hkeys : (own.keys ++ others.keys).Nodup) (hplain : object.IsPlain) {record : ρ × υ} :
    (Schema.merged name own others).ofJson surplus object = .ok record ↔
      own.Gives surplus object record.1 ∧ others.Gives surplus object record.2 := by
  obtain ⟨hown, hothers, -⟩ := List.nodup_append.mp hkeys
  cases object with
  | object members =>
    rw [← own.takes_finish_iff hplain, ← others.takes_finish_iff hplain]
    simp only [Schema.ofJson, bind_eq_ok_iff, Fields.foldlM_put_eq_ok_iff hown,
      Fields.foldlM_put_eq_ok_iff hothers]
    constructor
    · rintro ⟨slots, htakes, value, hvalue, slots', htakes', rest, hrest, hrecord⟩
      obtain rfl := Except.ok.inj hrecord
      exact ⟨⟨slots, htakes, hvalue⟩, slots', htakes', hrest⟩
    · rintro ⟨⟨slots, htakes, hvalue⟩, slots', htakes', hrest⟩
      exact ⟨slots, htakes, record.1, hvalue, slots', htakes', record.2, hrest, rfl⟩
  | _ => exact hplain.elim

/-- **A value that is converted there and back** is read as what it is converted from. -/
theorem ofJson_convert_iff {α β : Type} {forth : α → β} {back : β → α} {s : Schema α}
    (hback : Function.LeftInverse back forth) (hforth : Function.RightInverse back forth) {b : β} :
    (Schema.convert forth back s).ofJson surplus object = .ok b ↔
      s.ofJson surplus object = .ok (back b) := by
  simp only [Schema.ofJson]
  rw [map_eq_ok_iff]
  constructor
  · rintro ⟨a, hread, rfl⟩
    rwa [hback]
  · exact fun hread => ⟨back b, hread, hforth b⟩

end Schema

end Json

end TaskDaemon
