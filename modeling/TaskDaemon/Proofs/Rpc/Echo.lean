import TaskDaemon.Proofs.Json.Shape
import TaskDaemon.Proofs.Rpc.Shapes
import TaskDaemon.Proofs.Rpc.Verdict

/-!
# The id in a reply

A reply repeats the id of its request, by which a client that has asked for more than one thing
tells the replies apart. The service has the id twice: it looks under the key `id` of the JSON value
that the line is, and it has the id of the request that the value is read as. The first is all there
is where the value is no request, and the second is what a request in array form has, since an array
has no keys.

| the line | the id of the reply | the id that is due |
|---|---|---|
| no request | under the key | under the key |
| a request of another version | under the key | of the request |
| a request of this version | of the request | of the request |

* `TaskDaemon.Rpc.Owes`: the id that is due to a line that is JSON;
* `TaskDaemon.Rpc.Request.id_of_object`, `TaskDaemon.Rpc.Request.eq_of_array`: where a request has
  its id from, in either form;
* `TaskDaemon.Rpc.Slighted`: the lines whose id is not repeated, which are the requests of another
  version that have an id and are in array form;
* `TaskDaemon.Rpc.id_told_iff`: the reply to any other line repeats the id that is due, whatever
  comes of the line.
-/

namespace TaskDaemon

namespace Rpc

open Attempt Json

/-! ### Where a request has its id from -/

/-- A text is read from a string. -/
theorem eq_string_of_textSchema {surplus : Surplus} {value : Json} {text : String}
    (h : textSchema.ofJson surplus value = .ok text) : value = .string text := by
  have haccept := mapError_eq_ok_iff.mp h
  cases value with
  | string s => exact congrArg Json.string (Except.ok.inj haccept)
  | _ => cases haccept

namespace Request

/-- **The id of a request in object form** stands under its key. -/
theorem id_of_object {members : List (String × Json)} {request : Request}
    (h : schema.decode (.object members) = .ok request) :
    request.id = (((Json.object members).member? "id").getD .null).canonical := by
  obtain ⟨⟨version, method, params, id, _⟩, hrecord, rfl⟩ := map_eq_ok_iff.mp h
  obtain ⟨⟨_, _, _, slot, _⟩, ⟨-, -, -, htakes, -⟩, hfinish⟩ :=
    (Fields.record_eq_ok_iff tidy_schema.1 members).mp hrecord
  obtain ⟨-, hfinish⟩ := Fields.finish_field_eq_ok_iff.mp hfinish
  obtain ⟨-, hfinish⟩ := Fields.finish_field_eq_ok_iff.mp hfinish
  obtain ⟨-, hfinish⟩ := Fields.finish_field_eq_ok_iff.mp hfinish
  obtain ⟨hid, -⟩ := Fields.finish_field_eq_ok_iff.mp hfinish
  rw [member?_object]
  rcases htakes with ⟨hnone, rfl⟩ | ⟨m, value, hone, hread, rfl⟩
  · rw [hnone]
    exact (Option.some.inj hid).symm
  · rw [hone]
    obtain rfl := Except.ok.inj hread
    exact (Option.some.inj hid).symm

/-- **A request in array form that has an id** is an array of four: version, method, parameters, and
the id. -/
theorem eq_of_array {items : List Json} {request : Request}
    (h : schema.decode (.array items) = .ok request) (hid : request.id ≠ .null) :
    ∃ params id, items = [.string request.version, .string request.method, params, id] ∧
      request.id = id.canonical := by
  obtain ⟨⟨version, method, params, id, _⟩, hrecord, rfl⟩ := map_eq_ok_iff.mp h
  obtain ⟨⟨record, left⟩, hitems, hleft⟩ := bind_eq_ok_iff.mp hrecord
  cases left with
  | cons item left => cases hleft
  | nil =>
  obtain rfl := Except.ok.inj hleft
  obtain ⟨_, hitems₁, ⟨first, rfl, hversion⟩ | ⟨-, -, habsent⟩⟩ :=
    Fields.ofItems_field_eq_ok hitems
  swap
  · cases habsent
  obtain ⟨_, hitems₂, ⟨second, rfl, hmethod⟩ | ⟨-, -, habsent⟩⟩ :=
    Fields.ofItems_field_eq_ok hitems₁
  swap
  · cases habsent
  obtain rfl := eq_string_of_textSchema hversion
  obtain rfl := eq_string_of_textSchema hmethod
  obtain ⟨_, hitems₃, hparams⟩ := Fields.ofItems_field_eq_ok hitems₂
  obtain ⟨_, hitems₄, hlast⟩ := Fields.ofItems_field_eq_ok hitems₃
  obtain rfl := (Prod.mk.inj (Except.ok.inj hitems₄)).2
  rcases hlast with ⟨id', rfl, hread⟩ | ⟨-, -, habsent⟩
  · rcases hparams with ⟨params', rfl, -⟩ | ⟨-, hnil, -⟩
    · exact ⟨params', id', rfl, (Except.ok.inj hread).symm⟩
    · cases hnil
  · exact absurd (Option.some.inj habsent).symm hid

end Request

/-! ### The id that is due -/

/-- **The id that is due to a line** that is JSON: that of the request that it is, or else what
stands under the key. -/
inductive Owes (line : String) : Json → Prop where
  /-- The line is a request. -/
  | request {value : Json} {request : Request}
      (hparse : Json.parse (Glyph.ofString line) = .ok value)
      (hdecode : Request.schema.decode value.canonical = .ok request) : Owes line request.id
  /-- The line is other JSON. -/
  | other {value : Json} {message : String}
      (hparse : Json.parse (Glyph.ofString line) = .ok value)
      (hdecode : Request.schema.decode value.canonical = .error message) :
      Owes line (((value.member? "id").map canonical).getD .null)

/-- **A line whose id is not repeated**: a request in array form, of another version, that has an
id. -/
def Slighted (line : String) : Prop :=
  ∃ given method params id, id ≠ .null ∧ given ≠ version ∧
    Json.parse (Glyph.ofString line) = .ok (.array [.string given, .string method, params, id])

/-- The id in the JSON of a reply. -/
theorem Reply.member?_id (reply : Reply) :
    reply.toJson.member? "id" = some reply.id.canonical := by
  rw [reply.toJson_eq]
  cases reply.outcome <;> rfl

section Told

variable {line : String} {value : Json} {request : Request}

/-- **JSON that is no request, or one of another version**, is told the id under the key. -/
theorem member?_id_of_not_asks (snapshot : ProcessSnapshot) (backend : Backend) (now : Instant)
    (hparse : Json.parse (Glyph.ofString line) = .ok value) (h : ¬∃ request, Asks line request) :
    (handle snapshot backend now line).1.toJson.member? "id" =
      some (((value.member? "id").map canonical).getD .null) := by
  have hid :
      (handle snapshot backend now line).1.id = (value.canonical.member? "id").getD .null := by
    unfold handle
    simp only [hparse]
    unfold handleValue
    cases hdecode : Request.schema.decode value.canonical with
    | error message => rfl
    | ok request =>
      have hversion : request.version ≠ version :=
        fun heq => h ⟨request, value, hparse, hdecode, heq⟩
      dsimp only
      rw [if_pos hversion]
      rfl
  rw [Reply.member?_id, hid, member?_canonical]
  cases value.member? "id" with
  | none => rfl
  | some id => exact congrArg some (canonical_canonical id)

/-- The id of a request is in canonical form. -/
theorem Request.canonical_id (hdecode : Request.schema.decode value = .ok request) :
    request.id.canonical = request.id := by
  cases value with
  | object members => rw [id_of_object hdecode, canonical_canonical]
  | array items =>
    by_cases hid : request.id = .null
    · rw [hid]
      rfl
    · obtain ⟨params, id, -, hcanonical⟩ := eq_of_array hdecode hid
      rw [hcanonical, canonical_canonical]
  | _ => cases hdecode

/-- **A slighted line** is a request that has an id. -/
theorem Slighted.exists_request (h : Slighted line) :
    ∃ items request, Json.parse (Glyph.ofString line) = .ok (.array items) ∧
      Request.schema.decode (Json.array items).canonical = .ok request ∧
        request.version ≠ version ∧ request.id ≠ .null := by
  obtain ⟨given, method, params, id, hid, hversion, hparse⟩ := h
  refine ⟨_, _, hparse, rfl, hversion, fun hnull => hid ?_⟩
  exact canonical_eq_null_iff.mp (canonical_eq_null_iff.mp hnull)

/-- **A request in array form that is not slighted** has no id, if it is of another version. -/
theorem id_of_not_slighted {items : List Json}
    (hparse : Json.parse (Glyph.ofString line) = .ok (.array items))
    (hdecode : Request.schema.decode (Json.array items).canonical = .ok request)
    (hversion : request.version ≠ version) (h : ¬Slighted line) : request.id = .null := by
  by_contra hid
  obtain ⟨params, id, hitems, hcanonical⟩ := Request.eq_of_array hdecode hid
  rw [canonicalItems_eq_map] at hitems
  obtain ⟨first, rest, rfl, hfirst, hitems⟩ := List.map_eq_cons_iff.mp hitems
  obtain ⟨second, rest, rfl, hsecond, hitems⟩ := List.map_eq_cons_iff.mp hitems
  obtain ⟨third, rest, rfl, -, hitems⟩ := List.map_eq_cons_iff.mp hitems
  obtain ⟨fourth, rest, rfl, hfourth, hnil⟩ := List.map_eq_cons_iff.mp hitems
  obtain rfl := List.map_eq_nil_iff.mp hnil
  subst hfourth
  obtain rfl := canonical_eq_string_iff.mp hfirst
  obtain rfl := canonical_eq_string_iff.mp hsecond
  refine h ⟨request.version, request.method, third, fourth, ?_, hversion, hparse⟩
  rintro rfl
  exact hid hcanonical

end Told

/-- **A slighted line** is told that it has no id, which is not what is due to it. -/
theorem Slighted.member?_id {line : String} (h : Slighted line) (snapshot : ProcessSnapshot)
    (backend : Backend) (now : Instant) :
    (handle snapshot backend now line).1.toJson.member? "id" = some .null ∧ ¬Owes line .null := by
  obtain ⟨items, request, hparse, hdecode, hversion, hid⟩ := h.exists_request
  have hvalue : ∀ {value}, Json.parse (Glyph.ofString line) = .ok value → value = .array items :=
    fun hparse' => Except.ok.inj (hparse'.symm.trans hparse)
  refine ⟨?_, ?_⟩
  · have hnone : ¬∃ request, Asks line request := by
      rintro ⟨other, value, hparse', hdecode', hversion'⟩
      obtain rfl := hvalue hparse'
      obtain rfl := Except.ok.inj (hdecode.symm.trans hdecode')
      exact hversion hversion'
    exact member?_id_of_not_asks snapshot backend now hparse hnone
  · generalize hdue : Json.null = due
    rintro (⟨hparse', hdecode'⟩ | ⟨hparse', hdecode'⟩)
    · obtain rfl := hvalue hparse'
      obtain rfl := Except.ok.inj (hdecode.symm.trans hdecode')
      exact hid hdue.symm
    · obtain rfl := hvalue hparse'
      cases hdecode.symm.trans hdecode'

/-- **Any other line** is told the id that is due. -/
theorem Owes.member?_id {line : String} {due : Json} (h : Owes line due) (hline : ¬Slighted line)
    (snapshot : ProcessSnapshot) (backend : Backend) (now : Instant) :
    (handle snapshot backend now line).1.toJson.member? "id" = some due := by
  cases h with
  | other hparse hdecode =>
    refine member?_id_of_not_asks snapshot backend now hparse ?_
    rintro ⟨request, value, hparse', hdecode', -⟩
    obtain rfl := Except.ok.inj (hparse.symm.trans hparse')
    cases hdecode.symm.trans hdecode'
  | @request value request hparse hdecode =>
    by_cases hversion : request.version = version
    · rw [handle_of_asks ⟨value, hparse, hdecode, hversion⟩, Reply.member?_id]
      exact congrArg some (Request.canonical_id hdecode)
    · have hnone : ¬∃ request, Asks line request := by
        rintro ⟨other, value', hparse', hdecode', hversion'⟩
        obtain rfl := Except.ok.inj (hparse.symm.trans hparse')
        obtain rfl := Except.ok.inj (hdecode.symm.trans hdecode')
        exact hversion hversion'
      rw [member?_id_of_not_asks snapshot backend now hparse hnone]
      -- The two copies of the id agree on an object, and on an array if there is none to copy.
      cases value with
      | object members =>
        have hid := Request.id_of_object hdecode
        rw [← canonical, member?_canonical] at hid
        rw [hid]
        cases (Json.object members).member? "id" with
        | none => rfl
        | some id => exact congrArg some (canonical_canonical id).symm
      | array items => rw [id_of_not_slighted hparse hdecode hversion hline]; rfl
      | _ => cases hdecode

/-- **The reply to a line repeats the id that is due exactly if the line is not slighted**, whatever
comes of it: a result, an error of any kind, or a failure of the backend. A slighted line is told
that it has no id. -/
theorem id_told_iff (snapshot : ProcessSnapshot) (backend : Backend) (now : Instant) {line : String}
    {due : Json} (h : Owes line due) :
    ((handle snapshot backend now line).1.toJson.member? "id" = some due ↔ ¬Slighted line) ∧
      (Slighted line → (handle snapshot backend now line).1.toJson.member? "id" = some .null) := by
  refine ⟨⟨fun htold hline => ?_, fun hline => h.member?_id hline snapshot backend now⟩,
    fun hline => (hline.member?_id snapshot backend now).1⟩
  obtain ⟨hnull, hdue⟩ := hline.member?_id snapshot backend now
  obtain rfl := Option.some.inj (htold.symm.trans hnull)
  exact hdue h

/-- **A request in array form** whose method does not exist: it is of this version, and its id is
repeated. -/
theorem id_told_in_array :
    let line := "[\"2.0\",\"tasks\",null,\"a\"]"
    let snapshot : ProcessSnapshot := ⟨4242, ⟨.loopback, 80, 0⟩⟩
    Owes line (.string "a") ∧ ¬Slighted line ∧
      (handle snapshot {} ⟨0, 0⟩ line).1.toJson.member? "id" = some (.string "a") := by
  intro line snapshot
  let value : Json := .array [.string "2.0", .string "tasks", .null, .string "a"]
  have hrender : value.render = line := by decide
  have hparse : Json.parse (Glyph.ofString line) = .ok value := by
    rw [← hrender]
    exact parse_render ⟨trivial, trivial, trivial, trivial, trivial⟩
  have howes : Owes line (.string "a") := .request hparse rfl
  have hline : ¬Slighted line := by
    rintro ⟨given, method, params, id, -, hversion, hparse'⟩
    have hitems := Json.array.inj (Except.ok.inj (hparse.symm.trans hparse'))
    exact hversion (Json.string.inj (List.cons.inj hitems).1).symm
  exact ⟨howes, hline, (id_told_iff snapshot {} ⟨0, 0⟩ howes).1.mpr hline⟩

/-- **The id of a request in array form is not repeated** if the request is of another version. -/
theorem id_not_told_in_array :
    let line := "[\"1.0\",\"status\",null,7]"
    let snapshot : ProcessSnapshot := ⟨4242, ⟨.loopback, 80, 0⟩⟩
    Owes line (Json.int 7) ∧
      (handle snapshot {} ⟨0, 0⟩ line).1.toJson.member? "id" ≠ some (Json.int 7) := by
  intro line snapshot
  let value : Json := .array [.string "1.0", .string "status", .null, Json.int 7]
  have hrender : value.render = line := by decide +kernel
  have hparse : Json.parse (Glyph.ofString line) = .ok value := by
    rw [← hrender]
    exact parse_render
      ⟨trivial, trivial, trivial, Number.readsBack_int (by omega) (by omega), trivial⟩
  have hslighted : Slighted line :=
    ⟨"1.0", "status", .null, Json.int 7, nofun, by decide, hparse⟩
  refine ⟨.request hparse rfl, ?_⟩
  rw [(hslighted.member?_id snapshot {} ⟨0, 0⟩).1]
  exact fun h => nomatch Option.some.inj h

end Rpc

end TaskDaemon
