import TaskDaemon.Proofs.Json.OneLine
import TaskDaemon.Proofs.Store.Serving

/-!
# Nothing is lost on the wire

What the two ends of a connection send each other is written by a schema and read by the same
schema. A value is kept (`TaskDaemon.Json.Schema.Keeps`) if reading its text gives it back, and if
its text is one line, so that a message is a line and a line is a message.

The general law is `TaskDaemon.Json.Schema.keeps_of_writes`: it takes the round trip through JSON
values, which knows nothing of texts, and the round trip of JSON values through texts, which knows
nothing of schemas. What is left to be checked of a schema is

| condition | why it could fail |
|---|---|
| no record has a key twice | the second one would be refused |
| what a record leaves out is what its absence stands for | an absent time would become another |
| an optional value is not written as null | it would come back as none |
| a time is one that a text can tell | a leap second ends a minute, and the calendar has an end |
| a number is read back from its numeral | a double is read in two steps, each of which may round |

The fourth of these is needed as it stands, since no text is read as any other time
(`TaskDaemon.Task.keeps_schema_iff`): a leap second in the middle of a minute is lost
(`TaskDaemon.Rpc.wire_loses_leap_second`).

The server does not write a response as the schema does: it makes one JSON value of it first, whose
keys are in order (`TaskDaemon.Rpc.Reply.toJson`). Readers take keys in any order, so that makes no
difference (`TaskDaemon.Rpc.Reply.tells_of_canonical`).

* `TaskDaemon.Rpc.wire_keeps`: the main result.
-/

namespace TaskDaemon

namespace Json

/-- **Text on one line.** -/
def IsOneLine (text : String) : Prop :=
  '\n' ∉ text.toList ∧ '\r' ∉ text.toList

theorem isOneLine_render (value : Json) : IsOneLine value.render := by
  have hplain := plain_chars value
  unfold IsOneLine render
  rw [String.toList_ofList]
  exact ⟨hplain.newline_not_mem, fun hmem => absurd (hplain _ hmem) (by decide)⟩

namespace Schema

/-- **A schema keeps a value**: it is read back from its text, which is one line. -/
structure Keeps {α : Type} (s : Schema α) (a : α) : Prop where
  /-- The value is read back. -/
  parse_render : s.parse (Glyph.ofString (s.render a)) = .ok a
  /-- Its text is one line. -/
  isOneLine : IsOneLine (s.render a)

variable {α : Type} {s : Schema α} {a : α}

/-- **The text of a value** is read as what the value stands for. -/
theorem parse_render_of_ofJson (htidy : s.Tidy) {value : Json}
    (hreadable : Readable depthLimit value) (htake : s.ofJson .countWanted value = .ok a) :
    s.parse (Glyph.ofString value.render) = .ok a :=
  (parse_eq_ok_iff_of_parse htidy (Json.parse_render hreadable)).mpr htake

/-- **A tidy schema keeps what it writes**, as far as texts of JSON can be read. -/
theorem keeps_of_writes (htidy : s.Tidy) (hwrites : s.Writes a)
    (hreadable : Readable depthLimit (s.toJson a)) : s.Keeps a where
  parse_render :=
    parse_render_of_ofJson htidy hreadable (s.ofJson_toJson htidy .countWanted hwrites)
  isOneLine := isOneLine_render (s.toJson a)

end Schema

end Json

open Json

/-! ### What is sent to the server -/

theorem FieldMask.keeps_schema (mask : FieldMask) : FieldMask.schema.Keeps mask := by
  refine Schema.keeps_of_writes trivial ⟨fun _ _ => rfl, ofNames_names mask⟩ ?_
  rcases mask with ⟨_ | _, _ | _⟩
  all_goals
    repeat' constructor

/-- **A patch is kept** exactly if a text can tell its time. -/
theorem TaskPatch.keeps_schema_iff {patch : TaskPatch} :
    TaskPatch.schema.Keeps patch ↔ patch.IsTold := by
  refine ⟨fun h => isTold_of_admits (Schema.admits_of_parse h.parse_render), fun h => ?_⟩
  refine Schema.keeps_of_writes ⟨by decide, trivial, trivial, trivial⟩
    ⟨⟨Rpc.writes_maybe_text _, Instant.writes_maybe h, trivial⟩, rfl⟩ ?_
  rcases patch with ⟨_ | summary, _ | time⟩
  all_goals
    repeat' constructor

/-- **A task is kept** exactly if a text can tell its times. -/
theorem Task.keeps_schema_iff {task : Task} : Task.schema.Keeps task ↔ task.IsTold :=
  ⟨fun h => isTold_of_admits (Schema.admits_of_parse h.parse_render), fun h =>
    Schema.keeps_of_writes Task.tidy_schema (Task.writes_schema h) (task.readable_toJson 126)⟩

namespace Rpc

theorem UpdateParams.keeps_schema_iff {params : UpdateParams} :
    UpdateParams.schema.Keeps params ↔ params.update.IsTold :=
  ⟨fun h => isTold_of_admits (Schema.admits_of_parse h.parse_render), fun h =>
    Schema.keeps_of_writes tidy_schema (writes_schema h) (params.readable_toJson 125)⟩

/-! ### What is sent back -/

/-- **An id that is echoed**: its keys are in order, as those of all values that were read
are, it is no deeper than the id of a request can be, and its numbers are read back from
their numerals. That holds of integers of 64 bits (`TaskDaemon.Json.Number.readsBack_int`),
and not of every double. -/
structure IsEchoed (id : Json) : Prop where
  /-- Its keys are in order. -/
  canonical_eq : id.canonical = id
  /-- It can be read. -/
  readable : Readable 126 id

section Response

variable {α : Type} {s : Schema α} {a : α} {id : Json}

theorem Response.writes_result (hwrites : s.Writes a) (hnull : s.toJson a ≠ .null)
    (hid : IsEchoed id) (version : String) :
    (Response.schema s).Writes ⟨version, some a, none, id⟩ :=
  ⟨⟨rfl, ⟨hnull, hwrites⟩, rfl, hid.canonical_eq, trivial⟩, rfl⟩

theorem Response.readable_result (hreadable : Readable 126 (s.toJson a)) (hid : IsEchoed id)
    (version : String) :
    Readable depthLimit ((Response.schema s).toJson ⟨version, some a, none, id⟩) :=
  ⟨trivial, hreadable, hid.readable, trivial⟩

/-- **A code of 32 bits.** -/
def IsCode (code : Int) : Prop :=
  -2147483648 ≤ code ∧ code ≤ 2147483647

instance (code : Int) : Decidable (IsCode code) :=
  inferInstanceAs (Decidable (_ ∧ _))

theorem Response.writes_failure (s : Schema α) {code : Int} (hcode : IsCode code) (message : String)
    (hid : IsEchoed id) (version : String) : (Response.schema s).Writes
      ⟨version, none, some { code := code, message := message }, id⟩ := by
  have hfailure : Failure.schema.Writes { code := code, message := message } :=
    ⟨⟨if_pos hcode, rfl, rfl, trivial⟩, rfl⟩
  exact ⟨⟨rfl, rfl, ⟨(fun h => by cases h), hfailure⟩, hid.canonical_eq, trivial⟩, rfl⟩

theorem Response.readable_failure (s : Schema α) {code : Int} (hcode : IsCode code)
    (message : String) (hid : IsEchoed id) (version : String) :
    Readable depthLimit ((Response.schema s).toJson
      ⟨version, none, some { code := code, message := message }, id⟩) := by
  obtain ⟨hleast, hgreatest⟩ := hcode
  have hnumber : (Number.int code).ReadsBack := Number.readsBack_int (by omega) (by omega)
  exact ⟨trivial, ⟨hnumber, trivial, trivial⟩, hid.readable, trivial⟩

/-- **A reply tells a response**: this is what is read from its line, which is one. -/
structure Reply.Tells (reply : Reply) (s : Schema α) (response : Response α) : Prop where
  /-- The response is read. -/
  parse_render : (Response.schema s).parse (Glyph.ofString reply.render) = .ok response
  /-- The text is one line. -/
  isOneLine : IsOneLine reply.render

/-- **A reply tells the response** whose JSON it is but for the order of keys. -/
theorem Reply.tells_of_canonical (htidy : s.Tidy) {reply : Reply} {response : Response α}
    (hjson : reply.toJson = ((Response.schema s).toJson response).canonical)
    (hwrites : (Response.schema s).Writes response)
    (hreadable : Readable depthLimit ((Response.schema s).toJson response)) :
    reply.Tells s response where
  parse_render := by
    have hresponse := Response.tidy_schema htidy
    have htake := Schema.ofJson_toJson _ hresponse .countWanted hwrites
    rw [Reply.render, hjson]
    exact Schema.parse_render_of_ofJson hresponse (readable_canonical hreadable)
      (Schema.ofJson_canonical _ hresponse htake)
  isOneLine := isOneLine_render reply.toJson

/-- What a response is read as has a result that was read. -/
theorem Response.admits_result {version : String}
    (h : (Response.schema s).Admits ⟨version, some a, none, id⟩) : s.Admits a := by
  obtain ⟨⟨_, result, _, _, ⟨⟩⟩, ⟨-, hresult, -⟩, hresponse⟩ := h
  obtain rfl : result = some a := congrArg Response.result hresponse
  rcases hresult with hread | habsent
  · exact hread a rfl
  · cases habsent

/-- **A response is kept in both forms**: as its schema writes it, and as the server does. -/
structure Response.IsKept (s : Schema α) (outcome : Except Failure Json) (response : Response α) :
    Prop where
  /-- The schema keeps the response. -/
  keeps : (Response.schema s).Keeps response
  /-- The server's reply tells it, which gives the version of the protocol. -/
  tells : response.version = Rpc.version → Reply.Tells ⟨response.id, outcome⟩ s response

theorem Response.isKept_result (htidy : s.Tidy) (hwrites : s.Writes a) (hnull : s.toJson a ≠ .null)
    (hreadable : Readable 126 (s.toJson a)) (hid : IsEchoed id) (version : String) :
    Response.IsKept s (.ok (s.toJson a)) ⟨version, some a, none, id⟩ where
  keeps := Schema.keeps_of_writes (Response.tidy_schema htidy)
    (writes_result hwrites hnull hid version) (readable_result hreadable hid version)
  tells := by
    rintro rfl
    exact Reply.tells_of_canonical htidy rfl (writes_result hwrites hnull hid _)
      (readable_result hreadable hid _)

theorem Response.isKept_failure (htidy : s.Tidy) {code : Int} (hcode : IsCode code)
    (message : String) (hid : IsEchoed id) (version : String) :
    Response.IsKept s (.error { code := code, message := message })
      ⟨version, none, some { code := code, message := message }, id⟩ where
  keeps := Schema.keeps_of_writes (Response.tidy_schema htidy)
    (writes_failure s hcode message hid version) (readable_failure s hcode message hid version)
  tells := by
    rintro rfl
    exact Reply.tells_of_canonical htidy rfl (writes_failure s hcode message hid _)
      (readable_failure s hcode message hid _)

end Response

/-- **What is lost on the wire is a time that no text tells.** Whatever their texts hold, and
whichever of their times are missing, a task, a patch and the parameters of a change are read back
from what is written for them exactly if a text can tell their times, which is to say that their
leap seconds end a minute. Sets of fields are always read back, and so are responses with an error.
A response with a task is so exactly if a text can tell its times, or if its reader takes any value
for its result. Each of the texts is one line, and a response is read back in the form in which the
server writes it too. -/
theorem wire_keeps :
    (∀ task : Task, Task.schema.Keeps task ↔ task.IsTold) ∧
    (∀ patch : TaskPatch, TaskPatch.schema.Keeps patch ↔ patch.IsTold) ∧
    (∀ mask : FieldMask, FieldMask.schema.Keeps mask) ∧
    (∀ params : UpdateParams, UpdateParams.schema.Keeps params ↔ params.update.IsTold) ∧
    ∀ (id : Json) (version : String), IsEchoed id →
      (∀ task : Task,
        (Response.IsKept Task.schema (.ok (Task.schema.toJson task))
          ⟨version, some task, none, id⟩ ↔ task.IsTold) ∧
        Response.IsKept .any (.ok (Task.schema.toJson task).canonical)
          ⟨version, some (Task.schema.toJson task).canonical, none, id⟩) ∧
      ∀ (code : Int) (message : String), IsCode code →
        Response.IsKept Task.schema (.error { code := code, message := message })
          ⟨version, none, some { code := code, message := message }, id⟩ ∧
        Response.IsKept .any (.error { code := code, message := message })
          ⟨version, none, some { code := code, message := message }, id⟩ := by
  have hnull {task : Task} : Task.schema.toJson task ≠ .null := fun h => by cases h
  refine ⟨fun task => Task.keeps_schema_iff, fun patch => TaskPatch.keeps_schema_iff,
    FieldMask.keeps_schema, fun params => UpdateParams.keeps_schema_iff, fun id version hid =>
    ⟨fun task => ⟨⟨fun hkept => ?_, fun htask => ?_⟩, ?_⟩, fun code message hcode => ⟨?_, ?_⟩⟩⟩
  · exact Task.isTold_of_admits
      (Response.admits_result (Schema.admits_of_parse hkept.keeps.parse_render))
  · exact Response.isKept_result Task.tidy_schema (Task.writes_schema htask) hnull
      (task.readable_toJson 125) hid version
  · exact Response.isKept_result (s := .any) trivial (canonical_canonical _)
      (mt canonical_eq_null_iff.mp hnull) (readable_canonical (task.readable_toJson 125))
      hid version
  · exact Response.isKept_failure Task.tidy_schema hcode message hid version
  · exact Response.isKept_failure (s := .any) trivial hcode message hid version

/-- A task with quotes, a backslash, a line break and a null character in its texts, made in a leap
second long before year 0 and completed long after year 9999. -/
theorem wire_keeps_odd_task :
    let task : Task := ⟨"a\"b\\", "c\r\nd\x00 é 🥛", ⟨-62198755201, 1999999999⟩, none,
      some ⟨253402300800, 500000⟩⟩
    task.IsTold ∧ Task.schema.Keeps task ∧
      (TaskPatch.mk (some task.summary) task.completedAt).IsTold ∧
      TaskPatch.schema.Keeps ⟨some task.summary, task.completedAt⟩ ∧
      UpdateParams.schema.Keeps ⟨task.id, ⟨some task.summary, task.completedAt⟩, ⟨true, false⟩⟩ ∧
      IsEchoed (.array [.string task.id, .null]) ∧ IsCode (-32603) ∧
      Response.IsKept Task.schema (.ok (Task.schema.toJson task))
        ⟨"2.0", some task, none, .array [.string task.id, .null]⟩ ∧
      Response.IsKept Task.schema (.error { code := -32603, message := task.summary })
        ⟨"2.0", none, some { code := -32603, message := task.summary },
          .array [.string task.id, .null]⟩ := by
  intro task
  have htask : task.IsTold := by
    refine ⟨by decide, fun time htime => ?_, fun time htime => ?_⟩
    · cases htime
    · obtain rfl := Option.some.inj htime
      decide
  have hpatch : (TaskPatch.mk (some task.summary) task.completedAt).IsTold := htask.completedAt
  have hid : IsEchoed (.array [.string task.id, .null]) := ⟨rfl, ⟨trivial, trivial, trivial⟩⟩
  have hcode : IsCode (-32603) := by decide
  obtain ⟨htasks, hpatches, -, hparams, hresponses⟩ := wire_keeps
  obtain ⟨hresults, hfailures⟩ := hresponses _ "2.0" hid
  exact ⟨htask, (htasks task).mpr htask, hpatch, (hpatches _).mpr hpatch, (hparams _).mpr hpatch,
    hid, hcode, (hresults task).1.mpr htask, (hfailures _ _ hcode).1⟩

/-- A leap second in the middle of a minute has its place in the calendar, but a task that was made
then is read as one that was made in the second after it. -/
theorem wire_loses_leap_second :
    let task : Task := ⟨"1", "tea", ⟨20, 1500000000⟩, none, none⟩
    let read : Task := ⟨"1", "tea", ⟨21, 500000000⟩, none, none⟩
    Instant.inCalendar task.createdAt.date = true ∧ ¬ Task.schema.Keeps task ∧
      Task.schema.parse (Glyph.ofString (Task.schema.render task)) = .ok read ∧
      ¬ Response.IsKept Task.schema (.ok (Task.schema.toJson task))
        ⟨"2.0", some task, none, .null⟩ := by
  intro task read
  have htask : ¬ task.IsTold := fun h => absurd h.createdAt (by decide)
  have hread : read.IsTold := ⟨by decide, nofun, nofun⟩
  refine ⟨by decide, mt Task.keeps_schema_iff.mp htask, ?_, fun hkept => htask ?_⟩
  · have hnext : read.createdAt =
        ⟨task.createdAt.seconds + 1, task.createdAt.nanos - Instant.billion⟩ := by decide
    have htext : task.createdAt.text = read.createdAt.text := by
      rw [hnext]
      exact Instant.text_eq_of_leap (by decide) (by decide) (by decide)
    have hwritten (created : Instant) : Task.schema.toJson ⟨"1", "tea", created, none, none⟩ =
        .object [("id", .string "1"), ("summary", .string "tea"),
          ("created_at", .string created.text)] := rfl
    have hjson : Task.schema.toJson task = Task.schema.toJson read := by
      rw [hwritten, hwritten, htext]
    have hrender : Task.schema.render task = Task.schema.render read := congrArg Json.render hjson
    rw [hrender]
    exact (Task.keeps_schema_iff.mpr hread).parse_render
  · exact Task.isTold_of_admits
      (Response.admits_result (Schema.admits_of_parse hkept.keeps.parse_render))

end Rpc

end TaskDaemon
