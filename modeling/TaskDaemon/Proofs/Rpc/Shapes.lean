import TaskDaemon.Proofs.Json.Typed
import TaskDaemon.Proofs.Rpc.Demand
import TaskDaemon.Proofs.Store.Told
import TaskDaemon.Rpc.Client

/-!
# The shapes of the protocol

The two laws of schemas (`TaskDaemon.Json.Schema.ofJson_toJson`,
`TaskDaemon.Json.Schema.ofJson_canonical`) and the one of texts (`TaskDaemon.Json.parse_render`)
have conditions. This file checks them, one schema after the other:

* no record has a key twice (the `tidy` lemmas);
* a value is written so that it can be told again (the `writes` lemmas), which for times means that
  a text can tell them;
* what is written is not nested too deeply, and its numbers are whole and of one word (the
  `readable` lemmas).
-/

namespace TaskDaemon

open Json

/-! ### Tasks -/

theorem Instant.writes_schema {t : Instant} (h : t.IsTold) : Instant.schema.Writes t := by
  have hparse := Instant.parse_text h
  unfold Instant.schema Schema.Writes Instant.atom Atom.parsed
  simp only [hparse]
  rfl

/-- A time that may be missing is told by a field that may be missing. -/
theorem Instant.writes_maybe {time : Option Instant} (h : ∀ t ∈ time, t.IsTold) :
    if Option.isNone time then (Absence.anywhere (none : Option Instant)).ofObject? = some time
    else (Schema.option Instant.schema).Writes time := by
  cases time with
  | none => rfl
  | some t => exact ⟨nofun, Instant.writes_schema (h t rfl)⟩

namespace Task

theorem tidy_schema : Task.schema.Tidy :=
  ⟨by decide, trivial, trivial, trivial, trivial, trivial, trivial⟩

theorem writes_schema {task : Task} (h : task.IsTold) : Task.schema.Writes task :=
  ⟨⟨rfl, rfl, Instant.writes_schema h.createdAt, Instant.writes_maybe h.updatedAt,
    Instant.writes_maybe h.completedAt, trivial⟩, rfl⟩

theorem readable_toJson (task : Task) (depth : Nat) :
    Readable (depth + 1) (Task.schema.toJson task) := by
  rcases task with ⟨id, summary, createdAt, _ | updatedAt, _ | completedAt⟩
  all_goals
    repeat' constructor

end Task

/-! ### Parameters -/

namespace Rpc

/-- The JSON of an optional text is read back. -/
theorem writes_maybe_text (text : Option String) :
    if Option.isNone text then (Absence.anywhere (none : Option String)).ofObject? = some text
    else (Schema.option textSchema).Writes text := by
  cases text with
  | none => rfl
  | some text => exact ⟨nofun, rfl⟩

namespace UpdateParams

theorem tidy_schema : UpdateParams.schema.Tidy :=
  ⟨by decide, trivial, ⟨by decide, trivial, trivial, trivial⟩, trivial, trivial⟩

theorem writes_schema {params : UpdateParams} (h : params.update.IsTold) :
    UpdateParams.schema.Writes params := by
  refine ⟨⟨rfl, ⟨⟨writes_maybe_text _, Instant.writes_maybe h, trivial⟩, rfl⟩,
    ⟨fun _ _ => rfl, FieldMask.ofNames_names _⟩, trivial⟩, rfl⟩

theorem readable_toJson (params : UpdateParams) (depth : Nat) :
    Readable (depth + 2) (UpdateParams.schema.toJson params) := by
  rcases params with ⟨id, ⟨_ | summary, _ | time⟩, ⟨_ | _, _ | _⟩⟩
  all_goals
    repeat' constructor

end UpdateParams

theorem tidy_single {α : Type} {s : Schema α} (h : s.Tidy) (name key : String) :
    (singleSchema name key s).Tidy :=
  ⟨List.nodup_cons.mpr ⟨List.not_mem_nil, List.nodup_nil⟩, h, trivial⟩

theorem writes_single {α : Type} {s : Schema α} {a : α} (h : s.Writes a) (name key : String) :
    (singleSchema name key s).Writes a :=
  ⟨⟨h, trivial⟩, rfl⟩

theorem tidy_empty (name : String) : (emptySchema name).Tidy :=
  ⟨List.nodup_nil, trivial⟩

/-! ### Requests and responses -/

theorem Request.tidy_schema : Request.schema.Tidy :=
  ⟨by decide, trivial, trivial, trivial, trivial, trivial⟩

theorem Failure.tidy_schema : Failure.schema.Tidy :=
  ⟨by decide, trivial, trivial, trivial, trivial⟩

theorem Response.tidy_schema {α : Type} {s : Schema α} (h : s.Tidy) : (Response.schema s).Tidy :=
  ⟨(by decide : ["jsonrpc", "result", "error", "id"].Nodup), trivial, h, Failure.tidy_schema,
    trivial, trivial⟩

/-! ### Results -/

theorem ServerStatus.tidy_schema : ServerStatus.schema.Tidy :=
  ⟨by decide, trivial, trivial, trivial⟩

/-- A natural number below its bound is read back. -/
theorem accept_nat {expected : String} {bound n : Nat} (h : n < bound) :
    (Atom.nat expected bound).accept ((Atom.nat expected bound).toJson n) = .ok n :=
  if_pos ⟨Int.natCast_nonneg n, Int.ofNat_lt.mpr h⟩

theorem ServerStatus.writes_schema {status : ServerStatus} (h : status.pid < 4294967296) :
    ServerStatus.schema.Writes status :=
  ⟨⟨accept_nat h, rfl, trivial⟩, rfl⟩

theorem ServerStatus.readable_toJson {status : ServerStatus} (h : status.pid < 4294967296)
    (depth : Nat) : Readable (depth + 1) (ServerStatus.schema.toJson status) :=
  ⟨Number.readsBack_int (by omega) (by omega), trivial, trivial⟩

theorem tidy_listResult : listResult.Tidy :=
  tidy_single (s := .list Task.schema) Task.tidy_schema _ _

end Rpc

end TaskDaemon
