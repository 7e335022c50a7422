import TaskDaemon.Proofs.Error.Cause
import TaskDaemon.Proofs.Rpc.Remote

/-!
# Errors that come back over a call

An error of the store goes through three hands before a caller has it. The service says what was
being done and turns the kind into a code; the line of the reply carries code and message; the
client makes an error of them, whose kind is read off the code. So what a caller has
(`TaskDaemon.Rpc.Demand.relayed`) is another error than the one that the store returned, and it
tells of that one (`TaskDaemon.Error.ToldBy`): the kind is the same, but that another daemon runs
has no code of its own and becomes an internal error, and its text ends with what the server says of
the error, which in turn ends with the text of it.

This holds of all errors, however contexts and sets are nested in them, and whatever codes the
errors of other servers in them have. The kind is that of one leaf (see
`TaskDaemon.Error.exists_leaf`).

* `TaskDaemon.Rpc.Session.call_of_error`: a call for which the store returns an error;
* `TaskDaemon.Error.kind_goes_along`: the main result.
-/

namespace TaskDaemon

open Relation

/-- **An error of an operation is told by another**: one of its kind, unless the kind is that
another daemon runs, with what the server says of it at the end. -/
structure Error.ToldBy (error : Error) (operation : String) (told : Error) : Prop where
  /-- The kind is the same, or internal. -/
  kind_eq : told.kind = if error.kind = .alreadyRunning then .internal else error.kind
  /-- The text ends with the operation and the text of the error. -/
  text_eq : ∃ front, told.text = front ++ (operation ++ ": " ++ error.text)

/-- **The patch that is read** from the text of one with a time of the calendar. -/
def TaskPatch.asTold (patch : TaskPatch) : TaskPatch :=
  { patch with completedAt := patch.completedAt.map Instant.asTold }

theorem TaskPatch.blanks_asTold (patch : TaskPatch) (mask : FieldMask) :
    patch.asTold.blanks mask = patch.blanks mask := rfl

namespace Rpc

theorem Demand.toldBy_relayed (demand : Demand) (error : Error) :
    error.ToldBy demand.doing (demand.relayed error) where
  kind_eq := ErrorKind.ofRpcCode_rpcCode error.kind
  text_eq := ⟨"RPC error " ++ Decimal.intText error.kind.rpcCode ++ ": ", rfl⟩

namespace Demand

/-- **A demand that a caller can make**: its time, if it gives one, is one of the calendar. -/
def IsRegular : Demand → Prop
  | update params => ∀ time ∈ params.update.completedAt, time.IsRegular
  | _ => True

/-- **The demand that is read from the line** of a regular one. -/
def asTold : Demand → Demand
  | update params => update { params with update := params.update.asTold }
  | demand => demand

variable {demand : Demand}

theorem method_asTold (demand : Demand) : demand.asTold.method = demand.method := by
  cases demand <;> rfl

theorem relayed_asTold (demand : Demand) : demand.asTold.relayed = demand.relayed := by
  cases demand <;> rfl

theorem IsRegular.isTold_asTold (h : demand.IsRegular) : demand.asTold.IsTold := by
  cases demand with
  | update params =>
    intro time htime
    obtain ⟨given, hgiven, rfl⟩ := Option.map_eq_some_iff.mp htime
    exact (h given hgiven).isTold_asTold
  | status | create | list | delete => trivial

/-- **What is read has the same line.** -/
theorem IsRegular.params_asTold (h : demand.IsRegular) : demand.asTold.params = demand.params := by
  cases demand with
  | update params =>
    obtain ⟨id, ⟨summary, time⟩, fields⟩ := params
    cases time with
    | none => rfl
    | some t =>
      have hwritten (time : Instant) : TaskPatch.schema.toJson ⟨summary, some time⟩ =
          .object ((summary.toList.map fun text => ("summary", .string text)) ++
            [("completed_at", .string time.text)]) := by
        cases summary <;> rfl
      have hpatch : TaskPatch.schema.toJson ⟨summary, some t.asTold⟩ =
          TaskPatch.schema.toJson ⟨summary, some t⟩ := by
        rw [hwritten, hwritten, (h t rfl).text_asTold]
      exact congrArg (fun patch => Json.object
        [("id", .string id), ("update", patch), ("fields", FieldMask.schema.toJson fields)]) hpatch
  | status | create | list | delete => rfl

theorem IsRegular.line_asTold (h : demand.IsRegular) : demand.asTold.line = demand.line := by
  funext id
  rw [line, line, h.params_asTold, method_asTold]

/-- **What is refused is not refused for its time**, so what is read is refused alike. -/
theorem perform_asTold_of_error {snapshot : ProcessSnapshot} {backend : Backend} {now : Instant}
    {error : Error} (h : (demand.perform snapshot backend now).1 = .error error) :
    (demand.asTold.perform snapshot backend now).1 = .error error := by
  cases demand with
  | update params =>
    obtain ⟨store, failure⟩ := backend
    cases failure with
    | some _ => exact h
    | none =>
      change (store.update params.id params.update params.fields now).1.map Result.task = _ at h
      show (store.update params.id params.update.asTold params.fields now).1.map Result.task = _
      cases hfound : store.get? params.id with
      | none =>
        rw [Store.update_of_none hfound] at h ⊢
        exact h
      | some row =>
        rw [Store.update_of_some hfound] at h ⊢
        rw [TaskPatch.blanks_asTold]
        by_cases hblank : params.update.blanks params.fields = true
        · rw [if_pos hblank] at h ⊢
          exact h
        · rw [if_neg hblank] at h
          cases h
  | status | create | list | delete => exact h

end Demand

namespace Session

/-- **The line of a demand gets to the daemon**: the client can still write, the line is not too
long, and the demand is regular. -/
structure Carries (terms : Terms) (session : Session) (demand : Demand) : Prop where
  /-- No call has broken off. -/
  usable : session.client.broken = false
  /-- The next id is one. -/
  id_lt : session.client.nextId < Client.ids
  /-- The server has a window to read through. -/
  limit_lt : terms.limit + 1 < sizes
  /-- The line is within the limit. -/
  fits : (Utf8.ofString (demand.line session.client.nextId)).length ≤ terms.limit
  /-- The demand is one that a caller can make. -/
  regular : demand.IsRegular

variable {terms : Terms} {session : Session} {error : Error}

/-- **A call for which the store returns an error** gives the error that this one is relayed as. -/
theorem call_of_error {α : Type} {call : Call α} {demand : Demand}
    (hcarries : session.Carries terms demand) (hmethod : call.method = demand.method)
    (hparams : call.params = demand.params) (htidy : call.result.Tidy) (wrap : α → Result)
    (hwrap : ∀ a, (wrap a).toJson = call.result.toJson a)
    (herror : (demand.perform terms.snapshot session.backend (terms.clock 0)).1 = .error error) :
    (session.call terms call).1 = .error (demand.relayed error) := by
  have hregular := hcarries.regular
  have hrefused := Demand.perform_asTold_of_error herror
  have hcall := call_eq (hmethod.trans demand.method_asTold.symm)
    (hparams.trans hregular.params_asTold.symm) hregular.isTold_asTold htidy wrap hwrap
    (.error error) hrefused (fun _ h => by cases h) hcarries.usable hcarries.id_lt hcarries.limit_lt
    (hregular.line_asTold ▸ hcarries.fits)
  rw [hrefused, demand.relayed_asTold] at hcall
  have hfirst : (session.call terms call).1.map wrap = .error (demand.relayed error) :=
    congrArg Prod.fst hcall
  cases houtcome : (session.call terms call).1 with
  | ok a =>
    rw [houtcome] at hfirst
    cases hfirst
  | error told =>
    rw [houtcome] at hfirst
    obtain rfl : told = demand.relayed error := Except.error.inj hfirst
    rfl

theorem create_of_error {summary : String} (hcarries : session.Carries terms (.create summary))
    (herror : (session.backend.create ⟨summary⟩ (terms.clock 0)).1 = .error error) :
    ∃ told, (session.call terms (.create summary)).1 = .error told ∧
      error.ToldBy "cannot create task" told := by
  refine ⟨_, call_of_error hcarries rfl rfl Task.tidy_schema .task (fun _ => rfl) ?_,
    Demand.toldBy_relayed (.create summary) error⟩
  exact congrArg (Except.map Result.task) herror

theorem update_of_error {params : UpdateParams} (hcarries : session.Carries terms (.update params))
    (herror : (session.backend.update params.id params.update params.fields (terms.clock 0)).1 =
      .error error) :
    ∃ told, (session.call terms (.update params.id params.update params.fields)).1 = .error told ∧
      error.ToldBy ("cannot update task '" ++ params.id ++ "'") told := by
  refine ⟨_, call_of_error hcarries rfl rfl Task.tidy_schema .task (fun _ => rfl) ?_,
    Demand.toldBy_relayed (.update params) error⟩
  exact congrArg (Except.map Result.task) herror

theorem delete_of_error {id : String} (hcarries : session.Carries terms (.delete id))
    (herror : (session.backend.delete id).1 = .error error) :
    ∃ told, (session.call terms (.delete id)).1 = .error told ∧
      error.ToldBy ("cannot delete task '" ++ id ++ "'") told := by
  refine ⟨_, call_of_error hcarries rfl rfl (tidy_empty _) (fun _ => .removed) (fun _ => rfl) ?_,
    Demand.toldBy_relayed (.delete id) error⟩
  exact congrArg (Except.map fun _ => Result.removed) herror

end Session

end Rpc

/-- **The kind of an error goes along with it.** An error leads to one leaf, through the sources of
contexts and the first ones of sets, and has its kind; without a cause there it is internal. Any
number of contexts around it leaves its kind, its code over RPC and its status over HTTP as they
are, and only puts words in front of its text. And where the store returns the error for a task that
is to be made, changed or removed by a call, the caller gets an error that tells it. -/
theorem Error.kind_goes_along (error : Error) :
    (∃ leaf, ReflTransGen Leads error leaf ∧ leaf.IsLeaf ∧
      (∀ leaf', ReflTransGen Leads error leaf' → leaf'.IsLeaf → leaf' = leaf) ∧
      error.kind = leaf.kind ∧ (leaf = .multiple [] → error.kind = .internal)) ∧
    (∀ operations : List String, (error.within operations).kind = error.kind ∧
      (Rpc.Failure.ofError (error.within operations)).code = (Rpc.Failure.ofError error).code ∧
      (Rest.Response.ofError (error.within operations)).status =
        (Rest.Response.ofError error).status ∧
      (error.within operations).text = lead operations ++ error.text) ∧
    ∀ (terms : Rpc.Terms) (session : Rpc.Session),
      (∀ summary, session.Carries terms (.create summary) →
        (session.backend.create ⟨summary⟩ (terms.clock 0)).1 = .error error →
          ∃ told, (session.call terms (.create summary)).1 = .error told ∧
            error.ToldBy "cannot create task" told) ∧
      (∀ id patch mask, session.Carries terms (.update ⟨id, patch, mask⟩) →
        (session.backend.update id patch mask (terms.clock 0)).1 = .error error →
          ∃ told, (session.call terms (.update id patch mask)).1 = .error told ∧
            error.ToldBy ("cannot update task '" ++ id ++ "'") told) ∧
      ∀ id, session.Carries terms (.delete id) →
        (session.backend.delete id).1 = .error error →
          ∃ told, (session.call terms (.delete id)).1 = .error told ∧
            error.ToldBy ("cannot delete task '" ++ id ++ "'") told := by
  refine ⟨?_, fun operations => ?_, fun terms session =>
    ⟨fun summary => ?_, fun id patch mask => ?_, fun id => ?_⟩⟩
  · obtain ⟨leaf, hleads, hleaf⟩ := exists_leaf error
    have hkind := kind_eq_of_leads hleads
    refine ⟨leaf, hleads, hleaf, fun leaf' hleads' hleaf' => ?_, hkind, fun hnone => ?_⟩
    · exact leaf_unique hleads' hleaf' hleads hleaf
    · rw [hkind, hnone]
      rfl
  · exact ⟨kind_within operations error, code_within operations error,
      status_congr (kind_within operations error), text_within operations error⟩
  · exact Rpc.Session.create_of_error
  · exact Rpc.Session.update_of_error
  · exact Rpc.Session.delete_of_error

/-- Two errors within an operation, the first of which is that another daemon runs: to the caller of
each of the calls that is an internal error. -/
theorem Error.kind_goes_along_nested :
    let error : Error := .context "store task"
      (.multiple [.context "lock" (.alreadyRunning "d.lock"), .rpc (-32004) "gone"])
    let terms : Rpc.Terms := { snapshot := ⟨4242, ⟨.loopback, 45678, 0⟩⟩, clock := fun _ => ⟨0, 0⟩ }
    let session : Rpc.Session :=
      ⟨{ endpoint := "unix:d.sock", timeout := .ofSeconds 5 0 }, ⟨.empty, some error⟩⟩
    let patch : TaskPatch := { summary := some "tea", completedAt := some ⟨20, 1500000000⟩ }
    let mask : FieldMask := { completedAt := true }
    (session.Carries terms (.create "tea") ∧
        (session.backend.create ⟨"tea"⟩ (terms.clock 0)).1 = .error error ∧
        ∃ told, (session.call terms (.create "tea")).1 = .error told ∧
          error.ToldBy "cannot create task" told) ∧
      (session.Carries terms (.update ⟨"7", patch, mask⟩) ∧
        (session.backend.update "7" patch mask (terms.clock 0)).1 = .error error ∧
        ∃ told, (session.call terms (.update "7" patch mask)).1 = .error told ∧
          error.ToldBy ("cannot update task '" ++ "7" ++ "'") told) ∧
      session.Carries terms (.delete "7") ∧ (session.backend.delete "7").1 = .error error ∧
        ∃ told, (session.call terms (.delete "7")).1 = .error told ∧ told.kind = .internal ∧
          ∃ front, told.text = front ++ ("cannot delete task '7': store task: lock: another " ++
            "instance is already running (lock 'd.lock' is held); RPC error -32004: gone") := by
  intro error terms session patch mask
  have hcarries : ∀ demand : Rpc.Demand, demand.IsRegular →
      (Utf8.ofString (demand.line 1)).length ≤ terms.limit → session.Carries terms demand :=
    fun demand hregular hfits => ⟨rfl, (by decide : 1 < Rpc.Client.ids), by decide, hfits, hregular⟩
  have hcreate : session.Carries terms (.create "tea") :=
    hcarries _ trivial (by rw [Rpc.Demand.ofString_line]; decide +kernel)
  have hupdate : session.Carries terms (.update ⟨"7", patch, mask⟩) := by
    refine hcarries _ ?_ (by rw [Rpc.Demand.ofString_line]; decide +kernel)
    intro time htime
    obtain rfl := Option.some.inj htime
    decide
  have hdelete : session.Carries terms (.delete "7") :=
    hcarries _ trivial (by rw [Rpc.Demand.ofString_line]; decide +kernel)
  obtain ⟨hcreated, hupdated, hdeleted⟩ := (Error.kind_goes_along error).2.2 terms session
  obtain ⟨told, houtcome, hkind, front, htext⟩ := hdeleted "7" hdelete rfl
  refine ⟨⟨hcreate, rfl, hcreated "tea" hcreate rfl⟩,
    ⟨hupdate, rfl, hupdated "7" patch mask hupdate rfl⟩, hdelete, rfl, told, houtcome, hkind,
    front, ?_⟩
  have hwords : "cannot delete task '" ++ "7" ++ "'" ++ ": " ++ error.text =
      "cannot delete task '7': store task: lock: another " ++
        "instance is already running (lock 'd.lock' is held); RPC error -32004: gone" := by
    decide +kernel
  rw [htext, hwords]

end TaskDaemon
