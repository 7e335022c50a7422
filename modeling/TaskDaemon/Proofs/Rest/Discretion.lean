import TaskDaemon.Proofs.Error.Alike
import TaskDaemon.Proofs.Json.Text
import TaskDaemon.Proofs.Rest.Failures

/-!
# What a caller learns of an error

The answer to a change that failed has a status, which is that of the kind of the error, and a
message. An error whose kind does not concern the caller is told by a message that is the same for
all of them. Any other error is told in full, and that goes too far: its kind is that of its first
cause, while its wording has all causes in it, also those that do not concern the caller.

| first cause | other causes | told |
|---|---|---|
| does not concern the caller | any | nothing |
| concerns the caller | all concern the caller | the error |
| concerns the caller | some do not | the error, and what is nobody's business outside |

* `TaskDaemon.Rest.discreet_iff`: alike errors are answered alike, exactly in the first two cases
  and where the request asks for no change;
* `TaskDaemon.Rest.indiscreet_removal`: the third case.
-/

namespace TaskDaemon

/-- What is read back is told by its text. -/
theorem Json.render_injective {value other : Json} (hvalue : Readable depthLimit value)
    (hother : Readable depthLimit other) (h : value.render = other.render) : value = other :=
  Except.ok.inj ((parse_render hvalue).symm.trans (h ▸ parse_render hother))

namespace Rest

variable {error other : Error}

/-! ### The answer to an error -/

/-- **An error that does not concern the caller** is not told. -/
theorem ofError_of_not_concernsCaller (h : error.kind.concernsCaller = false) :
    Response.ofError error = .failed 500 "internal server error" := by
  have hstatus : statusOf error = (500, "internal server error") := by
    unfold statusOf
    cases hkind : error.kind <;> first | rfl | (rw [hkind] at h; cases h)
  rw [Response.ofError, hstatus]

/-- **An error that concerns the caller** is told in full. -/
theorem body_ofError (h : error.kind.concernsCaller = true) :
    (Response.ofError error).body = (Json.object [("message", .string error.text)]).render := by
  have hmessage : (statusOf error).2 = error.text := by
    unfold statusOf
    generalize error.text = text
    cases hkind : error.kind <;> first | rfl | (rw [hkind] at h; cases h)
  rw [Response.ofError, hmessage]
  generalize error.text = text
  rfl

/-- The answers to two errors that concern the caller agree only if the errors have one wording. -/
theorem text_eq_of_ofError_eq (h : error.kind.concernsCaller = true)
    (hother : other.kind.concernsCaller = true)
    (heq : Response.ofError error = Response.ofError other) : error.text = other.text := by
  have hbody := congrArg Response.body heq
  rw [body_ofError h, body_ofError hother] at hbody
  have hreadable : ∀ text, Json.Readable Json.depthLimit (.object [("message", .string text)]) :=
    fun text => ⟨trivial, trivial⟩
  have hmembers := Json.object.inj
    (Json.render_injective (hreadable error.text) (hreadable other.text) hbody)
  exact Json.string.inj (Prod.mk.inj (List.cons.inj hmembers).1).2

/-- **Alike errors are answered alike** exactly if an error is not told or has no secrets. -/
theorem ofError_discreet_iff (error : Error) :
    (∀ other, error.Alike other → Response.ofError other = Response.ofError error) ↔
      (error.kind.concernsCaller = true → error.secrets = 0) := by
  constructor
  · intro halike hkind
    -- With any other causes in place of the hidden ones the error is told as it is, so none of them
    -- can add to the wording.
    have hfill : ∀ message, (error.fill message).text = error.text := by
      intro message
      have halike' := Error.alike_fill message error
      exact text_eq_of_ofError_eq (halike'.concernsCaller_eq ▸ hkind) hkind (halike _ halike')
    have hlength := Error.length_text_fill "x" error
    rw [hfill, hfill, show "x".length = 1 from rfl] at hlength
    omega
  · intro h other halike
    by_cases hkind : error.kind.concernsCaller = true
    · rw [halike.eq_of_secrets (h hkind)]
    · have hhidden := eq_false_of_ne_true hkind
      rw [ofError_of_not_concernsCaller hhidden,
        ofError_of_not_concernsCaller (halike.concernsCaller_eq ▸ hhidden)]

/-! ### The answer to a request -/

/-- **A request asks for a change.** -/
def Request.AsksChange (request : Request) : Prop :=
  ∃ operation, plan request = .ok operation ∧ operation ≠ .list

/-- What asks for a change is not asked by a method without a body. -/
theorem Request.AsksChange.method_ne {request : Request} (h : request.AsksChange) :
    request.method ≠ "HEAD" := by
  obtain ⟨operation, hplan, hchange⟩ := h
  intro hmethod
  unfold plan at hplan
  rw [hmethod] at hplan
  dsimp only at hplan
  split at hplan
  · cases hplan
  · exact hchange (Except.ok.inj hplan).symm
  · cases hplan

/-- **A change that fails** is answered by the error, together with what was being done. -/
theorem Request.AsksChange.exists_doing {request : Request} (h : request.AsksChange) :
    ∃ doing, ∀ store now error, (serve ⟨store, some error⟩ now request).1 =
      Response.ofError (.context doing error) := by
  have hshape := shape_of_ne h.method_ne
  obtain ⟨operation, hplan, hchange⟩ := h
  simp only [serve, hplan, hshape]
  cases operation with
  | list => exact absurd rfl hchange
  | create draft => exact ⟨"cannot create task", fun _ _ _ => rfl⟩
  | update id body => exact ⟨"cannot update task '" ++ id ++ "'", fun _ _ _ => rfl⟩
  | delete id => exact ⟨"cannot delete task '" ++ id ++ "'", fun _ _ _ => rfl⟩

/-- A request that asks for no change is answered whatever changes fail with. -/
theorem serve_of_not_asksChange {request : Request} (h : ¬request.AsksChange) (store : Store)
    (now : Instant) (error other : Error) :
    (serve ⟨store, some other⟩ now request).1 = (serve ⟨store, some error⟩ now request).1 := by
  cases hplan : plan request with
  | error response => simp only [serve, hplan]
  | ok operation =>
    obtain rfl : operation = .list := by
      by_contra hchange
      exact h ⟨operation, hplan, hchange⟩
    simp only [serve, hplan]
    rfl

/-- **What the answer to a request tells of an error that changes fail with** stays the same for all
alike errors exactly if the request asks for no change, the error does not concern the caller, or
all its causes do. -/
theorem discreet_iff (store : Store) (now : Instant) (request : Request) (error : Error) :
    (∀ other, error.Alike other →
      (serve ⟨store, some other⟩ now request).1 = (serve ⟨store, some error⟩ now request).1) ↔
    (request.AsksChange → error.kind.concernsCaller = true → error.secrets = 0) := by
  by_cases hchange : request.AsksChange
  · obtain ⟨doing, hserve⟩ := hchange.exists_doing
    have hdiscreet := ofError_discreet_iff (.context doing error)
    simp only [hserve]
    constructor
    · intro halike _ hkind
      refine hdiscreet.mp (fun other hother => ?_) hkind
      cases hother with
      | context _ hsource => exact halike _ hsource
      | told hcause _ => cases hcause
      | hidden hcause _ _ _ => cases hcause
    · intro h other hother
      exact hdiscreet.mpr (h hchange) _ (.context doing hother)
  · exact ⟨fun _ h => absurd h hchange,
      fun _ other _ => serve_of_not_asksChange hchange store now error other⟩

/-- **A removal that failed for two reasons**, one of which is nobody's business outside: it is told
with the other one. -/
theorem indiscreet_removal :
    let request : Request := ⟨"DELETE", "/api/v1/tasks/1".toList, none, []⟩
    let error (disk : String) : Error := .multiple [.taskNotFound "1", .internal disk]
    (error "disk 7").Alike (error "disk 8") ∧
      (serve ⟨.empty, some (error "disk 7")⟩ ⟨0, 0⟩ request).1 =
        .failed 404 "cannot delete task '1': no such task: 1; internal error: disk 7" ∧
      (serve ⟨.empty, some (error "disk 8")⟩ ⟨0, 0⟩ request).1 ≠
        (serve ⟨.empty, some (error "disk 7")⟩ ⟨0, 0⟩ request).1 := by
  intro request error
  refine ⟨.multiple (.cons (.told rfl rfl) (.cons (.hidden rfl rfl rfl rfl) .nil)), ?_, ?_⟩
  · decide +kernel
  · decide +kernel

end Rest

end TaskDaemon
