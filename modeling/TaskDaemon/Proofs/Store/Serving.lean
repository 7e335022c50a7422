import TaskDaemon.Proofs.Json.Admitted
import TaskDaemon.Proofs.Rpc.Remote
import TaskDaemon.Rest.Service

/-!
# Stores of daemons that run

A daemon starts with a store that is empty or holds the demo tasks, and from then on the store is
changed by requests only, over RPC and over REST. A store that comes about in this way
(`TaskDaemon.Store.Serving`) can be told: all its times are times that a text can tell
(`TaskDaemon.Store.Serving.isTold`).

The times in a store are those that the clock has shown and those that requests have brought, and
the latter were read from texts. It does not matter where in a request a time stands, since every
reader gives what the schema admits (`TaskDaemon.Json.Schema.Admits`).
-/

namespace TaskDaemon

open Attempt Json

/-! ### Times that are read -/

theorem Instant.isTold_of_accept {given : Json} {time : Instant}
    (h : Instant.atom.accept given = .ok time) : time.IsTold := by
  cases given with
  | string text => exact Instant.isTold_of_parse (mapError_eq_ok_iff.mp (mapError_eq_ok_iff.mp h))
  | null => cases h
  | bool value => cases h
  | number value => cases h
  | array items => cases h
  | object members => cases h

/-- A time that may be missing was read or is missing. -/
theorem Instant.isTold_of_maybe {time : Option Instant}
    (h : (Schema.option Instant.schema).Admits time ∨
      (Absence.anywhere (none : Option Instant)).ofObject? = some time) :
    ∀ t ∈ time, t.IsTold := by
  rintro t (rfl : time = some t)
  rcases h with hread | habsent
  · obtain ⟨given, hgiven⟩ := hread t rfl
    exact Instant.isTold_of_accept hgiven
  · cases habsent

theorem Task.isTold_of_admits {task : Task} (h : Task.schema.Admits task) : task.IsTold := by
  obtain ⟨⟨id, summary, createdAt, updatedAt, completedAt, ⟨⟩⟩, ⟨-, -, hcreatedAt, hupdatedAt,
    hcompletedAt, -⟩, rfl⟩ := h
  refine ⟨?_, Instant.isTold_of_maybe hupdatedAt, Instant.isTold_of_maybe hcompletedAt⟩
  rcases hcreatedAt with ⟨given, hgiven⟩ | habsent
  · exact Instant.isTold_of_accept hgiven
  · cases habsent

theorem TaskPatch.isTold_of_admits {patch : TaskPatch} (h : TaskPatch.schema.Admits patch) :
    patch.IsTold := by
  obtain ⟨⟨summary, completedAt, ⟨⟩⟩, ⟨-, hcompletedAt, -⟩, rfl⟩ := h
  exact Instant.isTold_of_maybe hcompletedAt

theorem Rpc.UpdateParams.isTold_of_admits {params : Rpc.UpdateParams}
    (h : Rpc.UpdateParams.schema.Admits params) : params.update.IsTold := by
  obtain ⟨⟨id, patch, fields, ⟨⟩⟩, ⟨-, hpatch, -⟩, rfl⟩ := h
  rcases hpatch with hread | habsent
  · exact TaskPatch.isTold_of_admits hread
  · obtain rfl : ({} : TaskPatch) = patch := Option.some.inj habsent
    exact nofun

theorem Rest.PatchBody.isTold_of_admits {body : Rest.PatchBody}
    (h : Rest.PatchBody.schema.Admits body) : body.patch.IsTold := by
  obtain ⟨⟨summary, completedAt, ⟨⟩⟩, ⟨-, hcompletedAt, -⟩, rfl⟩ := h
  rintro time (htime : completedAt.join = some time)
  rcases hcompletedAt with ⟨inner, hinner, rfl⟩ | habsent
  · obtain ⟨given, hgiven⟩ := hinner time htime
    exact Instant.isTold_of_accept hgiven
  · obtain rfl : none = completedAt := Option.some.inj habsent
    cases htime

/-! ### Requests -/

/-- **A demand that is read** can be told. -/
theorem Rpc.Demand.isTold_of_read {method : Rpc.Method} {params : Json} {demand : Rpc.Demand}
    (h : Rpc.Demand.read method params = .ok demand) : demand.IsTold := by
  cases method with
  | updateTask =>
    obtain ⟨given, hgiven, rfl⟩ := map_eq_ok_iff.mp h
    exact Rpc.UpdateParams.isTold_of_admits (Schema.admits_of_decode hgiven)
  | status =>
    obtain ⟨_, -, rfl⟩ := map_eq_ok_iff.mp h
    trivial
  | createTask =>
    obtain ⟨_, -, rfl⟩ := map_eq_ok_iff.mp h
    trivial
  | listTasks =>
    obtain ⟨_, -, rfl⟩ := map_eq_ok_iff.mp h
    trivial
  | deleteTask =>
    obtain ⟨_, -, rfl⟩ := map_eq_ok_iff.mp h
    trivial

/-- **All that a line can do** is what some demand does, or nothing. -/
theorem Rpc.handle_cases (snapshot : ProcessSnapshot) (backend : Backend) (now : Instant)
    (line : String) : (Rpc.handle snapshot backend now line).2 = backend ∨
      ∃ demand : Rpc.Demand, demand.IsTold ∧
        (Rpc.handle snapshot backend now line).2 = (demand.perform snapshot backend now).2 := by
  unfold Rpc.handle
  dsimp only
  split
  · -- the line is no JSON
    exact Or.inl rfl
  unfold Rpc.handleValue
  dsimp only
  split
  · -- the value is no request
    exact Or.inl rfl
  next request _ =>
  split
  · -- the request has another version
    exact Or.inl rfl
  unfold Rpc.dispatch
  cases Rpc.Method.ofName? request.method with
  | none => exact Or.inl rfl
  | some method =>
    dsimp only
    rw [Rpc.call_eq]
    cases hread : Rpc.Demand.read method request.params with
    | error message => exact Or.inl rfl
    | ok demand => exact Or.inr ⟨demand, Rpc.Demand.isTold_of_read hread, rfl⟩

/-- **What a body is read as** is admitted. -/
theorem Rest.admits_of_readBody {α : Type} {s : Schema α} {request : Rest.Request} {value : α}
    (h : Rest.readBody s request = .ok value) : s.Admits value := by
  unfold Rest.readBody at h
  split at h
  · cases h
  split at h
  · cases h
  dsimp only at h
  split at h
  · next read hparse =>
    obtain rfl := Except.ok.inj h
    exact Schema.admits_of_parseFront hparse
  · cases h

/-- **The body of a change that is planned** can be told. -/
theorem Rest.isTold_of_plan {request : Rest.Request} {id : String} {body : Rest.PatchBody}
    (h : Rest.plan request = .ok (.update id body)) : body.patch.IsTold := by
  unfold Rest.plan at h
  dsimp only at h
  split at h
  · cases h
  · -- nothing that is asked of the tasks together is a change of one
    split at h
    · cases h
    split at h
    · obtain ⟨_, -, heq⟩ := map_eq_ok_iff.mp h
      cases heq
    · cases h
  · split at h
    · split at h
      · cases h
      split at h
      · obtain ⟨read, hread, heq⟩ := map_eq_ok_iff.mp h
        obtain ⟨-, rfl⟩ := Rest.Operation.update.inj heq
        have hbody := Rest.admits_of_readBody (mapError_eq_ok_iff.mp hread)
        exact Rest.PatchBody.isTold_of_admits hbody
      · cases h
    · cases h

namespace Store

/-- **A store of a daemon that runs**: one that a daemon starts with, or one that a request
leaves. -/
inductive Serving : Store → Prop
  /-- A daemon starts without tasks. -/
  | empty : Serving .empty
  /-- A daemon starts with the demo tasks. -/
  | demo {clock : Nat → Instant} (hclock : ∀ n, (clock n).IsTold) : Serving (.demo clock)
  /-- A line was handled. -/
  | line {store : Store} (h : Serving store) (snapshot : ProcessSnapshot) {now : Instant}
    (hnow : now.IsTold) (line : String) :
    Serving (Rpc.handle snapshot ⟨store, none⟩ now line).2.store
  /-- A REST request was answered. -/
  | request {store : Store} (h : Serving store) {now : Instant} (hnow : now.IsTold)
    (request : Rest.Request) : Serving (Rest.serve ⟨store, none⟩ now request).2.store

/-- The demo tasks were made at times that can be told. -/
theorem isTold_demo {clock : Nat → Instant} (hclock : ∀ n, (clock n).IsTold) :
    (demo clock).IsTold := by
  have hinsert : ∀ {store : Store} (summary : String) {now : Instant}, store.IsTold → now.IsTold →
      (store.insert summary now).2.IsTold := by
    intro store summary now hstore hnow entry hentry
    exact hstore.put ⟨store.counter + 1, .new _ summary now⟩ ⟨hnow, nofun, nofun⟩ _ entry hentry
  -- For the induction the store is any that can be told.
  have hfold : ∀ {seeds : List (String × Nat)} {store : Store}, store.IsTold →
      (seeds.foldl (fun store seed => (store.insert seed.1 (clock seed.2)).2) store).IsTold := by
    intro seeds
    induction seeds with
    | nil => exact id
    | cons seed seeds ih => exact fun hstore => ih (hinsert seed.1 hstore (hclock seed.2))
  exact hfold fun entry hentry => absurd hentry List.not_mem_nil

/-- What an operation asked for over REST leaves. -/
theorem IsTold.run {store : Store} (h : store.IsTold) {now : Instant} (hnow : now.IsTold)
    {request : Rest.Request} {operation : Rest.Operation}
    (hplan : Rest.plan request = .ok operation) :
    (operation.run ⟨store, none⟩ now).2.store.IsTold := by
  cases operation with
  | list => exact h
  | create draft => exact (h.create hnow draft).1
  | update id body => exact (h.update hnow id (Rest.isTold_of_plan hplan) body.mask).1
  | delete id => exact h.delete id

/-- **A store of a daemon that runs can be told.** -/
theorem Serving.isTold {store : Store} (h : store.Serving) : store.IsTold := by
  induction h with
  | empty => exact fun entry hentry => absurd hentry List.not_mem_nil
  | demo hclock => exact isTold_demo hclock
  | @line store _ snapshot now hnow line ih =>
    rcases Rpc.handle_cases snapshot ⟨store, none⟩ now line with hsame | ⟨demand, hdemand, hdone⟩
    · rw [hsame]
      exact ih
    · rw [hdone]
      exact (Rpc.Demand.isTold_perform snapshot ⟨rfl, ih⟩ hnow hdemand).1.store
  | @request store _ now hnow request ih =>
    unfold Rest.serve
    split
    · exact ih
    · next operation hplan => exact ih.run hnow hplan

end Store

end TaskDaemon
