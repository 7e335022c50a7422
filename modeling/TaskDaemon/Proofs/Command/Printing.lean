import TaskDaemon.Proofs.Daemon.Meeting
import TaskDaemon.Proofs.Rpc.Refused
import TaskDaemon.Proofs.Store.Serving

/-!
# What commands on the tasks come to

A command on the tasks makes at most two calls: one that changes something, and one for the list
that it prints. What it comes to is said here without calls: what it does to the store of the daemon
(`TaskDaemon.TaskCommand.effect`), and what is then printed (`TaskDaemon.TaskCommand.listing`), a
line for each task in the order of the list.

| command | the store afterwards | fails |
|---|---|---|
| `add` | with a task of the words, a space between them | if they are blank |
| `list` | as it was | never |
| `done` | with the task's times of completion and change set | if there is no such task |
| `remove` | without the task | if there is no such task |

This is so unless the line of the first call is too long for the daemon
(`TaskDaemon.TaskCommand.Fits`): then the command fails as if the daemon were gone. And printing can
fail where all else is done: then the command fails although it has had its effect.

* `TaskDaemon.TaskCommand.ComesTo`: the four ways a command can end;
* `TaskDaemon.TaskCommand.perform_of_fits` and `TaskDaemon.TaskCommand.perform_of_long`: which they
  are, on one connection;
* `TaskDaemon.Machine.dial_setBackend`: the daemon that is left;
* `TaskDaemon.Machine.visit_prints`: the main result;
* `TaskDaemon.Machine.commands_fall_short`: words that are not blank and are refused all the same,
  and a task that is made by a command that fails.
-/

namespace TaskDaemon

open Rpc Attempt

namespace TaskCommand

/-! ### What a command is to come to -/

/-- What is being done where a command fails. -/
def doing : TaskCommand → String
  | add _ => "cannot create task"
  | list => "cannot retrieve tasks"
  | done _ => "cannot complete task"
  | remove _ => "cannot remove task"

/-- **What a command does to a store**, or why it does not: given at the time `now`, and carried out
when the clock of the daemon shows `told`. -/
def effect (store : Store) (now told : Instant) : TaskCommand → Outcome Store
  | add words =>
    if IsBlankText (" ".intercalate words).toList then .error blankSummary
    else .ok (store.create ⟨" ".intercalate words⟩ told).2
  | list => .ok store
  | done id =>
    match store.get? id with
    | none => .error (.taskNotFound id)
    | some row =>
      .ok (store.put id
        { row with task := { row.task with completedAt := some now, updatedAt := some told } })
  | remove id =>
    match store.get? id with
    | none => .error (.taskNotFound id)
    | some _ => .ok (store.delete id).2

/-- **What is printed of a task** at the time `later`. -/
def entry (later : Instant) (task : Task) : String :=
  "#" ++ task.id ++ " [" ++ (if ∃ time ∈ task.completedAt, time ≤ later then "✓" else " ") ++ "] "
    ++ task.summary ++ "\n"

/-- **What is printed of a store** at the time `later`: its tasks, in the order of the list. -/
def listing (later : Instant) (store : Store) : Bytes :=
  Utf8.ofString (String.join (store.list.map (entry later)))

/-- **What a command asks the daemon for** in its first call. -/
def asks (now : Instant) : TaskCommand → Demand
  | add words => .create (" ".intercalate words)
  | list => .list
  | done id => .update ⟨id, { completedAt := some now }, { completedAt := true }⟩
  | remove id => .delete id

/-- **The line of the first call is not too long** for the daemon. -/
def Fits (now : Instant) (command : TaskCommand) : Prop :=
  (Utf8.ofString ((command.asks now).line 1)).length ≤ defaultLineLimit

instance (now : Instant) (command : TaskCommand) : Decidable (command.Fits now) :=
  inferInstanceAs (Decidable (_ ≤ _))

/-- **What a command comes to** where the daemon has this store: what is taken of what it prints,
and how it ends; and the store afterwards. -/
inductive ComesTo (store : Store) (now told later : Instant) (output : Output)
    (command : TaskCommand) : Printed → Store → Prop
  /-- It has its effect, and the tasks that there are then are printed. -/
  | prints {after : Store} (hfits : command.Fits now)
    (heffect : command.effect store now told = .ok after)
    (hprinted : output.fault? (listing later after) = none) :
    ComesTo store now told later output command ⟨output.taken (listing later after), .done⟩ after
  /-- It has its effect, and fails since printing the tasks does. -/
  | cut {after : Store} {fault : SystemFault} (hfits : command.Fits now)
    (heffect : command.effect store now told = .ok after)
    (hcut : output.fault? (listing later after) = some fault) :
    ComesTo store now told later output command ⟨output.taken (listing later after),
      .failed (.fileSystem "<stdout>" "print tasks" fault)⟩ after
  /-- It has no effect, and fails with an error of the same kind. -/
  | fails {error cause : Error} (hfits : command.Fits now)
    (heffect : command.effect store now told = .error error) (hkind : cause.kind = error.kind) :
    ComesTo store now told later output command (.failed (.context command.doing cause)) store
  /-- The line of its first call is too long, and it fails as if the daemon were gone. -/
  | refused {cause : Error} (hlong : ¬command.Fits now) (hkind : cause.kind = .unavailable) :
    ComesTo store now told later output command (.failed (.context command.doing cause)) store

/-! ### The change -/

theorem isTold_asks {now : Instant} (hnow : now.IsTold) (command : TaskCommand) :
    (command.asks now).IsTold := by
  cases command with
  | done id =>
    rintro time (hmem : some now = some time)
    obtain rfl := Option.some.inj hmem
    exact hnow
  | add words => trivial
  | list => trivial
  | remove id => trivial

/-- **Doing what a command asks for** has its effect. -/
theorem perform_asks (snapshot : ProcessSnapshot) (store : Store) (now told : Instant)
    (command : TaskCommand) :
    match command.effect store now told with
    | .ok after => ∃ result,
        (command.asks now).perform snapshot ⟨store, none⟩ told = (.ok result, ⟨after, none⟩)
    | .error error =>
        (command.asks now).perform snapshot ⟨store, none⟩ told = (.error error, ⟨store, none⟩) := by
  cases command with
  | list => exact ⟨_, rfl⟩
  | add words =>
    have hcreate : (Backend.mk store none).create ⟨" ".intercalate words⟩ told =
        ((store.create ⟨" ".intercalate words⟩ told).1,
          ⟨(store.create ⟨" ".intercalate words⟩ told).2, none⟩) := rfl
    by_cases hblank : IsBlankText (" ".intercalate words).toList
    · simp only [effect, asks, Demand.perform, hcreate, Store.create_eq, if_pos hblank]
      rfl
    · simp only [effect, asks, Demand.perform, hcreate, Store.create_eq, if_neg hblank]
      exact ⟨_, rfl⟩
  | done id =>
    have hupdate : ∀ patch mask, (Backend.mk store none).update id patch mask told =
        ((store.update id patch mask told).1, ⟨(store.update id patch mask told).2, none⟩) :=
      fun _ _ => rfl
    cases hfound : store.get? id with
    | none =>
      simp only [effect, asks, Demand.perform, hupdate, hfound, Store.update_of_none hfound]
      rfl
    | some row =>
      simp only [effect, asks, Demand.perform, hupdate, hfound, Store.update_of_some hfound]
      exact ⟨_, rfl⟩
  | remove id =>
    have hdelete : (Backend.mk store none).delete id =
        ((store.delete id).1, ⟨(store.delete id).2, none⟩) := rfl
    cases hfound : store.get? id with
    | none =>
      simp only [effect, asks, Demand.perform, hdelete, hfound, Store.delete_of_none hfound]
      rfl
    | some row =>
      simp only [effect, asks, Demand.perform, hdelete, hfound, Store.delete_of_some hfound]
      exact ⟨_, rfl⟩

/-- What a call gives, without its value, is what its demand gives. -/
theorem map_unit_of_map {α : Type} {outcome : Outcome α} {wrap : α → Result} {seen : Outcome Result}
    (h : outcome.map wrap = seen) : (outcome.map fun _ => ()) = seen.map fun _ => () := by
  subst h
  cases outcome <;> rfl

/-- **The first call of a command**, unless it has nothing to change. -/
theorem change_eq (now : Instant) (terms : Terms) (session : Session) {command : TaskCommand}
    (hcommand : command ≠ list) :
    command.change now terms session =
      (Error.inContext command.doing
          ((session.demand terms (command.asks now)).1.map fun _ => ()),
        (session.demand terms (command.asks now)).2) := by
  have hcontext : ∀ {α : Type} (operation : String) (outcome : Outcome α),
      ((Error.inContext operation outcome).map fun _ => ()) =
        Error.inContext operation (outcome.map fun _ => ()) := by
    intro α operation outcome
    cases outcome <;> rfl
  cases command with
  | list => exact absurd rfl hcommand
  | add words =>
    refine Prod.ext ?_ rfl
    exact (hcontext _ _).trans (congrArg _ (map_unit_of_map rfl))
  | done id =>
    refine Prod.ext ?_ rfl
    exact (hcontext _ _).trans (congrArg _ (map_unit_of_map rfl))
  | remove id =>
    have hunit : ∀ outcome : Outcome Unit, outcome = outcome.map fun _ => () := by
      intro outcome
      cases outcome <;> rfl
    refine Prod.ext ?_ rfl
    exact congrArg (Error.inContext _) ((hunit _).trans (map_unit_of_map rfl))

/-! ### The whole command -/

section Perform

variable {terms : Terms} {session : Session} {command : TaskCommand} {store after : Store}
  {output : Output} {now told later : Instant}

theorem line_eq_entry (task : Task) (later : Instant) :
    Listing.line task later ++ "\n" = entry later task := by
  have hmark : Listing.isDone task later = true ↔ ∃ time ∈ task.completedAt, time ≤ later := by
    unfold Listing.isDone
    cases task.completedAt with
    | none => simp
    | some time => simp
  unfold Listing.line entry
  simp only [hmark]

/-- **The tasks of a store are printed**, or that fails. -/
theorem comesTo_print (hfits : command.Fits now)
    (heffect : command.effect store now told = .ok after) (later : Instant) (output : Output) :
    command.ComesTo store now told later output (print output later after.list) after := by
  have htext : Utf8.ofString (Listing.text after.list later) = listing later after :=
    congrArg (Utf8.ofString ∘ String.join)
      (List.map_congr_left fun task _ => line_eq_entry task later)
  rw [print, htext]
  cases hfault : output.fault? (listing later after) with
  | none => exact .prints hfits heffect hfault
  | some fault => exact .cut hfits heffect hfault

/-- **The list is had and printed** behind a change, which was the only call so far if there was
one. -/
theorem perform_of_change {session' : Session} (hlimit : terms.limit = defaultLineLimit)
    (hclock : (terms.clock 0).IsTold)
    (hchange : command.change now terms session = (.ok (), session'))
    (hopen : session'.client.broken = false)
    (hid : session'.client.nextId = 1 ∨ session'.client.nextId = 2)
    (hbackend : session'.backend = ⟨store, none⟩) (hstore : store.IsTold) :
    ∃ client, command.perform output now later terms session =
      (print output later store.list, ⟨client, ⟨store, none⟩⟩) := by
  -- The call for the list is the first or the second, so its line is short.
  have hfits : (Utf8.ofString (Demand.list.line session'.client.nextId)).length ≤ terms.limit := by
    rw [hlimit]
    rcases hid with hid | hid
    · rw [hid, Demand.ofString_line]
      decide +kernel
    · rw [hid, Demand.ofString_line]
      decide +kernel
  have hids : session'.client.nextId < Client.ids := by
    rcases hid with hid | hid <;> rw [hid] <;> decide
  have hdemand : session'.demand terms .list = _ := Session.demand_eq trivial
    (hbackend ▸ ⟨rfl, hstore⟩ : session'.backend.IsTold) hclock hopen hids
    (by rw [hlimit]; decide) hfits
  rw [hbackend] at hdemand
  obtain ⟨hlist, hsession⟩ := Prod.mk.inj hdemand
  obtain ⟨tasks, htasks, heq⟩ := map_eq_ok_iff.mp hlist
  obtain rfl := Result.tasks.inj heq
  have hcall : session'.call terms .list = (.ok store.list, session'.next ⟨store, none⟩) :=
    Prod.ext htasks hsession
  refine ⟨(session'.next ⟨store, none⟩).client, ?_⟩
  rw [perform, hchange]
  dsimp only
  rw [Session.callFor, hcall]
  rfl

/-- **Where the change fails**, nothing else is done. -/
theorem perform_of_failure {session' : Session} {error : Error}
    (hchange : command.change now terms session = (.error error, session')) :
    command.perform output now later terms session = (.failed error, session') := by
  rw [perform, hchange]

/-- **A command whose first line fits** does what it is to do and prints the tasks, or fails as the
store does. -/
theorem perform_of_fits (endpoint : Endpoint) (hlimit : terms.limit = defaultLineLimit)
    (hclock : (terms.clock 0).IsTold) (hstore : store.IsTold) (hnow : now.IsTold)
    (hfits : command.Fits now) :
    ∃ printed client after,
      command.perform output now later terms ⟨.fresh endpoint, ⟨store, none⟩⟩ =
        (printed, ⟨client, ⟨after, none⟩⟩) ∧
      command.ComesTo store now (terms.clock 0) later output printed after := by
  have hdone := command.perform_asks terms.snapshot store now (terms.clock 0)
  have htold := command.isTold_asks hnow
  have hbackend : Backend.IsTold ⟨store, none⟩ := ⟨rfl, hstore⟩
  obtain ⟨hafter, -⟩ := Demand.isTold_perform terms.snapshot hbackend hclock htold
  have hmatches :=
    (command.asks now).matches_relayed terms.snapshot hbackend.inOrder (terms.clock 0)
  -- The list is had and printed at once, all else behind a change.
  by_cases hcommand : command = list
  · subst hcommand
    obtain ⟨client, hperform⟩ : ∃ client, list.perform output now later terms
        ⟨.fresh endpoint, ⟨store, none⟩⟩ = (_, ⟨client, ⟨store, none⟩⟩) :=
      perform_of_change hlimit hclock rfl rfl (Or.inl rfl) rfl hstore
    exact ⟨_, client, store, hperform, comesTo_print hfits rfl later output⟩
  have hdemand : Session.demand terms ⟨.fresh endpoint, ⟨store, none⟩⟩ (command.asks now) = _ :=
    Session.demand_eq htold hbackend hclock rfl (by decide : 1 < Client.ids)
      (by rw [hlimit]; decide) (by rw [hlimit]; exact hfits)
  have hchange := change_eq now terms ⟨.fresh endpoint, ⟨store, none⟩⟩ hcommand
  rw [hdemand] at hchange
  cases heffect : command.effect store now (terms.clock 0) with
  | ok after =>
    rw [heffect] at hdone
    obtain ⟨result, hresult⟩ := hdone
    rw [hresult] at hchange hafter
    obtain ⟨client, hperform⟩ : ∃ client, command.perform output now later terms
        ⟨.fresh endpoint, ⟨store, none⟩⟩ = (_, ⟨client, ⟨after, none⟩⟩) :=
      perform_of_change hlimit hclock hchange rfl (Or.inr rfl) rfl hafter.store
    exact ⟨_, client, after, hperform, comesTo_print hfits heffect later output⟩
  | error error =>
    rw [heffect] at hdone
    have hfailed : (command.asks now).perform terms.snapshot ⟨store, none⟩ (terms.clock 0) =
      (.error error, ⟨store, none⟩) := hdone
    rw [hfailed] at hchange hmatches
    obtain ⟨cause, hcause, hkind⟩ := hmatches
    rw [hcause] at hchange
    exact ⟨_, _, store, perform_of_failure hchange, .fails hfits heffect hkind⟩

/-- **A command whose first line is too long** fails as if the daemon were gone, and changes
nothing. -/
theorem perform_of_long (endpoint : Endpoint) (hlimit : terms.limit = defaultLineLimit)
    (hlong : ¬command.Fits now) :
    ∃ printed client after,
      command.perform output now later terms ⟨.fresh endpoint, ⟨store, none⟩⟩ =
        (printed, ⟨client, ⟨after, none⟩⟩) ∧
      command.ComesTo store now (terms.clock 0) later output printed after := by
  -- A call for the list has no words that could make it long.
  have hcommand : command ≠ list := by
    rintro rfl
    refine hlong ?_
    rw [Fits, asks, Demand.ofString_line]
    decide +kernel
  obtain ⟨cause, client, hdemand, hkind⟩ : ∃ cause client,
      Session.demand terms ⟨.fresh endpoint, ⟨store, none⟩⟩ (command.asks now) =
        (.error cause, ⟨client, ⟨store, none⟩⟩) ∧ cause.kind = .unavailable :=
    Session.demand_of_long rfl (by rw [hlimit]; decide)
      (by rw [hlimit]; exact Nat.lt_of_not_le hlong)
  have hchange := change_eq now terms ⟨.fresh endpoint, ⟨store, none⟩⟩ hcommand
  rw [hdemand] at hchange
  exact ⟨_, client, store, perform_of_failure hchange, .refused hlong hkind⟩

/-- **Every command comes to this**, on a connection that was just made. -/
theorem perform_comesTo (endpoint : Endpoint) (hlimit : terms.limit = defaultLineLimit)
    (hclock : (terms.clock 0).IsTold) (hstore : store.IsTold) (hnow : now.IsTold) :
    ∃ printed client after,
      command.perform output now later terms ⟨.fresh endpoint, ⟨store, none⟩⟩ =
        (printed, ⟨client, ⟨after, none⟩⟩) ∧
      command.ComesTo store now (terms.clock 0) later output printed after := by
  by_cases hfits : command.Fits now
  · exact perform_of_fits endpoint hlimit hclock hstore hnow hfits
  · exact perform_of_long endpoint hlimit hfits

end Perform

end TaskCommand

namespace Machine

variable {machine : Machine} {sock : Option Path} {endpoint : Endpoint} {daemon : RunningDaemon}

/-- **A daemon is found again** with the backend that was put in place of its own. -/
theorem dial_setBackend (hdial : machine.dial endpoint = .ok daemon) (backend : Backend) :
    (machine.setBackend daemon backend).dial endpoint = .ok { daemon with backend := backend } := by
  cases endpoint with
  | tcp address => cases hdial
  | unix path =>
    -- What a daemon listens on has nothing to do with its backend.
    let put (other : RunningDaemon) : RunningDaemon :=
      if other.launched.lock.number = daemon.launched.lock.number then
        { other with backend := backend }
      else other
    have hsocket (other : RunningDaemon) : (put other).socket? = other.socket? := by
      simp only [put]
      split <;> rfl
    have hself : put daemon = { daemon with backend := backend } := if_pos rfl
    have hdaemons : (machine.setBackend daemon backend).daemons = machine.daemons.map put := rfl
    obtain ⟨number, hnumber, hfound⟩ := dial_unix_eq_ok_iff.mp hdial
    rw [dial_unix_eq_ok_iff, hdaemons]
    simp only [List.any_map, List.find?_map, Function.comp_def, hsocket]
    exact ⟨number, hnumber, by rw [hfound, Option.map_some, hself]⟩

/-- **Calls are made to the daemon** that a command finds. -/
theorem visit_eq (hsock : machine.settings.endpoint sock = .ok endpoint)
    (hdial : machine.dial endpoint = .ok daemon) (now : Instant)
    (calls : Terms → Session → Printed × Session) :
    machine.visit sock now calls =
      let made := calls { snapshot := daemon.snapshot, clock := fun _ => now }
        ⟨.fresh endpoint, daemon.backend⟩
      (made.1, machine.setBackend daemon made.2.backend) := by
  unfold visit
  rw [hsock]
  dsimp only
  rw [hdial]

/-- **A command comes to what it comes to on one connection**, and the daemon keeps the store. -/
theorem visit_comesTo (hsock : machine.settings.endpoint sock = .ok endpoint)
    (hdial : machine.dial endpoint = .ok daemon) {store : Store}
    (hbackend : daemon.backend = ⟨store, none⟩) (hstore : store.Serving) {now told : Instant}
    (hnow : now.IsTold) (htold : told.IsTold) (later : Instant) (output : Output)
    (command : TaskCommand) :
    ∃ printed after, machine.visit sock told (command.perform output now later) =
        (printed, machine.setBackend daemon ⟨after, none⟩) ∧
      command.ComesTo store now told later output printed after := by
  have hvisit := visit_eq hsock hdial told (command.perform output now later)
  obtain ⟨printed, client, after, hperform, hcomes⟩ : ∃ printed client after,
      command.perform output now later { snapshot := daemon.snapshot, clock := fun _ => told }
          ⟨.fresh endpoint, ⟨store, none⟩⟩ = (printed, ⟨client, ⟨after, none⟩⟩) ∧
        command.ComesTo store now told later output printed after :=
    TaskCommand.perform_comesTo endpoint rfl htold hstore.isTold hnow
  rw [hbackend, hperform] at hvisit
  exact ⟨printed, after, hvisit, hcomes⟩

/-- **What commands on the tasks come to.** A command is given at the time `now` where a daemon is
found that runs with some store. If the line of its first call fits, it has its effect on the store
and prints the tasks that there are then, or it fails with an error of the kind of the store's error
and the store stays as it is. Where it has its effect it fails only if its output does, and then
with that. If the line is too long, it fails as if no daemon could be reached, and the store stays
as it is too. Nothing else about the daemon changes. -/
theorem visit_prints (hsock : machine.settings.endpoint sock = .ok endpoint)
    (hdial : machine.dial endpoint = .ok daemon) {store : Store}
    (hbackend : daemon.backend = ⟨store, none⟩) (hstore : store.Serving) {now told : Instant}
    (hnow : now.IsTold) (htold : told.IsTold) (later : Instant) (output : Output)
    (command : TaskCommand) :
    ∃ printed after, machine.visit sock told (command.perform output now later) =
        (printed, machine.setBackend daemon ⟨after, none⟩) ∧
      (machine.setBackend daemon ⟨after, none⟩).dial endpoint =
        .ok { daemon with backend := ⟨after, none⟩ } ∧
      command.ComesTo store now told later output printed after := by
  obtain ⟨printed, after, hvisit, hcomes⟩ :=
    visit_comesTo hsock hdial hbackend hstore hnow htold later output command
  exact ⟨printed, after, hvisit, dial_setBackend hdial _, hcomes⟩

/-- A demo task is completed. -/
theorem visit_prints_demo :
    let base : Machine :=
      { network := .confined 4000, defaults := { lockFile := ⟨[108]⟩, sockFile := ⟨[115]⟩ } }
    let time : Instant := ⟨1714564800, 0⟩
    let machine := (base.start 8 { base.defaults with server := { seedDemoTasks := true } } time).2
    ∃ daemon, machine.settings.endpoint none = .ok (.unix ⟨[115]⟩) ∧
      machine.dial (.unix ⟨[115]⟩) = .ok daemon ∧ daemon.backend = ⟨.demo fun _ => time, none⟩ ∧
      (Store.demo fun _ => time).Serving ∧ time.IsTold ∧
      (machine.visit none time ((TaskCommand.done "2").perform .whole time time)).1 =
        ⟨Utf8.ofString ("#1 [ ] Get some milk 🥛\n" ++ "#2 [✓] Walk the dog 🐕\n" ++
          "#3 [ ] Take over the world! 🌍\n"), .done⟩ := by
  intro base time machine
  have hsock : machine.settings.endpoint none = .ok (.unix ⟨[115]⟩) :=
    (Endpoint.parse_text_iff ⟨[115]⟩).mpr ⟨rfl, ['s'], by decide⟩
  have htime : time.IsTold := by decide
  have hserving : (Store.demo fun _ => time).Serving := .demo fun _ => htime
  let after : Store := ⟨[("2", ⟨2, ⟨"2", "Walk the dog 🐕", time, some time, some time⟩⟩),
    ("3", ⟨3, .new "3" "Take over the world! 🌍" time⟩),
    ("1", ⟨1, .new "1" "Get some milk 🥛" time⟩)], 3⟩
  have heffect : ((TaskCommand.done "2").effect (.demo fun _ => time) time time).toOption =
      some after := by decide +kernel
  have hlist : after.list = [.new "1" "Get some milk 🥛" time,
      ⟨"2", "Walk the dog 🐕", time, some time, some time⟩,
      .new "3" "Take over the world! 🌍" time] := by
    simp [Store.list, after, List.mergeSort, List.MergeSort.Internal.splitInTwo,
      Store.createdBefore, Task.new, Instant.compare]
  have hprinted : String.join (after.list.map (TaskCommand.entry time)) =
      "#1 [ ] Get some milk 🥛\n" ++ "#2 [✓] Walk the dog 🐕\n" ++
        "#3 [ ] Take over the world! 🌍\n" := by
    rw [hlist]
    decide +kernel
  have hfits : (TaskCommand.done "2").Fits time := by
    rw [TaskCommand.Fits, TaskCommand.asks, Demand.ofString_line]
    decide +kernel
  obtain ⟨printed, left, hvisit, -, hcomes⟩ := visit_prints hsock rfl rfl hserving htime htime time
    .whole (.done "2")
  refine ⟨_, hsock, rfl, rfl, hserving, htime, ?_⟩
  rw [hvisit]
  change TaskCommand.ComesTo (.demo fun _ => time) time time time .whole _ _ _ at hcomes
  cases hcomes with
  | prints _ hdone =>
    rw [hdone] at heffect
    obtain rfl : left = after := Option.some.inj heffect
    exact congrArg (fun text => Printed.mk (Utf8.ofString text) .done) hprinted
  | cut _ _ hcut => cases hcut
  | fails _ hfailed =>
    rw [hfailed] at heffect
    cases heffect
  | refused hlong => exact absurd hfits hlong

/-- **Commands fall short of what they are to do.** Words that are not blank are refused all the
same where they are too long for the line of a call: no task is made of them, and what is told
is that the daemon cannot be reached. And a task may be made by a command that fails, since
printing comes last. -/
theorem commands_fall_short :
    let base : Machine :=
      { network := .confined 4000, defaults := { lockFile := ⟨[108]⟩, sockFile := ⟨[115]⟩ } }
    let time : Instant := ⟨1714564800, 0⟩
    let machine := (base.start 8 base.defaults time).2
    let words := [String.ofList (List.replicate 1048576 'a')]
    let full : Output := .bounded 0 (.number 28)
    ∃ daemon, machine.settings.endpoint none = .ok (.unix ⟨[115]⟩) ∧
      machine.dial (.unix ⟨[115]⟩) = .ok daemon ∧ daemon.backend = ⟨.empty, none⟩ ∧
      (∃ after cause, (TaskCommand.add words).effect .empty time time = .ok after ∧
        machine.visit none time ((TaskCommand.add words).perform .whole time time) =
          (.failed (.context "cannot create task" cause),
            machine.setBackend daemon ⟨.empty, none⟩) ∧
        cause.kind = .unavailable) ∧
      ∃ after, (TaskCommand.add ["tea"]).effect .empty time time = .ok after ∧
        after.list = [.new "1" "tea" time] ∧
        machine.visit none time ((TaskCommand.add ["tea"]).perform full time time) =
          (.failed (.fileSystem "<stdout>" "print tasks" (.number 28)),
            machine.setBackend daemon ⟨after, none⟩) := by
  intro base time machine words full
  have hsock : machine.settings.endpoint none = .ok (.unix ⟨[115]⟩) :=
    (Endpoint.parse_text_iff ⟨[115]⟩).mpr ⟨rfl, ['s'], by decide⟩
  have htime : time.IsTold := by decide
  obtain ⟨daemon, hdial, hbackend⟩ : ∃ daemon, machine.dial (.unix ⟨[115]⟩) = .ok daemon ∧
      daemon.backend = ⟨.empty, none⟩ := ⟨_, rfl, rfl⟩
  refine ⟨daemon, hsock, hdial, hbackend, ?_, ?_⟩
  · have htext : (" ".intercalate words).toList = List.replicate 1048576 'a' := by
      rw [show " ".intercalate words = String.ofList (List.replicate 1048576 'a') from rfl,
        String.toList_ofList]
    have hblank : ¬IsBlankText (" ".intercalate words).toList := by
      intro hblank
      rw [htext] at hblank
      exact absurd (hblank 'a' (List.mem_replicate.mpr ⟨by decide, rfl⟩)) (by decide)
    have hlong : ¬(TaskCommand.add words).Fits time := by
      have hlength := Demand.length_create_line (" ".intercalate words) 1
      rw [htext, List.length_replicate] at hlength
      exact Nat.not_le.mpr hlength
    -- From here on it does not matter which words these are.
    clear_value words
    obtain ⟨printed, left, hvisit, hcomes⟩ := visit_comesTo hsock hdial hbackend .empty htime htime
      time .whole (.add words)
    cases hcomes with
    | prints hfits => exact absurd hfits hlong
    | cut hfits => exact absurd hfits hlong
    | fails hfits => exact absurd hfits hlong
    | @refused cause _ hkind => exact ⟨_, cause, if_neg hblank, hvisit, hkind⟩
  · have hblank : ¬IsBlankText (" ".intercalate ["tea"]).toList := by decide
    have hmade : (TaskCommand.add ["tea"]).effect .empty time time =
        .ok (Store.create .empty ⟨"tea"⟩ time).2 := by
      rw [TaskCommand.effect, if_neg hblank]
      rfl
    have hlist : (Store.create .empty ⟨"tea"⟩ time).2.list = [.new "1" "tea" time] := by
      decide +kernel
    have hfits : (TaskCommand.add ["tea"]).Fits time := by
      rw [TaskCommand.Fits, TaskCommand.asks, Demand.ofString_line]
      decide +kernel
    have hfull : full.fault? (TaskCommand.listing time (Store.create .empty ⟨"tea"⟩ time).2) =
        some (.number 28) := by
      rw [TaskCommand.listing, hlist]
      decide +kernel
    obtain ⟨printed, left, hvisit, hcomes⟩ := visit_comesTo hsock hdial hbackend .empty htime htime
      time full (.add ["tea"])
    refine ⟨_, hmade, hlist, ?_⟩
    cases hcomes with
    | prints _ hdone hprinted =>
      cases hmade.symm.trans hdone
      cases hfull.symm.trans hprinted
    | cut _ hdone hcut =>
      cases hmade.symm.trans hdone
      cases hfull.symm.trans hcut
      exact hvisit
    | fails _ hfailed => cases hmade.symm.trans hfailed
    | refused hlong => exact absurd hfits hlong

end Machine

end TaskDaemon
