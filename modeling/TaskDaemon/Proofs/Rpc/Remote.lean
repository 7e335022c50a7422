import TaskDaemon.Proofs.Rpc.Verdict
import TaskDaemon.Proofs.Rpc.Wire

/-!
# Calling is doing

A client that makes calls gets what it would get by doing the same to the store itself, and leaves
the store as it would (`TaskDaemon.Rpc.Faithful`), however many calls it makes and
whatever they are.

* `TaskDaemon.Rpc.Session.call_eq`: one call, for any kind of result that crosses the wire
  (`TaskDaemon.Rpc.Crosses`);
* `TaskDaemon.Rpc.Session.demand_eq`: one call by what it demands;
* `TaskDaemon.Rpc.faithful_of_limit`: calls one after the other, by induction on them;
* `TaskDaemon.Rpc.serveStream_demands`: the lines of the calls all at once on one connection, which
  gives the same replies;
* `TaskDaemon.Rpc.calls_faithful_iff`: the main result.

The induction carries three things from one call to the next: the store can be told
(`TaskDaemon.Store.IsTold`), the client is not broken, and its next id is one.

There is one limit on the length of lines for which none of this holds, though every line is
shorter: the largest one. The server then reads nothing at all
(`TaskDaemon.Rpc.call_fails_at_largest_limit`).
-/

namespace TaskDaemon

/-- **A backend that a text can tell**: it is in order, and its store can be told. -/
structure Backend.IsTold (backend : Backend) : Prop where
  inOrder : backend.failure = none
  store : backend.store.IsTold

namespace Rpc

open Json Attempt

/-! ### What the operations give -/

namespace Demand

/-- **What a demand leaves and gives can be told**, if what it met could. -/
theorem isTold_perform (snapshot : ProcessSnapshot) {backend : Backend} (h : backend.IsTold)
    {now : Instant} (hnow : now.IsTold) {demand : Demand} (hdemand : demand.IsTold) :
    (demand.perform snapshot backend now).2.IsTold ∧
      ∀ result, (demand.perform snapshot backend now).1 = .ok result → result.IsTold := by
  obtain ⟨store, failure⟩ := backend
  obtain ⟨rfl, hstore⟩ : failure = none ∧ store.IsTold := ⟨h.inOrder, h.store⟩
  cases demand with
  | status =>
    refine ⟨h, fun result hresult => ?_⟩
    obtain ⟨status, hreport, rfl⟩ := map_eq_ok_iff.mp hresult
    unfold ProcessSnapshot.report at hreport
    split at hreport
    · next hpid =>
      obtain rfl := Except.ok.inj hreport
      change snapshot.pid.toNat < 4294967296
      omega
    · cases hreport
  | create summary =>
    obtain ⟨hafter, hmade⟩ := hstore.create hnow ⟨summary⟩
    refine ⟨⟨rfl, hafter⟩, fun result hresult => ?_⟩
    obtain ⟨task, htask, rfl⟩ := map_eq_ok_iff.mp hresult
    exact hmade task htask
  | list =>
    refine ⟨h, fun result hresult => ?_⟩
    obtain rfl := Except.ok.inj hresult
    exact hstore.list
  | update params =>
    obtain ⟨hafter, hchanged⟩ := hstore.update hnow params.id hdemand params.fields
    refine ⟨⟨rfl, hafter⟩, fun result hresult => ?_⟩
    obtain ⟨task, htask, rfl⟩ := map_eq_ok_iff.mp hresult
    exact hchanged task htask
  | delete id =>
    refine ⟨⟨rfl, hstore.delete id⟩, fun result hresult => ?_⟩
    obtain ⟨_, -, rfl⟩ := map_eq_ok_iff.mp hresult
    trivial

/-- **The error that a client reads** for one that a demand ended with. -/
def relayed (demand : Demand) (error : Error) : Error :=
  .rpc error.kind.rpcCode (Error.context demand.doing error).text

end Demand

/-! ### One call -/

/-- **A result that crosses the wire**: it is written so that it can be read, and not as null. -/
structure Crosses {α : Type} (s : Schema α) (a : α) : Prop where
  writes : s.Writes a
  notNull : s.toJson a ≠ .null
  readable : Readable 126 (s.toJson a)

namespace Session

variable {session : Session} {terms : Terms}

/-- The client behind a call. -/
def next (session : Session) (backend : Backend) : Session :=
  ⟨{ session.client with nextId := (session.client.nextId + 1) % Client.ids }, backend⟩

/-- **A call is what its demand comes to**, if its result crosses the wire. -/
theorem call_eq {α : Type} {call : Call α} {demand : Demand} (hmethod : call.method = demand.method)
    (hparams : call.params = demand.params) (hdemand : demand.IsTold) (htidy : call.result.Tidy)
    (wrap : α → Result) (hwrap : ∀ a, (wrap a).toJson = call.result.toJson a) (direct : Outcome α)
    (hdirect : (demand.perform terms.snapshot session.backend (terms.clock 0)).1 = direct.map wrap)
    (hcrosses : ∀ a, direct = .ok a → Crosses call.result a) (hopen : session.client.broken = false)
    (hid : session.client.nextId < Client.ids) (hlimit : terms.limit + 1 < sizes)
    (hfits : (Utf8.ofString (demand.line session.client.nextId)).length ≤ terms.limit) :
    Prod.map (Except.map wrap) id (session.call terms call) =
      ((demand.perform terms.snapshot session.backend (terms.clock 0)).1.mapError demand.relayed,
        session.next (demand.perform terms.snapshot session.backend (terms.clock 0)).2) := by
  have hbegin : session.client.begin call.method call.params =
      (.ok (demand.line session.client.nextId), (session.next session.backend).client) := by
    unfold Client.begin Demand.line next
    dsimp only
    rw [if_neg (by rw [hopen]; decide), hmethod, hparams]
  have hanswered := demand.answered_line hdemand hid hlimit hfits session.backend
  rw [hdirect] at hanswered
  unfold Session.call
  rw [hbegin, hdirect]
  dsimp only
  rw [hanswered]
  -- What is left is what the client makes of the line of the reply.
  cases direct with
  | ok a =>
    obtain ⟨hwrites, hnull, hreadable⟩ := hcrosses a rfl
    have hparse := parse_ok htidy hwrites hnull hreadable hid
    have hconclude := conclude_line hparse rfl rfl (session.next session.backend).client call.method
    have htold : demand.told (.ok (wrap a)) = .ok (call.result.toJson a) :=
      congrArg Except.ok (hwrap a)
    simp only [Except.map]
    rw [htold, hconclude]
    rfl
  | error error =>
    have hcode : -2147483648 ≤ error.kind.rpcCode ∧ error.kind.rpcCode ≤ 2147483647 := by
      cases error.kind <;> decide
    have hparse := parse_error htidy hcode (Error.context demand.doing error).text hid
    have hconclude := conclude_line hparse rfl rfl (session.next session.backend).client call.method
    have htold : demand.told (.error error) = .error
        { code := error.kind.rpcCode, message := (Error.context demand.doing error).text } := rfl
    simp only [Except.map]
    rw [htold, hconclude]
    rfl

end Session

/-! ### The results cross the wire -/

section Crosses

theorem crosses_status {status : ServerStatus} (h : status.pid < 4294967296) :
    Crosses ServerStatus.schema status where
  writes := ServerStatus.writes_schema h
  notNull := nofun
  readable := ServerStatus.readable_toJson h 125

theorem crosses_task {task : Task} (h : task.IsTold) : Crosses Task.schema task where
  writes := Task.writes_schema h
  notNull := nofun
  readable := task.readable_toJson 125

theorem crosses_tasks {tasks : List Task} (h : ∀ task ∈ tasks, task.IsTold) :
    Crosses listResult tasks where
  writes := writes_single (s := .list Task.schema)
    (fun task htask => Task.writes_schema (h task htask)) _ _
  notNull := nofun
  readable := by
    have hitems : ∀ {tasks : List Task}, ReadableItems 124 (tasks.map Task.schema.toJson) := by
      intro tasks
      induction tasks with
      | nil => trivial
      | cons task tasks ih => exact ⟨task.readable_toJson 123, ih⟩
    exact ⟨hitems, trivial⟩

theorem crosses_removed : Crosses deleteResult () where
  writes := trivial
  notNull := nofun
  readable := trivial

end Crosses

/-! ### Calls by their demands -/

namespace Session

/-- **A call by what it asks for**, and the session afterwards. -/
def demand (terms : Terms) (session : Session) : Demand → Outcome Result × Session
  | .status => Prod.map (Except.map .status) id (session.call terms .status)
  | .create summary => Prod.map (Except.map .task) id (session.call terms (.create summary))
  | .list => Prod.map (Except.map .tasks) id (session.call terms .list)
  | .update params =>
    Prod.map (Except.map .task) id
      (session.call terms (.update params.id params.update params.fields))
  | .delete id' => Prod.map (Except.map fun _ => .removed) id (session.call terms (.delete id'))

variable {session : Session} {terms : Terms}

/-- **A call gives what its demand comes to**, value for value or with an error that tells the
same. -/
theorem demand_eq {demand : Demand} (hdemand : demand.IsTold) (hbackend : session.backend.IsTold)
    (hclock : (terms.clock 0).IsTold) (hopen : session.client.broken = false)
    (hid : session.client.nextId < Client.ids) (hlimit : terms.limit + 1 < sizes)
    (hfits : (Utf8.ofString (demand.line session.client.nextId)).length ≤ terms.limit) :
    session.demand terms demand =
      ((demand.perform terms.snapshot session.backend (terms.clock 0)).1.mapError demand.relayed,
        session.next (demand.perform terms.snapshot session.backend (terms.clock 0)).2) := by
  obtain ⟨-, hresult⟩ := Demand.isTold_perform terms.snapshot hbackend hclock hdemand
  cases demand with
  | status =>
    refine call_eq rfl rfl hdemand ServerStatus.tidy_schema .status (fun _ => rfl) _ rfl ?_
      hopen hid hlimit hfits
    intro status hstatus
    exact crosses_status (hresult _ (map_eq_ok_iff.mpr ⟨status, hstatus, rfl⟩))
  | create summary =>
    refine call_eq rfl rfl hdemand Task.tidy_schema .task (fun _ => rfl) _ rfl ?_ hopen hid hlimit
      hfits
    intro task htask
    exact crosses_task (hresult _ (map_eq_ok_iff.mpr ⟨task, htask, rfl⟩))
  | list =>
    refine call_eq rfl rfl hdemand tidy_listResult .tasks (fun _ => rfl)
      (.ok session.backend.list) rfl ?_ hopen hid hlimit hfits
    intro tasks htasks
    obtain rfl := Except.ok.inj htasks
    exact crosses_tasks (hresult _ rfl)
  | update params =>
    refine call_eq rfl rfl hdemand Task.tidy_schema .task (fun _ => rfl) _ rfl ?_ hopen hid hlimit
      hfits
    intro task htask
    exact crosses_task (hresult _ (map_eq_ok_iff.mpr ⟨task, htask, rfl⟩))
  | delete id =>
    refine call_eq rfl rfl hdemand (tidy_empty _) (fun _ => .removed) (fun _ => rfl) _ rfl ?_
      hopen hid hlimit hfits
    exact fun _ _ => crosses_removed

end Session

/-! ### Many calls -/

/-- **Calls made one after the other**, the first of which has a given number: what comes of them,
and the session afterwards. -/
def Session.demandAll (terms : Terms) (count : Nat) (session : Session) :
    List Demand → List (Outcome Result) × Session
  | [] => ([], session)
  | demand :: rest =>
    let made := session.demand { terms with clock := fun _ => terms.clock count } demand
    let later := demandAll terms (count + 1) made.2 rest
    (made.1 :: later.1, later.2)

/-- **Demands done one after the other**, without calls. -/
def Demand.performAll (snapshot : ProcessSnapshot) (clock : Nat → Instant) (count : Nat)
    (backend : Backend) : List Demand → List (Outcome Result) × Backend
  | [] => ([], backend)
  | demand :: rest =>
    let done := demand.perform snapshot backend (clock count)
    let later := performAll snapshot clock (count + 1) done.2 rest
    (done.1 :: later.1, later.2)

/-- **The lines of calls**, the first of which has a given id. -/
def Demand.lines (id : Nat) : List Demand → List String
  | [] => []
  | demand :: rest => demand.line id :: lines ((id + 1) % Client.ids) rest

/-- **The same outcome**: the same result, or an error of the same kind. -/
def Matches (seen direct : Outcome Result) : Prop :=
  match direct with
  | .ok result => seen = .ok result
  | .error error => ∃ told, seen = .error told ∧ told.kind = error.kind

/-- **Calling is doing**: every call gives what doing the same directly gives at that point, the
client can go on, and the backend is left as if everything had been done directly. -/
structure Faithful (terms : Terms) (count : Nat) (session : Session) (demands : List Demand) :
    Prop where
  outcomes : List.Forall₂ Matches (session.demandAll terms count demands).1
    (Demand.performAll terms.snapshot terms.clock count session.backend demands).1
  usable : (session.demandAll terms count demands).2.client.broken = false
  backend : (session.demandAll terms count demands).2.backend =
    (Demand.performAll terms.snapshot terms.clock count session.backend demands).2

variable {terms : Terms} {session : Session}

/-- **What a client reads matches what was done.** -/
theorem Demand.matches_relayed (snapshot : ProcessSnapshot) {backend : Backend}
    (hbackend : backend.failure = none) (now : Instant) (demand : Demand) :
    Matches ((demand.perform snapshot backend now).1.mapError demand.relayed)
      (demand.perform snapshot backend now).1 := by
  cases hdirect : (demand.perform snapshot backend now).1 with
  | ok result => rfl
  | error error =>
    refine ⟨_, rfl, ?_⟩
    change ErrorKind.ofRpcCode error.kind.rpcCode = error.kind
    rw [ErrorKind.ofRpcCode_rpcCode]
    rcases Demand.kind_of_perform hbackend hdirect with h | h | ⟨h, -⟩ <;> rw [h] <;> decide

/-- **Calling is doing**, one call after the other. -/
theorem faithful_of_limit (hlimit : terms.limit + 1 < sizes)
    (hclock : ∀ n, (terms.clock n).IsTold) :
    ∀ {demands : List Demand} {session : Session} {count : Nat}, session.backend.IsTold →
      session.client.broken = false → session.client.nextId < Client.ids →
        (∀ demand ∈ demands, demand.IsTold) →
          (∀ line ∈ Demand.lines session.client.nextId demands,
            (Utf8.ofString line).length ≤ terms.limit) →
            Faithful terms count session demands
  | [], session, count, _, hopen, _, _, _ => ⟨.nil, hopen, rfl⟩
  | demand :: demands, session, count, hbackend, hopen, hid, hdemands, hfits => by
    have hdemand := hdemands demand List.mem_cons_self
    obtain ⟨hafter, -⟩ := Demand.isTold_perform terms.snapshot hbackend (hclock count) hdemand
    -- The first call leaves a session that meets the same conditions, and the later
    -- ones start there.
    have hmade : session.demand { terms with clock := fun _ => terms.clock count } demand =
        ((demand.perform terms.snapshot session.backend (terms.clock count)).1.mapError
            demand.relayed,
          session.next (demand.perform terms.snapshot session.backend (terms.clock count)).2) :=
      Session.demand_eq hdemand hbackend (hclock count) hopen hid hlimit
        (hfits _ List.mem_cons_self)
    have hlater : Faithful terms (count + 1)
        (session.next (demand.perform terms.snapshot session.backend (terms.clock count)).2)
        demands :=
      faithful_of_limit hlimit hclock hafter hopen (Nat.mod_lt _ (by decide))
        (fun other hother => hdemands other (List.mem_cons_of_mem _ hother))
        (fun line hline => hfits line (List.mem_cons_of_mem _ hline))
    obtain ⟨houtcomes, husable, hsame⟩ := hlater
    have hmatches := demand.matches_relayed terms.snapshot hbackend.inOrder (terms.clock count)
    constructor
    · rw [Session.demandAll, hmade]
      exact .cons hmatches houtcomes
    · rw [Session.demandAll, hmade]
      exact husable
    · rw [Session.demandAll, hmade]
      exact hsame

/-! ### One connection -/

/-- **The replies to calls**, the first of which has a given number and a given id. -/
def Demand.replies (snapshot : ProcessSnapshot) (clock : Nat → Instant) (count : Nat)
    (backend : Backend) (id : Nat) : List Demand → List Reply
  | [] => []
  | demand :: rest =>
    let done := demand.perform snapshot backend (clock count)
    ⟨Json.int id, demand.told done.1⟩ ::
      replies snapshot clock (count + 1) done.2 ((id + 1) % Client.ids) rest

theorem handleAll_lines (snapshot : ProcessSnapshot) (clock : Nat → Instant) :
    ∀ {demands : List Demand} {count id : Nat} {backend : Backend},
      (∀ demand ∈ demands, demand.IsTold) → id < Client.ids →
        handleAll snapshot clock count backend (Demand.lines id demands) =
          (Demand.replies snapshot clock count backend id demands,
            (Demand.performAll snapshot clock count backend demands).2)
  | [], _, _, _, _, _ => rfl
  | demand :: demands, count, id, backend, hdemands, hid => by
    have hhandle := handle_of_demands (demand.asks_line hid) rfl
      (Demand.read_params (hdemands demand List.mem_cons_self)) snapshot backend (clock count)
    have hlater : handleAll snapshot clock (count + 1)
        (demand.perform snapshot backend (clock count)).2
        (Demand.lines ((id + 1) % Client.ids) demands) = _ :=
      handleAll_lines snapshot clock
        (fun other hother => hdemands other (List.mem_cons_of_mem _ hother))
        (Nat.mod_lt _ (by decide))
    simp only [Demand.lines, handleAll, hhandle, hlater]
    rfl

/-- **A connection that gets all lines at once** gives the replies that it gives line by line. -/
theorem serveStream_demands (hlimit : terms.limit + 1 < sizes) {demands : List Demand}
    (hdemands : ∀ demand ∈ demands, demand.IsTold) {id : Nat} (hid : id < Client.ids)
    (hfits : ∀ line ∈ Demand.lines id demands, (Utf8.ofString line).length ≤ terms.limit)
    (backend : Backend) :
    serveStream { terms with ended := false } none backend
        (terminated ((Demand.lines id demands).map Utf8.ofString)) =
      (Demand.replies terms.snapshot terms.clock 0 backend id demands,
        (Demand.performAll terms.snapshot terms.clock 0 backend demands).2) := by
  have hlines : ∀ {demands : List Demand} {id : Nat}, ∀ text ∈ Demand.lines id demands,
      ∃ demand : Demand, ∃ id, text = demand.line id := by
    intro demands
    induction demands with
    | nil => exact fun text htext => absurd htext List.not_mem_nil
    | cons demand demands ih =>
      intro id text htext
      rcases List.mem_cons.mp htext with rfl | htext
      · exact ⟨demand, id, rfl⟩
      · exact ih text htext
  have hheard : hear terms.limit false (terminated ((Demand.lines id demands).map Utf8.ofString)) =
      ⟨Demand.lines id demands, .waiting⟩ := by
    refine hear_requests hlimit fun text htext => ?_
    obtain ⟨demand, id, rfl⟩ := hlines text htext
    exact ⟨demand.newline_not_mem_line id, hfits _ htext, demand.request?_line id⟩
  rw [serveStream_eq, hheard]
  simp only [handleAll_lines terms.snapshot terms.clock hdemands hid, Ending.parting,
    List.append_nil]

/-! ### The largest limit -/

/-- **A call to a connection that opens no window**: the server closes the connection at once. -/
theorem Session.demand_of_no_window (hlimit : terms.limit + 1 = sizes)
    (hopen : session.client.broken = false) (demand : Demand) :
    (session.demand terms demand).1 =
      .error (.network session.client.endpoint "connection closed by server") := by
  have hwindow : ∀ stream, (window terms.limit stream).1 = [] := by
    intro stream
    unfold window windowSize
    rw [hlimit, Nat.mod_self]
    cases stream <;> rfl
  have hanswered : ∀ line, answered terms session.backend line = (.ended, session.backend) := by
    intro line
    unfold answered serveStream serveFrom
    rw [dif_pos (hwindow _)]
    rfl
  have hcall : ∀ {α : Type} (call : Call α), (session.call terms call).1 =
      .error (.network session.client.endpoint "connection closed by server") := by
    intro α call
    unfold Session.call Client.begin
    dsimp only
    rw [if_neg (by rw [hopen]; decide)]
    dsimp only
    rw [hanswered]
    rfl
  cases demand <;> simp only [Session.demand, Prod.map, hcall] <;> rfl

/-- **Calling is doing, unless the limit is the largest there is.** The window is one byte longer
than a line may be, and that is then more than can be counted. -/
theorem calls_faithful_iff (terms : Terms) (hlimit : terms.limit < sizes)
    (hclock : ∀ n, (terms.clock n).IsTold) (endpoint : String) (timeout : Span) (store : Store)
    (hstore : store.IsTold) (demands : List Demand) (hdemands : ∀ demand ∈ demands, demand.IsTold)
    (hfits : ∀ line ∈ Demand.lines 1 demands, (Utf8.ofString line).length ≤ terms.limit) :
    (Faithful terms 0 ⟨{ endpoint, timeout }, ⟨store, none⟩⟩ demands ∧
        serveStream { terms with ended := false } none ⟨store, none⟩
            (terminated ((Demand.lines 1 demands).map Utf8.ofString)) =
          (Demand.replies terms.snapshot terms.clock 0 ⟨store, none⟩ 1 demands,
            (Demand.performAll terms.snapshot terms.clock 0 ⟨store, none⟩ demands).2)) ↔
      terms.limit + 1 < sizes ∨ demands = [] := by
  constructor
  -- Without a window the first call fails, in a way in which nothing fails that is done directly.
  · rintro ⟨hfaithful, -⟩
    by_contra hnot
    obtain ⟨hlarge, hsome⟩ := not_or.mp hnot
    cases demands with
    | nil => exact hsome rfl
    | cons demand demands =>
      have hfirst := hfaithful.outcomes
      rw [Session.demandAll, Demand.performAll] at hfirst
      have hmatches := (List.forall₂_cons.mp hfirst).1
      rw [Session.demand_of_no_window (by dsimp only; omega) rfl] at hmatches
      cases hdirect : (demand.perform terms.snapshot ⟨store, none⟩ (terms.clock 0)).1 with
      | ok result =>
        rw [hdirect] at hmatches
        cases hmatches
      | error error =>
        rw [hdirect] at hmatches
        obtain ⟨told, htold, hkind⟩ := hmatches
        obtain rfl := Except.error.inj htold
        rcases Demand.kind_of_perform rfl hdirect with h | h | ⟨h, -⟩ <;>
          (rw [h] at hkind; cases hkind)
  · rintro (hsmall | rfl)
    · exact ⟨faithful_of_limit hsmall hclock ⟨rfl, hstore⟩ rfl (by decide : 1 < Client.ids) hdemands
        hfits,
        serveStream_demands hsmall hdemands (by decide) hfits _⟩
    · refine ⟨⟨.nil, rfl, rfl⟩, ?_⟩
      have hwindow : (window terms.limit []).1 = [] :=
        (List.append_eq_nil_iff.mp (window_append terms.limit [])).1
      change serveStream _ _ _ [] = ([], _)
      unfold serveStream serveFrom
      rw [dif_pos hwindow]
      rfl

/-- **Calls of every kind**, two of which fail: the second task is not there to be removed, and the
first one is to get a blank summary. -/
theorem calls_faithful_demo :
    let terms : Terms := ⟨1048576, ⟨4242, ⟨.loopback, 45678, 0⟩⟩,
      fun n => if n = 0 then ⟨1700000000, 0⟩ else ⟨1700000001, 0⟩, true⟩
    let demands : List Demand :=
      [.create "a \"b\"\nc", .update ⟨"1", ⟨some "d", some ⟨86399, 1500000000⟩⟩, ⟨true, true⟩⟩,
        .delete "2", .update ⟨"1", ⟨some " ", none⟩, ⟨true, false⟩⟩, .status, .list]
    let client : Client := { endpoint := "tcp:127.0.0.1:45678", timeout := .ofSeconds 5 0 }
    Faithful terms 0 ⟨client, ⟨.empty, none⟩⟩ demands ∧
      (Demand.performAll terms.snapshot terms.clock 0 ⟨.empty, none⟩ demands).1.map
          Except.toOption =
        let task : Task :=
          ⟨"1", "d", ⟨1700000000, 0⟩, some ⟨1700000001, 0⟩, some ⟨86399, 1500000000⟩⟩
        [some (.task (.new "1" "a \"b\"\nc" ⟨1700000000, 0⟩)), some (.task task), none, none,
          some (.status ⟨4242, "http://127.0.0.1:45678/api"⟩), some (.tasks [task])] := by
  intro terms demands client
  have hclock : ∀ n, (terms.clock n).IsTold := by
    intro n
    change (if n = 0 then (⟨1700000000, 0⟩ : Instant) else ⟨1700000001, 0⟩).IsTold
    split <;> decide
  have hfits : ∀ line ∈ Demand.lines 1 demands, (Utf8.ofString line).length ≤ terms.limit := by
    simp only [demands, Demand.lines, List.forall_mem_cons, Demand.ofString_line]
    decide +kernel
  have hdemands : ∀ demand ∈ demands, demand.IsTold := by
    have htime : (⟨86399, 1500000000⟩ : Instant).IsTold := by decide
    simp [demands, Demand.IsTold, TaskPatch.IsTold, htime]
  refine ⟨((calls_faithful_iff terms (by decide) hclock _ _ .empty nofun demands hdemands hfits).mpr
    (Or.inl (by decide))).1, ?_⟩
  decide +kernel

/-- **A call fails at the largest limit**, though its line is nowhere near it: the server closes the
connection, and a task that would have been made is not. -/
theorem call_fails_at_largest_limit :
    let terms : Terms :=
      ⟨18446744073709551615, ⟨4242, ⟨.loopback, 45678, 0⟩⟩, fun _ => ⟨1700000000, 0⟩, true⟩
    let client : Client := { endpoint := "tcp:127.0.0.1:45678", timeout := .ofSeconds 5 0 }
    let session : Session := ⟨client, ⟨.empty, none⟩⟩
    let demand : Demand := .create "tea"
    (∀ line ∈ Demand.lines 1 [demand], (Utf8.ofString line).length ≤ terms.limit) ∧
      (demand.perform terms.snapshot session.backend (terms.clock 0)).1.toOption =
        some (.task (.new "1" "tea" ⟨1700000000, 0⟩)) ∧
      (session.demand terms demand).1 =
        .error (.network "tcp:127.0.0.1:45678" "connection closed by server") ∧
      ¬Faithful terms 0 session [demand] := by
  intro terms client session demand
  have hcalled : ∀ terms' : Terms, terms'.limit = terms.limit → (session.demand terms' demand).1 =
      .error (.network "tcp:127.0.0.1:45678" "connection closed by server") := by
    intro terms' hlimit
    exact Session.demand_of_no_window (by rw [hlimit]; decide) rfl demand
  have hdone : (demand.perform terms.snapshot session.backend (terms.clock 0)).1.toOption =
      some (.task (.new "1" "tea" ⟨1700000000, 0⟩)) := by
    decide +kernel
  have hfits : ∀ line ∈ Demand.lines 1 [demand], (Utf8.ofString line).length ≤ terms.limit := by
    simp only [demand, Demand.lines, List.forall_mem_cons, Demand.ofString_line]
    decide +kernel
  refine ⟨hfits, hdone, hcalled terms rfl, fun hfaithful => ?_⟩
  have hfirst := hfaithful.outcomes
  rw [Session.demandAll, Demand.performAll] at hfirst
  have hmatches := (List.forall₂_cons.mp hfirst).1
  rw [hcalled _ rfl] at hmatches
  cases hperform : (demand.perform terms.snapshot session.backend (terms.clock 0)).1 with
  | ok result =>
    rw [hperform] at hmatches
    cases hmatches
  | error error =>
    rw [hperform] at hdone
    cases hdone

end Rpc

end TaskDaemon
