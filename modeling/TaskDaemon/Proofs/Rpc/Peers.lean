import TaskDaemon.Proofs.Rpc.Wire

/-!
# Calls to a peer that may answer anything

A client does not trust its peer. Whatever the peer sends for each line that it reads, whole lines
or parts of them, too many or none, late or from a call before, a call makes something of a line
only if that line answers it; and as soon as a call and its answer may be out of step, the client
makes no more calls.

* `TaskDaemon.Rpc.Client.callsOn`: calls one after the other on one connection;
* `TaskDaemon.Rpc.Client.accept_eq_ok`: the lines that a client takes for the answer of a call;
* `TaskDaemon.Rpc.Client.Answered`: the outcomes that only an answer brings, and
  `TaskDaemon.Rpc.Client.not_answered_of_accept`: no failure on the way is taken for one of them;
* `TaskDaemon.Rpc.Client.make_of_broken` and `TaskDaemon.Rpc.Client.make_of_open`: a call of a
  client that is broken, and of one that is not;
* `TaskDaemon.Rpc.Client.nextId_callsOn` and `TaskDaemon.Rpc.Client.callsOn_of_broken`: what a whole
  series of calls does to ids, and what comes after a failure.

The main result is `TaskDaemon.Rpc.calls_keep_step`. Ids are counted in 64 bits, and so a call has
the remainder of its number as its id.
-/

namespace TaskDaemon

namespace Rpc

/-- **The call that makes a demand.** -/
def Demand.call : Demand → (α : Type) × Call α
  | status => ⟨_, .status⟩
  | create summary => ⟨_, .create summary⟩
  | list => ⟨_, .list⟩
  | update params => ⟨_, .update params.id params.update params.fields⟩
  | delete id => ⟨_, .delete id⟩

theorem Demand.method_call (demand : Demand) : demand.call.2.method = demand.method := by
  cases demand <;> rfl

theorem Demand.params_call (demand : Demand) : demand.call.2.params = demand.params := by
  cases demand <;> rfl

/-- **A line is read as a response**, whose result has a given shape. -/
def Reads {α : Type} (s : Json.Schema α) (bytes : Bytes) (response : Response α) : Prop :=
  ∃ chars, Utf8.decode bytes = .ok chars ∧
    (Response.schema s).parse (chars.map Glyph.char) = .ok response

namespace Client

/-- **Calls one after the other** on one connection: the client and the connection afterwards. -/
def callsOn (client : Client) (channel : Channel) : List Demand → Client × Channel
  | [] => (client, channel)
  | demand :: rest =>
    let made := client.make channel demand.call.2
    callsOn made.2.1 made.2.2 rest

/-- The error of a call on a connection that has been given up. -/
def unusable (client : Client) : Error :=
  client.fault "connection is unusable after an earlier failed call, reconnect first"

/-- The error of a call whose response says nothing. -/
def noResult (client : Client) (method : Method) : Error :=
  client.fault ("response to '" ++ method.name ++ "' carries no result")

/-- **An outcome that only an answer brings**: a value, an error that the answer tells, or the want
of both in it. -/
def Answered {α : Type} (client : Client) (method : Method) : Outcome α → Prop
  | .ok _ => True
  | .error error => (∃ code message, error = .rpc code message) ∨ error = client.noResult method

/-! ### What is accepted -/

section Accept

variable {α : Type} {client : Client} {id : Nat} {method : Method} {s : Json.Schema α}
  {received : Received}

/-- **What a client takes for the answer of a call**: a line with a response of this protocol that
has the id of the call. -/
theorem accept_eq_ok {response : Response α}
    (h : client.accept id method s received = .ok response) :
    ∃ bytes, received = .line bytes ∧ Reads s bytes response ∧ response.version = version ∧
      response.id = Json.int id := by
  cases received with
  | unsent reason => cases h
  | ended => cases h
  | silence => cases h
  | line bytes =>
    refine ⟨bytes, rfl, ?_⟩
    rw [accept] at h
    dsimp only at h
    split at h
    · cases h
    · next chars hdecode =>
      split at h
      · cases h
      · next read hparse =>
        split at h
        · cases h
        · next hversion =>
          split at h
          · next n hid =>
            split at h
            · next hn =>
              obtain rfl := Except.ok.inj h
              exact ⟨⟨chars, hdecode, hparse⟩, not_not.mp hversion, hid.trans (by rw [hn]; rfl)⟩
            · cases h
          · cases h

/-- The start of a message. -/
def opening (message : String) : List Char :=
  message.toList.take 11

theorem opening_append {front : String} (h : 11 ≤ front.toList.length) (rest : String) :
    opening (front ++ rest) = opening front := by
  rw [opening, opening]
  rw [String.toList_append, List.take_append_of_le_length h]

/-- **A failure on the way** is none of the things that an answer brings. -/
theorem not_answered_of_accept {error : Error}
    (h : client.accept id method s received = .error error) :
    ¬client.Answered method (.error error : Outcome α) := by
  -- All messages but one start unlike the one about an answer without a result.
  have hfault : ∀ message : String, opening message ≠ opening "response to '" →
      ¬client.Answered method (.error (client.fault message) : Outcome α) := by
    rintro message hopening (⟨code, text, hrpc⟩ | hnone)
    · cases hrpc
    · injection hnone with _ hmessage
      refine hopening ?_
      rw [hmessage, String.append_assoc, opening_append (by decide)]
  have hfront : ∀ front rest : String, 11 ≤ front.toList.length →
      opening front ≠ opening "response to '" →
        ¬client.Answered method (.error (client.fault (front ++ rest)) : Outcome α) := by
    intro front rest hlength hopening
    refine hfault _ ?_
    rwa [opening_append hlength]
  cases received with
  | unsent reason =>
    obtain rfl := Except.error.inj h
    exact hfront _ _ (by decide) (by decide)
  | ended =>
    obtain rfl := Except.error.inj h
    exact hfault _ (by decide)
  | silence =>
    obtain rfl := Except.error.inj h
    rintro (⟨code, text, hrpc⟩ | hnone)
    · cases hrpc
    · cases hnone
  | line bytes =>
    rw [accept] at h
    simp only [String.append_assoc] at h
    split at h
    · obtain rfl := Except.error.inj h
      exact hfront _ _ (by decide) (by decide)
    · split at h
      · obtain rfl := Except.error.inj h
        exact hfront _ _ (by decide) (by decide)
      · split at h
        · obtain rfl := Except.error.inj h
          exact hfront _ _ (by decide) (by decide)
        · split at h
          · split at h
            · cases h
            · obtain rfl := Except.error.inj h
              exact hfront _ _ (by decide) (by decide)
          · obtain rfl := Except.error.inj h
            exact hfront _ _ (by decide) (by decide)

/-- **A response is an answer**, whatever it says. -/
theorem answered_result (client : Client) (method : Method) (response : Response α) :
    client.Answered method (client.result method response) := by
  rw [result]
  cases response.error with
  | some failure => exact Or.inl ⟨failure.code, failure.message, rfl⟩
  | none =>
    cases response.result with
    | some value => trivial
    | none => exact Or.inr rfl

end Accept

/-! ### One call -/

section Make

variable {client : Client} {channel : Channel} {α : Type} {call : Call α}

/-- The client behind a call that has done nothing but use up an id. -/
def next (client : Client) : Client :=
  { client with nextId := (client.nextId + 1) % ids }

/-- **A client that is broken** neither writes nor reads. -/
theorem make_of_broken (h : client.broken = true) :
    client.make channel call = (⟨.error client.unusable, none, false⟩, client.next, channel) := by
  rw [make, callOn, begin]
  dsimp only
  rw [if_pos h]
  rfl

/-- **A client that is not broken** writes one line, and makes what it can of what it reads. -/
theorem make_of_open (h : client.broken = false) :
    client.make channel call =
      (⟨(client.next.conclude client.nextId call.method call.result channel.exchange.1).1,
          some (callJson call.method call.params client.nextId).render, channel.exchange.2.1⟩,
        (client.next.conclude client.nextId call.method call.result channel.exchange.1).2,
        channel.exchange.2.2) := by
  rw [make, callOn, begin]
  dsimp only
  rw [if_neg (by rw [h]; decide)]
  rfl

/-- **What comes of a call that could be made**: an answer was read, or the client is broken. -/
theorem conclude_cases (client : Client) (id : Nat) (method : Method) (s : Json.Schema α)
    (received : Received) :
    (∃ response, client.accept id method s received = .ok response ∧
      client.conclude id method s received = (client.result method response, client)) ∨
    ∃ error, client.accept id method s received = .error error ∧
      client.conclude id method s received = (.error error, { client with broken := true }) := by
  rw [conclude]
  cases client.accept id method s received with
  | ok response => exact Or.inl ⟨response, rfl, rfl⟩
  | error error => exact Or.inr ⟨error, rfl, rfl⟩

/-- **Every call uses up an id**, and leaves the client its endpoint. -/
theorem make_id_endpoint (client : Client) (channel : Channel) (call : Call α) :
    (client.make channel call).2.1.nextId = (client.nextId + 1) % ids ∧
      (client.make channel call).2.1.endpoint = client.endpoint := by
  cases hbroken : client.broken with
  | true =>
    rw [make_of_broken hbroken]
    exact ⟨rfl, rfl⟩
  | false =>
    rw [make_of_open hbroken]
    dsimp only
    rcases client.next.conclude_cases client.nextId call.method call.result channel.exchange.1 with
      ⟨response, -, hconclude⟩ | ⟨error, -, hconclude⟩ <;> rw [hconclude] <;> exact ⟨rfl, rfl⟩

/-- **A call that is not answered** leaves a broken client. -/
theorem broken_of_not_answered
    (h : ¬client.Answered call.method (client.make channel call).1.outcome) :
    (client.make channel call).2.1.broken = true := by
  cases hbroken : client.broken with
  | true =>
    rw [make_of_broken hbroken]
    exact hbroken
  | false =>
    rw [make_of_open hbroken] at h ⊢
    dsimp only at h ⊢
    rcases client.next.conclude_cases client.nextId call.method call.result channel.exchange.1 with
      ⟨response, -, hconclude⟩ | ⟨error, -, hconclude⟩
    · rw [hconclude] at h
      exact absurd (answered_result client.next call.method response) h
    · rw [hconclude]

/-- **A call that is answered** has written its line, and has read a line that answers it. -/
theorem exists_response_of_answered
    (h : client.Answered call.method (client.make channel call).1.outcome) :
    client.broken = false ∧ ∃ bytes response, channel.exchange.1 = .line bytes ∧
      Reads call.result bytes response ∧ response.version = version ∧
        response.id = Json.int client.nextId ∧
          (client.make channel call).1.outcome = client.result call.method response := by
  cases hbroken : client.broken with
  | true =>
    rw [make_of_broken hbroken] at h
    rcases h with ⟨code, text, hrpc⟩ | hnone
    · cases hrpc
    · injection hnone with _ hmessage
      have hopening := congrArg opening hmessage
      rw [String.append_assoc, opening_append (by decide)] at hopening
      exact absurd hopening (by decide)
  | false =>
    rw [make_of_open hbroken] at h ⊢
    dsimp only at h ⊢
    rcases client.next.conclude_cases client.nextId call.method call.result channel.exchange.1 with
      ⟨response, haccept, hconclude⟩ | ⟨error, haccept, hconclude⟩
    · obtain ⟨bytes, hline, hreads, hversion, hid⟩ := accept_eq_ok haccept
      refine ⟨rfl, bytes, response, hline, hreads, hversion, hid, ?_⟩
      rw [hconclude]
      rfl
    · rw [hconclude] at h
      exact absurd h (not_answered_of_accept haccept)

end Make

/-! ### Many calls -/

/-- **The id of the next call** counts the calls made. -/
theorem nextId_callsOn (demands : List Demand) : ∀ {client : Client} {channel : Channel},
    client.nextId < ids →
      (client.callsOn channel demands).1.nextId = (client.nextId + demands.length) % ids := by
  induction demands with
  | nil => exact fun hid => (Nat.mod_eq_of_lt hid).symm
  | cons demand demands ih =>
    intro client channel hid
    obtain ⟨hnext, -⟩ := client.make_id_endpoint channel demand.call.2
    have hsmall : (client.make channel demand.call.2).2.1.nextId < ids := by
      rw [hnext]
      exact Nat.mod_lt _ (by decide)
    rw [callsOn, ih hsmall, hnext, Nat.mod_add_mod, List.length_cons, Nat.add_assoc, Nat.add_comm 1]

/-- **Calls of a broken client** leave it broken, and its connection as it is. -/
theorem callsOn_of_broken (demands : List Demand) : ∀ {client : Client} {channel : Channel},
    client.broken = true →
      (client.callsOn channel demands).1.broken = true ∧
        (client.callsOn channel demands).1.endpoint = client.endpoint ∧
          (client.callsOn channel demands).2 = channel := by
  induction demands with
  | nil => exact fun hbroken => ⟨hbroken, rfl, rfl⟩
  | cons demand demands ih =>
    intro client channel hbroken
    rw [callsOn, make_of_broken hbroken]
    exact ih hbroken

end Client

/-- **Calls keep step with their answers.** What is said here of the call that comes after some
others holds for every call of a client, whatever its peer does. -/
theorem calls_keep_step (endpoint : String) (timeout : Span) (channel : Channel)
    (earlier : List Demand) (demand : Demand) :
    let id := (earlier.length + 1) % Client.ids
    let before := Client.callsOn { endpoint, timeout } channel earlier
    let made := before.1.make before.2 demand.call.2
    -- It writes one line or none, and the line has the id of the call.
    (∀ line, made.1.written = some line → newline ∉ Utf8.ofString line ∧
      ∃ request, Asks line request ∧ request.id = Json.int id ∧
        request.method = demand.method.name) ∧
    -- It brings what only an answer can bring, if it has read one line, and that one answers it.
    (before.1.Answered demand.method made.1.outcome →
      made.1.written.isSome ∧ made.2.2 = before.2.exchange.2.2 ∧
        ∃ bytes response, before.2.exchange.1 = .line bytes ∧
          Reads demand.call.2.result bytes response ∧ response.version = version ∧
            response.id = Json.int id ∧
              made.1.outcome = before.1.result demand.method response) ∧
    -- Otherwise no later call writes or reads anything.
    (¬before.1.Answered demand.method made.1.outcome → ∀ (later : List Demand) (other : Demand),
      let behind := Client.callsOn made.2.1 made.2.2 later
      let next := behind.1.make behind.2 other.call.2
      next.1.outcome = .error before.1.unusable ∧ next.1.written = none ∧ next.2.2 = made.2.2) := by
  intro id before made
  have hcount : before.1.nextId = id := by
    have hfirst : ({ endpoint, timeout } : Client).nextId < Client.ids :=
      (by decide : 1 < Client.ids)
    rw [show before.1.nextId = _ from Client.nextId_callsOn earlier hfirst, Nat.add_comm]
  refine ⟨fun line hline => ?_, fun hanswered => ?_, fun hanswered later other => ?_⟩
  · have hwritten : line = demand.line id := by
      cases hbroken : before.1.broken with
      | true =>
        rw [show made = _ from Client.make_of_broken hbroken] at hline
        cases hline
      | false =>
        rw [show made = _ from Client.make_of_open hbroken] at hline
        obtain rfl := Option.some.inj hline
        rw [hcount, demand.method_call, demand.params_call]
        rfl
    rw [hwritten]
    exact ⟨demand.newline_not_mem_line id, demand.request id,
      demand.asks_line (Nat.mod_lt _ (by decide)), rfl, rfl⟩
  · rw [← demand.method_call] at hanswered
    obtain ⟨hbroken, bytes, response, hline, hreads, hversion, hid, houtcome⟩ :=
      Client.exists_response_of_answered hanswered
    have hmade : made = _ := Client.make_of_open hbroken
    refine ⟨by rw [hmade]; rfl, by rw [hmade], bytes, response, hline, hreads, hversion,
      hcount ▸ hid, ?_⟩
    rw [← demand.method_call]
    exact houtcome
  · rw [← demand.method_call] at hanswered
    have hbroken := Client.broken_of_not_answered hanswered
    obtain ⟨hstill, hendpoint, hchannel⟩ :
        (made.2.1.callsOn made.2.2 later).1.broken = true ∧
          (made.2.1.callsOn made.2.2 later).1.endpoint = made.2.1.endpoint ∧
            (made.2.1.callsOn made.2.2 later).2 = made.2.2 :=
      Client.callsOn_of_broken later hbroken
    obtain ⟨-, hsame⟩ := before.1.make_id_endpoint before.2 demand.call.2
    intro behind next
    have hnext : next = _ := Client.make_of_broken hstill
    rw [hnext]
    refine ⟨?_, rfl, hchannel⟩
    change Except.error (Error.network behind.1.endpoint _) = Except.error (Error.network _ _)
    rw [hendpoint, hsame]

end Rpc

end TaskDaemon
