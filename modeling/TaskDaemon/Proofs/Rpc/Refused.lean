import TaskDaemon.Proofs.Rpc.Remote

/-!
# Calls whose line is too long

A daemon reads one byte more than a line may have. Where a call's line is longer than that, the
daemon does nothing of what it asks, and what the client gets is no answer to its call: either the
connection is closed, since the bytes that were read end within a character, or there is a reply
that names no call. So the call fails as one on a connection that is gone
(`TaskDaemon.Rpc.Session.call_of_long`).

* `TaskDaemon.Rpc.Demand.answered_of_long`: what is read in answer to the line;
* `TaskDaemon.Rpc.parse_oversized`: the reply, as the client reads it;
* `TaskDaemon.Rpc.Demand.length_create_line`: a line is at least as long as the summary in it.
-/

namespace TaskDaemon

namespace Rpc

open Json

namespace Demand

variable {demand : Demand} {id : Nat} {terms : Terms}

/-- No carriage return stands in a line. -/
theorem carriageReturn_not_mem_line (demand : Demand) (id : Nat) :
    carriageReturn ∉ Utf8.ofString (demand.line id) := by
  obtain ⟨-, -, hplain⟩ := demand.exists_line_eq id
  intro h
  exact absurd (hplain _ (Utf8.mem_of_mem_encode (by decide) h)) (by decide)

/-- **What is read in answer to a line that is too long**: the end of the stream, or a reply that
says so. Nothing was done. -/
theorem answered_of_long (hlimit : terms.limit + 1 < sizes)
    (hlong : terms.limit < (Utf8.ofString (demand.line id)).length) (backend : Backend) :
    answered terms backend (demand.line id) = (.ended, backend) ∨
      answered terms backend (demand.line id) =
        (.line (Utf8.ofString ((oversized terms.limit).render ++ "\n")), backend) := by
  -- What was read does not pass for a line that fits, since there is nothing to strip at its end.
  have hreturn : ((Utf8.ofString (demand.line id)).take (terms.limit + 1)).getLast? ≠
      some carriageReturn := by
    intro hlast
    exact demand.carriageReturn_not_mem_line id
      (List.mem_of_mem_take (List.mem_of_getLast? hlast))
  have hheard : hear terms.limit false (Utf8.ofString (demand.line id) ++ [newline]) = _ :=
    hear_long hlimit (demand.newline_not_mem_line id) hlong [newline]
  unfold answered
  rw [serveStream_eq, hheard, if_pos hreturn]
  by_cases htext : Utf8.IsText ((Utf8.ofString (demand.line id)).take (terms.limit + 1))
  · right
    rw [if_neg (not_not.mpr htext)]
    rfl
  · -- The window ends within a character of the summary or the id.
    left
    rw [if_pos htext]
    rfl

end Demand

/-- **The reply to a line that is too long** is read as a failure of no call. -/
theorem parse_oversized {α : Type} {s : Schema α} (htidy : s.Tidy) (limit : Nat) :
    ∃ failure, (Response.schema s).parse (Cursor.shown ((oversized limit).toJson.chars ++ ['\n'])) =
      .ok ⟨version, none, some failure, .null⟩ := by
  refine ⟨{ code := invalidRequestCode, message := _ }, parse_reply htidy rfl ?_ ?_⟩
  · have hfailure : ∀ message, Failure.schema.Writes { code := invalidRequestCode, message } :=
      fun _ => ⟨⟨rfl, rfl, rfl, trivial⟩, rfl⟩
    exact ⟨⟨rfl, rfl, ⟨nofun, hfailure _⟩, rfl, trivial⟩, rfl⟩
  · have hnumber : (Number.int invalidRequestCode).ReadsBack :=
      Number.readsBack_int (by decide) (by decide)
    exact ⟨trivial, ⟨hnumber, trivial, trivial⟩, trivial, trivial⟩

namespace Client

variable {α : Type} {s : Schema α} {method : Method}

/-- **What a client makes of the reply to a line that is too long**: it answers no call. -/
theorem conclude_oversized (htidy : s.Tidy) (client : Client) (id limit : Nat) :
    client.conclude id method s (.line (Utf8.ofString ((oversized limit).render ++ "\n"))) =
      (.error (client.fault ("response ID mismatch: expected " ++ Decimal.text id ++ ", got "
        ++ Json.null.render)), { client with broken := true }) := by
  obtain ⟨failure, hparse⟩ := parse_oversized htidy limit
  have htext : ((oversized limit).render ++ "\n").toList =
      (oversized limit).toJson.chars ++ ['\n'] := by
    rw [String.toList_append, Reply.render, render, String.toList_ofList]
    rfl
  have hdecode : Utf8.decode (Utf8.ofString ((oversized limit).render ++ "\n")) =
      .ok ((oversized limit).toJson.chars ++ ['\n']) := by
    rw [Utf8.decode_eq_ok_iff, Utf8.ofString, htext]
  have hglyphs : (Response.schema s).parse
      (((oversized limit).toJson.chars ++ ['\n']).map Glyph.char) =
        .ok ⟨version, none, some failure, .null⟩ := hparse
  unfold conclude accept
  simp only [hdecode, hglyphs]
  rw [if_neg (not_not.mpr rfl)]

end Client

/-- **A call whose line is too long** fails as one on a connection that is gone, and nothing is
done. -/
theorem Session.call_of_long {α : Type} {call : Call α} {demand : Demand} {terms : Terms}
    {session : Session} (hmethod : call.method = demand.method)
    (hparams : call.params = demand.params)
    (htidy : call.result.Tidy) (hopen : session.client.broken = false)
    (hlimit : terms.limit + 1 < sizes)
    (hlong : terms.limit < (Utf8.ofString (demand.line session.client.nextId)).length) :
    ∃ cause client, session.call terms call = (.error cause, ⟨client, session.backend⟩) ∧
      cause.kind = .unavailable := by
  have hbegin : session.client.begin call.method call.params =
      (.ok (demand.line session.client.nextId), (session.next session.backend).client) := by
    unfold Client.begin Demand.line next
    dsimp only
    rw [if_neg (by rw [hopen]; decide), hmethod, hparams]
  rw [Session.call, hbegin]
  dsimp only
  rcases Demand.answered_of_long hlimit hlong session.backend with hanswered | hanswered
  · rw [hanswered]
    exact ⟨_, _, rfl, rfl⟩
  · rw [hanswered]
    dsimp only
    rw [Client.conclude_oversized htidy]
    exact ⟨_, _, rfl, rfl⟩

/-- The same by what the call asks for. -/
theorem Session.demand_of_long {demand : Demand} {terms : Terms} {session : Session}
    (hopen : session.client.broken = false) (hlimit : terms.limit + 1 < sizes)
    (hlong : terms.limit < (Utf8.ofString (demand.line session.client.nextId)).length) :
    ∃ cause client, session.demand terms demand = (.error cause, ⟨client, session.backend⟩) ∧
      cause.kind = .unavailable := by
  have hwrap : ∀ {α : Type} {call : Call α} (wrap : α → Result), call.method = demand.method →
      call.params = demand.params → call.result.Tidy → ∃ cause client,
        Prod.map (Except.map wrap) id (session.call terms call) =
          (.error cause, ⟨client, session.backend⟩) ∧ cause.kind = .unavailable := by
    intro α call wrap hmethod hparams htidy
    obtain ⟨cause, client, hcall, hkind⟩ := call_of_long hmethod hparams htidy hopen hlimit hlong
    rw [hcall]
    exact ⟨cause, client, rfl, hkind⟩
  cases demand with
  | status => exact hwrap .status rfl rfl ServerStatus.tidy_schema
  | create summary => exact hwrap .task rfl rfl Task.tidy_schema
  | list => exact hwrap .tasks rfl rfl tidy_listResult
  | update params => exact hwrap .task rfl rfl Task.tidy_schema
  | delete id => exact hwrap (fun _ => .removed) rfl rfl (tidy_empty _)

/-! ### How long a line is -/

theorem length_le_encode (text : List Char) : text.length ≤ (Utf8.encode text).length := by
  induction text with
  | nil => exact Nat.le_refl 0
  | cons c text ih =>
    have hc : 0 < (String.utf8EncodeChar c).length := by
      rw [String.length_utf8EncodeChar]
      exact c.utf8Size_pos
    rw [Utf8.encode_cons, List.length_append, List.length_cons]
    omega

theorem length_le_quotedChars (text : List Char) : text.length ≤ (quotedChars text).length := by
  have hescape : ∀ c, 0 < (escape c).length := by
    intro c
    unfold escape
    repeat' split
    all_goals exact Nat.succ_pos _
  have hall : text.length ≤ (text.flatMap escape).length := by
    induction text with
    | nil => exact Nat.le_refl 0
    | cons c text ih =>
      have hc := hescape c
      rw [List.flatMap_cons, List.length_append, List.length_cons]
      omega
  unfold quotedChars
  rw [List.length_append, List.length_cons]
  omega

/-- **A line that asks for a new task** is longer than its summary. -/
theorem Demand.length_create_line (summary : String) (id : Nat) :
    summary.toList.length < (Utf8.ofString ((Demand.create summary).line id)).length := by
  have hsummary := length_le_quotedChars summary.toList
  have hline : summary.toList.length <
      (callJson (Demand.create summary).method (Demand.create summary).params id).chars.length := by
    have hparams : (Demand.create summary).params = .object [("summary", .string summary)] := rfl
    rw [callJson, hparams]
    simp only [chars, membersChars, List.length_append, List.length_cons]
    omega
  rw [Demand.ofString_line]
  exact hline.trans_le (length_le_encode _)

end Rpc

end TaskDaemon
