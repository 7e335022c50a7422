import TaskDaemon.Proofs.Rpc.Exchange
import TaskDaemon.Proofs.Rpc.Shapes
import TaskDaemon.Rpc.Session

/-!
# From one end of the wire to the other

What becomes of one call on its way, in three parts.

* **The way there.** A demand is written as a line (`TaskDaemon.Rpc.Demand.line`), and that line
  demands it again (`TaskDaemon.Rpc.Demand.demands_line`).
* **The way back.** A reply is written as a line, and the client reads the response from it that the
  reply was (`TaskDaemon.Rpc.parse_ok`, `TaskDaemon.Rpc.parse_error`,
  `TaskDaemon.Rpc.conclude_line`).
* **The line between.** The connection hands on the line as it was written: no newline stands in it
  (`TaskDaemon.Rpc.Demand.newline_not_mem_line`), nothing of it is trimmed
  (`TaskDaemon.Rpc.Demand.request?_line`), and the window is large enough if there is one. So what
  the client reads is the line of the reply (`TaskDaemon.Rpc.Demand.answered_line`).

Only times may be lost on the way. A demand that gives a time must give one that a text can tell
(`TaskDaemon.Rpc.Demand.IsTold`).
-/

namespace TaskDaemon

namespace Rpc

open Json Attempt

/-! ### The way there -/

namespace Demand

/-- **The parameters that make a demand.** -/
def params : Demand → Json
  | status => statusParams.toJson ()
  | create summary => createParams.toJson summary
  | list => listParams.toJson ()
  | update params => UpdateParams.schema.toJson params
  | delete id => deleteParams.toJson id

/-- **A demand that a text can tell**: if it gives a time, it is such an instant. -/
def IsTold : Demand → Prop
  | update params => params.update.IsTold
  | _ => True

/-- **The line of a demand**: the call under this id, without its newline. -/
def line (demand : Demand) (id : Nat) : String :=
  (callJson demand.method demand.params id).render

variable {demand : Demand}

theorem readable_params (demand : Demand) (depth : Nat) : Readable (depth + 2) demand.params := by
  cases demand with
  | status => trivial
  | create summary => exact ⟨trivial, trivial⟩
  | list => trivial
  | update params => exact params.readable_toJson depth
  | delete id => exact ⟨trivial, trivial⟩

/-- The parameters of a call are never null. -/
theorem givenParams_params (demand : Demand) :
    givenParams demand.params.canonical = demand.params.canonical := by
  cases demand <;> rfl

/-- Parameters are read back, also with their keys in order. -/
theorem decode_canonical {α : Type} {s : Schema α} (htidy : s.Tidy) {a : α} (h : s.Writes a) :
    s.decode (s.toJson a).canonical = .ok a :=
  s.ofJson_canonical htidy (s.ofJson_toJson htidy .fewerWanted h)

/-- **The parameters that make a demand say so.** -/
theorem read_params (h : demand.IsTold) :
    read demand.method demand.params.canonical = .ok demand := by
  have hgiven := demand.givenParams_params
  cases demand with
  | status =>
    have hdecode : statusParams.decode (statusParams.toJson ()).canonical = .ok () :=
      decode_canonical (tidy_empty _) trivial
    simp only [read, method]
    rw [hgiven]
    exact map_eq_ok_iff.mpr ⟨(), hdecode, rfl⟩
  | create summary =>
    have hdecode : createParams.decode (createParams.toJson summary).canonical = .ok summary :=
      decode_canonical (tidy_single (s := textSchema) trivial _ _)
        (writes_single (s := textSchema) rfl _ _)
    simp only [read, method]
    rw [hgiven]
    exact map_eq_ok_iff.mpr ⟨summary, hdecode, rfl⟩
  | list =>
    have hdecode : listParams.decode (listParams.toJson ()).canonical = .ok () :=
      decode_canonical (tidy_empty _) trivial
    simp only [read, method]
    rw [hgiven]
    exact map_eq_ok_iff.mpr ⟨(), hdecode, rfl⟩
  | update params =>
    have hdecode := decode_canonical UpdateParams.tidy_schema (UpdateParams.writes_schema h)
    simp only [read, method]
    rw [hgiven]
    exact map_eq_ok_iff.mpr ⟨params, hdecode, rfl⟩
  | delete id =>
    have hdecode : deleteParams.decode (deleteParams.toJson id).canonical = .ok id :=
      decode_canonical (tidy_single (s := textSchema) trivial _ _)
        (writes_single (s := textSchema) rfl _ _)
    simp only [read, method]
    rw [hgiven]
    exact map_eq_ok_iff.mpr ⟨id, hdecode, rfl⟩

/-- **The request that the line of a demand is read as.** Its parameters have their
keys in order. -/
def request (demand : Demand) (id : Nat) : Request :=
  ⟨version, demand.method.name, demand.params.canonical, Json.int id⟩

theorem readsBack_id {id : Nat} (hid : id < Client.ids) : (Number.int id).ReadsBack := by
  have hsize : Client.ids = 18446744073709551616 := by decide
  exact Number.readsBack_int (by omega) (by omega)

/-- **The line of a demand is a request.** -/
theorem asks_line (demand : Demand) {id : Nat} (hid : id < Client.ids) :
    Asks (demand.line id) (demand.request id) := by
  have hreadable : Readable depthLimit (callJson demand.method demand.params id) :=
    ⟨trivial, trivial, demand.readable_params 124, readsBack_id hid, trivial⟩
  refine ⟨_, parse_render hreadable, ?_, rfl⟩
  -- On the wire the parameters are as the client wrote them, and the server puts the keys in order.
  have hsame : (callJson demand.method demand.params id).canonical =
      (Request.schema.toJson (demand.request id)).canonical := by
    have hjson : Request.schema.toJson (demand.request id) =
        .object [("jsonrpc", .string version), ("method", .string demand.method.name),
          ("params", demand.params.canonical), ("id", Json.int id)] := rfl
    rw [hjson, callJson]
    simp only [canonical, canonicalMembers, canonical_canonical]
  rw [hsame]
  exact decode_canonical Request.tidy_schema
    ⟨⟨rfl, rfl, canonical_canonical _, rfl, trivial⟩, rfl⟩

/-- **The line of a demand demands it.** -/
theorem demands_line (h : demand.IsTold) {id : Nat} (hid : id < Client.ids) :
    Demands (demand.line id) demand :=
  ⟨demand.request id, demand.method, demand.asks_line hid, rfl, read_params h⟩

end Demand

/-! ### The way back -/

/-- **A result that a text can tell.** -/
def Result.IsTold : Result → Prop
  | status s => s.pid < 4294967296
  | task t => t.IsTold
  | tasks ts => ∀ t ∈ ts, t.IsTold
  | removed => True

section Back

variable {α : Type} {s : Schema α} {id : Nat}

/-- **A response is read from the line of the reply** that has its JSON in canonical form. -/
theorem parse_reply (htidy : s.Tidy) {reply : Reply} {response : Response α}
    (hjson : reply.toJson = ((Response.schema s).toJson response).canonical)
    (hwrites : (Response.schema s).Writes response)
    (hreadable : Readable depthLimit ((Response.schema s).toJson response)) :
    (Response.schema s).parse (Cursor.shown (reply.toJson.chars ++ ['\n'])) = .ok response := by
  have hresponse := Response.tidy_schema htidy
  have htake := Schema.ofJson_toJson _ hresponse .countWanted hwrites
  rw [hjson]
  exact Schema.parse_line hresponse (readable_canonical hreadable)
    (Schema.ofJson_canonical _ hresponse htake)

/-- **The response that a client reads** where a call succeeded. -/
theorem parse_ok (htidy : s.Tidy) {a : α} (hwrites : s.Writes a) (hnull : s.toJson a ≠ .null)
    (hreadable : Readable 126 (s.toJson a)) (hid : id < Client.ids) :
    (Response.schema s).parse (Cursor.shown
        ((Reply.toJson ⟨Json.int id, .ok (s.toJson a)⟩).chars ++ ['\n'])) =
      .ok ⟨version, some a, none, Json.int id⟩ := by
  refine parse_reply htidy rfl ⟨⟨rfl, ⟨hnull, hwrites⟩, rfl, rfl, trivial⟩, rfl⟩ ?_
  exact ⟨trivial, hreadable, Demand.readsBack_id hid, trivial⟩

/-- **The response that a client reads** where a call failed. -/
theorem parse_error (htidy : s.Tidy) {code : Int} (hcode : -2147483648 ≤ code ∧ code ≤ 2147483647)
    (message : String) (hid : id < Client.ids) :
    (Response.schema s).parse (Cursor.shown
        ((Reply.toJson ⟨Json.int id, .error { code := code, message := message }⟩).chars ++
          ['\n'])) =
      .ok ⟨version, none, some { code := code, message := message }, Json.int id⟩ := by
  have hfailure : Failure.schema.Writes { code := code, message := message } :=
    ⟨⟨if_pos hcode, rfl, rfl, trivial⟩, rfl⟩
  have hnumber : (Number.int code).ReadsBack := Number.readsBack_int (by omega) (by omega)
  refine parse_reply htidy rfl ⟨⟨rfl, rfl, ⟨nofun, hfailure⟩, rfl, trivial⟩, rfl⟩ ?_
  exact ⟨trivial, ⟨hnumber, trivial, trivial⟩, Demand.readsBack_id hid, trivial⟩

/-- **What a client makes of a line** that it reads as the response to its call. -/
theorem conclude_line {reply : Reply} {response : Response α}
    (hparse :
      (Response.schema s).parse (Cursor.shown (reply.toJson.chars ++ ['\n'])) = .ok response)
    (hversion : response.version = version) (hid : response.id = Json.int id) (client : Client)
    (method : Method) :
    client.conclude id method s (.line (Utf8.ofString (reply.render ++ "\n"))) =
      (client.result method response, client) := by
  have htext : (reply.render ++ "\n").toList = reply.toJson.chars ++ ['\n'] := by
    rw [String.toList_append, Reply.render, render, String.toList_ofList]
    rfl
  have hdecode : Utf8.decode (Utf8.ofString (reply.render ++ "\n")) =
      .ok (reply.toJson.chars ++ ['\n']) := by
    rw [Utf8.decode_eq_ok_iff, Utf8.ofString, htext]
  have hglyphs : (Response.schema s).parse ((reply.toJson.chars ++ ['\n']).map Glyph.char) =
      .ok response := hparse
  have haccept : client.accept id method s (.line (Utf8.ofString (reply.render ++ "\n"))) =
      .ok response := by
    unfold Client.accept
    simp only [hdecode, hglyphs, hid, Json.int]
    rw [if_neg (not_not.mpr hversion), if_pos trivial]
  unfold Client.conclude
  rw [haccept]

end Back

/-! ### The line between -/

/-- Text that neither starts nor ends with a blank is not trimmed. -/
theorem trim_eq_self {text : List Char} (hfirst : ∀ c ∈ text.head?, isBlank c = false)
    (hlast : ∀ c ∈ text.getLast?, isBlank c = false) : trim text = text := by
  have hkeep : ∀ {text : List Char}, (∀ c ∈ text.head?, isBlank c = false) →
      text.dropWhile isBlank = text := by
    intro text h
    cases text with
    | nil => rfl
    | cons c text => exact List.dropWhile_cons_of_neg (by rw [h c rfl]; decide)
  have hreversed : ∀ c ∈ text.reverse.head?, isBlank c = false := by
    rw [List.head?_reverse]
    exact hlast
  unfold trim trimEnd trimStart
  rw [hkeep hfirst, hkeep hreversed, List.reverse_reverse]

namespace Demand

variable {demand : Demand} {id : Nat}

/-- **The text of a line** starts with a brace and ends with one. -/
theorem exists_line_eq (demand : Demand) (id : Nat) : ∃ between,
    (demand.line id).toList = '\x7b' :: between ++ ['\x7d'] ∧ IsPlain (demand.line id).toList := by
  unfold line render
  rw [String.toList_ofList]
  exact ⟨_, rfl, plain_chars _⟩

theorem ofString_line (demand : Demand) (id : Nat) :
    Utf8.ofString (demand.line id) =
      Utf8.encode (callJson demand.method demand.params id).chars := by
  rw [Utf8.ofString, line, render, String.toList_ofList]

theorem newline_not_mem_line (demand : Demand) (id : Nat) :
    newline ∉ Utf8.ofString (demand.line id) := by
  obtain ⟨-, -, hplain⟩ := demand.exists_line_eq id
  exact fun h => hplain.newline_not_mem (Utf8.mem_of_mem_encode (by decide) h)

/-- **A line is its own request**: nothing of it is dropped. -/
theorem request?_line (demand : Demand) (id : Nat) :
    Utf8.IsText (content (Utf8.ofString (demand.line id))) ∧
      request? (content (Utf8.ofString (demand.line id))) = some (demand.line id) := by
  obtain ⟨between, htext, hplain⟩ := demand.exists_line_eq id
  have hcontent : content (Utf8.ofString (demand.line id)) = Utf8.ofString (demand.line id) := by
    rw [content_eq_self_iff]
    intro hlast
    have hmem := Utf8.mem_of_mem_encode (by decide) (List.mem_of_getLast? hlast)
    exact absurd (hplain _ hmem) (by decide)
  have hdecode : Utf8.decode (Utf8.ofString (demand.line id)) = .ok (demand.line id).toList :=
    (Utf8.decode_eq_ok_iff _ _).mpr rfl
  have htrim : trim (demand.line id).toList = (demand.line id).toList := by
    refine trim_eq_self ?_ ?_
    · rw [htext]
      intro c hc
      obtain rfl : '\x7b' = c := Option.some.inj hc
      decide
    · rw [htext]
      intro c hc
      rw [List.getLast?_concat] at hc
      obtain rfl : '\x7d' = c := Option.some.inj hc
      decide
  have hblank : ¬IsBlankText (demand.line id).toList := by
    rw [← trim_eq_nil_iff, htrim, htext]
    simp
  rw [hcontent]
  refine ⟨Utf8.isText_encode _, ?_⟩
  unfold request?
  rw [hdecode]
  dsimp only
  rw [if_neg hblank, htrim, String.ofList_toList]

end Demand

theorem hear_nothing {limit : Nat} (hlimit : limit + 1 < sizes) :
    hear limit false [] = ⟨[], .waiting⟩ := by
  have hwindow : (window limit []).1 = [] :=
    (List.append_eq_nil_iff.mp (window_append limit [])).1
  have hsize : windowSize limit = limit + 1 := Nat.mod_eq_of_lt hlimit
  rw [hear, dif_pos hwindow, if_neg (by rw [hsize]; simp)]

/-- **Lines that are requests are heard as they are**, and then the connection waits. -/
theorem hear_requests {limit : Nat} (hlimit : limit + 1 < sizes) : ∀ {texts : List String},
    (∀ text ∈ texts, newline ∉ Utf8.ofString text ∧ (Utf8.ofString text).length ≤ limit ∧
      Utf8.IsText (content (Utf8.ofString text)) ∧
        request? (content (Utf8.ofString text)) = some text) →
      hear limit false (terminated (texts.map Utf8.ofString)) = ⟨texts, .waiting⟩
  | [], _ => hear_nothing hlimit
  | text :: texts, h => by
    obtain ⟨hline, hshort, htext, hrequest⟩ := h text List.mem_cons_self
    have hlater := hear_requests hlimit fun other hother => h other (List.mem_cons_of_mem _ hother)
    have hmore : Rpc.Follows limit false (newline :: terminated (texts.map Utf8.ofString)) _ :=
      .line (terminated (texts.map Utf8.ofString))
    have hheard := hear_short hlimit hline hshort hmore
    have hstream : terminated ((text :: texts).map Utf8.ofString) =
        Utf8.ofString text ++ newline :: terminated (texts.map Utf8.ofString) := by
      simp [terminated]
    rw [hstream, hheard, if_pos htext, hrequest, hlater]
    rfl

namespace Demand

variable {demand : Demand} {id : Nat}

/-- **What is read in answer to the line of a demand**: what came of it. -/
theorem answered_line (h : demand.IsTold) (hid : id < Client.ids) {terms : Terms}
    (hlimit : terms.limit + 1 < sizes)
    (hfits : (Utf8.ofString (demand.line id)).length ≤ terms.limit) (backend : Backend) :
    answered terms backend (demand.line id) =
      (.line (Utf8.ofString (Reply.render ⟨Json.int id,
          demand.told (demand.perform terms.snapshot backend (terms.clock 0)).1⟩ ++ "\n")),
        (demand.perform terms.snapshot backend (terms.clock 0)).2) := by
  have hline : ∀ text ∈ [demand.line id], newline ∉ Utf8.ofString text ∧
      (Utf8.ofString text).length ≤ terms.limit ∧ Utf8.IsText (content (Utf8.ofString text)) ∧
        request? (content (Utf8.ofString text)) = some text := by
    intro text htext
    obtain rfl := List.mem_singleton.mp htext
    exact ⟨demand.newline_not_mem_line id, hfits, demand.request?_line id⟩
  have hheard := hear_requests hlimit hline
  have hstream : terminated ([demand.line id].map Utf8.ofString) =
      Utf8.ofString (demand.line id) ++ [newline] := List.append_nil _
  have hhandle := handle_of_demands (demand.asks_line hid) rfl (read_params h) terms.snapshot
    backend (terms.clock 0)
  rw [hstream] at hheard
  unfold answered
  rw [serveStream_eq, hheard]
  simp only [handleAll, hhandle, Ending.parting, List.append_nil]
  rfl

end Demand

end Rpc

end TaskDaemon
