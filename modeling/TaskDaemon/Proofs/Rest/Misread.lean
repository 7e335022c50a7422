import TaskDaemon.Proofs.Json.Front
import TaskDaemon.Proofs.Rest.Failures

/-!
# Which bodies are taken for what they are not

A new task and a change to a task are asked for with a body, which is to be one value and nothing
else. But the service reads the value at the front of the body and does not look at what is behind
it, and where it skips a member that it does not know it does not look at the bytes of its strings.
So a body can be no value, or not even text, and be taken for one.

* `TaskDaemon.Rest.AsksWith`: the requests that are read by their bodies;
* `TaskDaemon.Rest.HoldsWhole`: a body that is a value as a whole;
* `TaskDaemon.Rest.HeldToWhole`: the store is asked only for what the body as a whole says, and any
  other body is refused with a message;
* `TaskDaemon.Rest.Misread`: a body with a value at its front that is none as a whole;
* `TaskDaemon.Rest.held_to_whole_iff`: a request is held to its whole body exactly if the body is
  not misread.

What stands at the front of a body is a front of it that is a value as a whole, for the shapes asked
for here (`TaskDaemon.Json.Schema.Framed.parseFront_eq_ok_iff`). That is what makes a body that is
not misread a whole one.
-/

namespace TaskDaemon

namespace Rest

open Json Attempt

/-! ### Requests that are read by their bodies -/

/-- **A request asks with its body**: for a new task or for a change to one, whose shape is that of
the schema and what it asks for is the operation. -/
inductive AsksWith (request : Request) : {α : Type} → Schema α → (α → Operation) → Prop where
  /-- A new task. -/
  | create (hmethod : request.method = "POST") (hpath : pathOf request.target = tasksPath) :
    AsksWith request TaskDraft.schema .create
  /-- A change to a task. -/
  | update {segment : List Char} {id : String} (hmethod : request.method = "PATCH")
    (hpath : pathOf request.target = tasksPath ++ '/' :: segment) (hid : Names segment id) :
    AsksWith request PatchBody.schema (.update id)

variable {request : Request} {α : Type} {s : Schema α} {operation : α → Operation}

namespace AsksWith

/-- The bodies that are asked with are objects or arrays. -/
theorem framed (h : AsksWith request s operation) : s.Framed := by
  cases h <;> trivial

theorem method_ne (h : AsksWith request s operation) : request.method ≠ "HEAD" := by
  cases h with
  | create hmethod _ => rw [hmethod]; decide
  | update hmethod _ _ => rw [hmethod]; decide

/-- **What is asked for is read from the body.** -/
theorem plan_eq (h : AsksWith request s operation) :
    plan request = ((readBody s request).mapError fun fault =>
      Response.failed 400 fault.message).map operation := by
  cases h with
  | create hmethod hpath =>
    rw [plan, hpath, ofPath_tasksPath, hmethod]
    rfl
  | update hmethod hpath hid =>
    rw [plan, hpath, hid.ofPath, hmethod]
    dsimp only
    rw [if_pos (Or.inl rfl), hid.toString?_eq]
    rfl

end AsksWith

/-! ### Bodies -/

/-- **The body as a whole is a value**: it is not too long, it is text, and the text is one value
with nothing but blanks around it. -/
structure HoldsWhole (s : Schema α) (request : Request) (value : α) : Prop where
  fits : request.body.length ≤ bodyLimit
  isText : Utf8.IsText request.body
  parsed : s.parse (Glyph.ofBytes request.body) = .ok value

/-- **The body has a value at its front.** -/
def HoldsFront (s : Schema α) (request : Request) (value : α) : Prop :=
  request.body.length ≤ bodyLimit ∧ ∃ front behind,
    Glyph.ofBytes request.body = front ++ behind ∧ s.parse front = .ok value

/-- **The body has a value at its front and is none**: there is more than blanks behind the value,
or there are bytes within it that are not text. -/
def Misread (s : Schema α) (request : Request) : Prop :=
  request.body.length ≤ bodyLimit ∧ ∃ front behind value,
    Glyph.ofBytes request.body = front ++ behind ∧ s.parse front = .ok value ∧
      ((∃ g ∈ behind, Cursor.isSeparator g = false) ∨ ∃ byte, Glyph.stray byte ∈ front)

variable {value : α}

/-- **What is read of a body** is the value at its front. -/
theorem readBody_eq_ok_iff (hs : s.Framed)
    (hjson : MediaType.announcesJson request.contentType = true) :
    readBody s request = .ok value ↔ HoldsFront s request value := by
  rw [HoldsFront, ← hs.parseFront_eq_ok_iff, readBody, if_neg (not_not.mpr hjson)]
  split
  · next hlong => exact iff_of_false (fun h => by cases h) fun h => absurd h.1 (not_le.mpr hlong)
  next hfits =>
  rw [and_iff_right (not_lt.mp hfits)]
  dsimp only
  cases s.parseFront (Glyph.ofBytes request.body) with
  | ok value => simp
  | error fault => exact iff_of_false (fun h => by cases h) (fun h => by cases h)

/-- Blanks are text. -/
theorem stray_not_mem_of_blank {glyphs : List Glyph}
    (h : ∀ g ∈ glyphs, Cursor.isSeparator g = true) (byte : UInt8) : Glyph.stray byte ∉ glyphs :=
  fun hmem => by cases h _ hmem

/-- **A value at the front** is the whole body, or the body is misread. -/
theorem HoldsFront.whole_or_misread (hs : s.Framed) (h : HoldsFront s request value) :
    HoldsWhole s request value ∨ Misread s request := by
  obtain ⟨hfits, front, behind, hbody, hparse⟩ := h
  by_cases hmore : (∃ g ∈ behind, Cursor.isSeparator g = false) ∨ ∃ byte, Glyph.stray byte ∈ front
  · exact Or.inr ⟨hfits, front, behind, value, hbody, hparse, hmore⟩
  · simp only [not_or, not_exists, not_and, Bool.not_eq_false] at hmore
    refine Or.inl ⟨hfits, (Utf8.isText_iff_glyphs _).mpr fun byte hbyte => ?_, ?_⟩
    · rw [hbody] at hbyte
      exact (List.mem_append.mp hbyte).elim (hmore.2 byte) (stray_not_mem_of_blank hmore.1 byte)
    · rw [hbody]
      exact (hs.parse_append_iff hparse).mpr ⟨rfl, hmore.1⟩

/-- **A misread body is no value** as a whole. -/
theorem not_holdsWhole_of_misread (hs : s.Framed) (h : Misread s request) :
    ¬HoldsWhole s request value := by
  obtain ⟨-, front, behind, value', hbody, hparse, hmore⟩ := h
  rintro ⟨-, htext, hwhole⟩
  rcases hmore with ⟨g, hg, hblank⟩ | ⟨byte, hbyte⟩
  · rw [hbody, hs.parse_append_iff hparse] at hwhole
    exact Bool.false_ne_true (hblank.symm.trans (hwhole.2 g hg))
  · refine (Utf8.isText_iff_glyphs _).mp htext byte ?_
    rw [hbody]
    exact List.mem_append_left _ hbyte

/-! ### Answers -/

/-- **A request is refused**: it is answered with the status of a bad request and a message, and the
store is left as it was. -/
def Refused (request : Request) : Prop :=
  ∀ backend now, (serve backend now request).1.status = 400 ∧
    (serve backend now request).1.TellsMessage ∧ (serve backend now request).2 = backend

/-- **A request is held to its whole body**: the store is asked for nothing but what the body as a
whole says, and any other body is refused. -/
structure HeldToWhole (s : Schema α) (operation : α → Operation) (request : Request) : Prop where
  asked : ∀ op, plan request = .ok op → ∃ value, op = operation value ∧ HoldsWhole s request value
  refused : (∀ value, ¬HoldsWhole s request value) → Refused request

/-- **What a request asks for** is what the front of its body says. -/
theorem plan_eq_ok_iff (hasks : AsksWith request s operation)
    (hjson : MediaType.announcesJson request.contentType = true) (op : Operation) :
    plan request = .ok op ↔ ∃ value, op = operation value ∧ HoldsFront s request value := by
  rw [hasks.plan_eq, map_eq_ok_iff]
  refine exists_congr fun value => ?_
  rw [mapError_eq_ok_iff, readBody_eq_ok_iff hasks.framed hjson, and_comm, eq_comm]

/-- **A body with nothing at its front is refused.** -/
theorem refused_of_not_holdsFront (hasks : AsksWith request s operation)
    (hjson : MediaType.announcesJson request.contentType = true)
    (h : ∀ value, ¬HoldsFront s request value) : Refused request := by
  intro backend now
  cases hread : readBody s request with
  | ok value => exact absurd ((readBody_eq_ok_iff hasks.framed hjson).mp hread) (h value)
  | error fault =>
    have hplan : plan request = .error (Response.failed 400 fault.message) := by
      rw [hasks.plan_eq, hread]
      rfl
    rw [serve, hplan]
    dsimp only
    rw [shape_of_ne hasks.method_ne]
    exact ⟨rfl, tellsMessage_failed _ _, rfl⟩

/-- **A request is held to its whole body** exactly if the body is not misread. In any case it asks
for what the front of the body says, and is refused if that says nothing. -/
theorem held_to_whole_iff (hasks : AsksWith request s operation)
    (hjson : MediaType.announcesJson request.contentType = true) :
    (HeldToWhole s operation request ↔ ¬Misread s request) ∧
      (∀ op, plan request = .ok op ↔ ∃ value, op = operation value ∧ HoldsFront s request value) ∧
      ((∀ value, ¬HoldsFront s request value) → Refused request) := by
  refine ⟨⟨?_, ?_⟩, plan_eq_ok_iff hasks hjson, refused_of_not_holdsFront hasks hjson⟩
  · rintro ⟨hasked, -⟩ hmisread
    obtain ⟨hfits, front, behind, value, hbody, hparse, -⟩ := id hmisread
    have hfront : HoldsFront s request value := ⟨hfits, front, behind, hbody, hparse⟩
    obtain ⟨_, -, hwhole⟩ := hasked _ ((plan_eq_ok_iff hasks hjson _).mpr ⟨value, rfl, hfront⟩)
    exact not_holdsWhole_of_misread hasks.framed hmisread hwhole
  · intro hmisread
    have hwhole {value : α} (hfront : HoldsFront s request value) : HoldsWhole s request value :=
      (hfront.whole_or_misread hasks.framed).resolve_right hmisread
    constructor
    · intro op hplan
      obtain ⟨value, hop, hfront⟩ := (plan_eq_ok_iff hasks hjson op).mp hplan
      exact ⟨value, hop, hwhole hfront⟩
    · exact fun hnone => refused_of_not_holdsFront hasks hjson fun value hfront =>
        hnone value (hwhole hfront)

/-- **A draft with a newline behind it** is a whole body. -/
theorem held_to_whole_line :
    let body := Utf8.ofString "\x7b\"summary\":\"tea\"\x7d\n"
    let request : Request := ⟨"POST", "/api/v1/tasks".toList, some "application/json", body⟩
    AsksWith request TaskDraft.schema .create ∧
      MediaType.announcesJson request.contentType = true ∧
      HeldToWhole TaskDraft.schema .create request ∧
      plan request = .ok (.create ⟨"tea"⟩) := by
  intro body request
  have hasks : AsksWith request TaskDraft.schema .create := .create (by decide) (by decide)
  have hjson : MediaType.announcesJson request.contentType = true := by decide
  have hwhole : HoldsWhole TaskDraft.schema request ⟨"tea"⟩ := ⟨by decide, by decide, by decide⟩
  obtain ⟨hheld, hplan, -⟩ := held_to_whole_iff hasks hjson
  refine ⟨hasks, hjson, hheld.mpr fun h => not_holdsWhole_of_misread hasks.framed h hwhole, ?_⟩
  exact (hplan _).mpr ⟨⟨"tea"⟩, rfl, hwhole.fits, _, [], (List.append_nil _).symm, hwhole.parsed⟩

/-- **A draft with words behind it, and one with a byte that is no text** in a string that nobody
asked for, are misread: a task is made of either. -/
theorem misread_drafts :
    let request (body : Bytes) : Request :=
      ⟨"POST", "/api/v1/tasks".toList, some "application/json", body⟩
    let more := request (Utf8.ofString "\x7b\"summary\":\"tea\"\x7d and more")
    let stray := request
      (Utf8.ofString "\x7b\"summary\":\"tea\",\"x\":\"" ++ 0xff :: Utf8.ofString "\"\x7d")
    (plan more = .ok (.create ⟨"tea"⟩) ∧ (serve {} ⟨0, 0⟩ more).1.status = 201 ∧
      ¬HeldToWhole TaskDraft.schema .create more) ∧
    (plan stray = .ok (.create ⟨"tea"⟩) ∧ (serve {} ⟨0, 0⟩ stray).1.status = 201 ∧
      ¬HeldToWhole TaskDraft.schema .create stray) := by
  intro request more stray
  have hmore : plan more = .ok (.create ⟨"tea"⟩) := by decide
  have hstray : plan stray = .ok (.create ⟨"tea"⟩) := by decide
  refine ⟨⟨hmore, by decide, fun h => ?_⟩, hstray, by decide, fun h => ?_⟩
  · obtain ⟨_, hop, hwhole⟩ := h.asked _ hmore
    obtain rfl := Operation.create.inj hop
    exact absurd hwhole.parsed (by decide)
  · obtain ⟨_, -, hwhole⟩ := h.asked _ hstray
    exact absurd hwhole.isText (by decide)

end Rest

end TaskDaemon
