import TaskDaemon.Proofs.Json.Typed
import TaskDaemon.Proofs.Rpc.Demand
import TaskDaemon.Proofs.Text.Utf8
import TaskDaemon.Rest.Service

/-!
# What REST requests ask for

A request says what it asks for by its method, its path and its body. What the four kinds of
requests say is told here without the service (`TaskDaemon.Rest.Asks`), in the terms in which calls
are told what they demand (`TaskDaemon.Rpc.Demand`).

* **The path.** An id stands in it as a segment, with any of its bytes written as a percent sign and
  two digits (`TaskDaemon.Rest.Names`). Every id but the empty one can be written so
  (`TaskDaemon.Rest.names_percentEncode`).
* **The body.** It is JSON of one value (`TaskDaemon.Rest.Holds`), which is an object. A key may be
  missing, null, or have a value (`TaskDaemon.Rest.Gives`), and these are three things:
  the fields of a change are those whose keys are present, and a null time of completion
  is one that is cleared.

The service understands such requests: `TaskDaemon.Rest.plan_of_asks`.
-/

namespace TaskDaemon

namespace Rest

open Json Attempt

/-! ### Ids in paths -/

/-- **A segment of a path names an id**: its bytes are those of the id. -/
structure Names (segment : List Char) (id : String) : Prop where
  notEmpty : segment ≠ []
  noSlash : '/' ∉ segment
  decodes : percentDecode segment = Utf8.ofString id

/-- A byte as a percent sign and two digits. -/
def percentByte (byte : UInt8) : List Char :=
  ['%', hexChar (byte.toNat / 16), hexChar (byte.toNat % 16)]

/-- **A text for a path**: what `keep` keeps stands for itself, and everything else is
written byte by byte. -/
def percentEncode (keep : Char → Bool) : List Char → List Char
  | [] => []
  | c :: text =>
    if keep c then c :: percentEncode keep text
    else (String.utf8EncodeChar c).flatMap percentByte ++ percentEncode keep text

theorem hexValue?_hexChar : ∀ d < 16, hexValue? (hexChar d) = some d := by decide

theorem percentDecode_percentByte (byte : UInt8) (rest : List Char) :
    percentDecode (percentByte byte ++ rest) = byte :: percentDecode rest := by
  have hbyte : byte.toNat < 256 := byte.toNat_lt
  have hhigh := hexValue?_hexChar (byte.toNat / 16) (by omega)
  have hlow := hexValue?_hexChar (byte.toNat % 16) (by omega)
  have hsame : UInt8.ofNat (byte.toNat / 16 * 16 + byte.toNat % 16) = byte :=
    Utf8.ofNat_eq_byte byte (by omega)
  simp only [percentByte, List.cons_append, List.nil_append, percentDecode, hhigh, hlow, hsame]

theorem percentDecode_percentBytes (bytes : Bytes) (rest : List Char) :
    percentDecode (bytes.flatMap percentByte ++ rest) = bytes ++ percentDecode rest := by
  induction bytes with
  | nil => rfl
  | cons byte bytes ih =>
    rw [List.flatMap_cons, List.append_assoc, percentDecode_percentByte, ih, List.cons_append]

theorem percentDecode_cons_of_ne {c : Char} (h : c ≠ '%') (rest : List Char) :
    percentDecode (c :: rest) = String.utf8EncodeChar c ++ percentDecode rest := by
  rw [percentDecode]
  rintro _ _ _ rfl
  exact absurd rfl h

theorem tasksPath_eq :
    tasksPath = ['/', 'a', 'p', 'i', '/', 'v', '1', '/', 't', 'a', 's', 'k', 's'] := by
  decide

variable {keep : Char → Bool}

/-- **Decoding undoes encoding**, whatever is kept but the percent sign. -/
theorem percentDecode_percentEncode (hkeep : keep '%' = false) (text : List Char) :
    percentDecode (percentEncode keep text) = Utf8.encode text := by
  induction text with
  | nil => rfl
  | cons c text ih =>
    rw [percentEncode, Utf8.encode_cons]
    split
    · next h =>
      have hother : c ≠ '%' := by
        rintro rfl
        exact absurd (hkeep.symm.trans h) (by decide)
      rw [percentDecode_cons_of_ne hother, ih]
    · rw [percentDecode_percentBytes, ih]

/-- **No other characters** than those that are kept stand in an encoded text, apart from digits and
percent signs. -/
theorem mem_percentEncode {text : List Char} {c : Char} (h : c ∈ percentEncode keep text) :
    keep c = true ∨ c = '%' ∨ ∃ d < 16, c = hexChar d := by
  induction text with
  | nil => cases h
  | cons first text ih =>
    rw [percentEncode] at h
    split at h
    · next hkept =>
      rcases List.mem_cons.mp h with rfl | h
      · exact Or.inl hkept
      · exact ih h
    · rcases List.mem_append.mp h with h | h
      · obtain ⟨byte, -, hmem⟩ := List.mem_flatMap.mp h
        have hbyte : byte.toNat < 256 := byte.toNat_lt
        simp only [percentByte, List.mem_cons, List.not_mem_nil, or_false] at hmem
        rcases hmem with rfl | rfl | rfl
        · exact Or.inr (Or.inl rfl)
        · exact Or.inr (Or.inr ⟨_, by omega, rfl⟩)
        · exact Or.inr (Or.inr ⟨_, by omega, rfl⟩)
      · exact ih h

/-- **Every id but the empty one has its segments**, and they are left alone when the path is taken
from a target. -/
theorem names_percentEncode (keep : Char → Bool) 
    (hkeep : ∀ c ∈ ['%', '/', '?', '#'], keep c = false) {id : String} (hid : id ≠ "") :
    Names (percentEncode keep id.toList) id ∧
      pathOf (tasksPath ++ '/' :: percentEncode keep id.toList) =
        tasksPath ++ '/' :: percentEncode keep id.toList := by
  have hother : ∀ c ∈ ['/', '?', '#'], c ∉ percentEncode keep id.toList := by
    intro c hc hmem
    rcases mem_percentEncode hmem with hkept | rfl | ⟨d, hd, rfl⟩
    · exact absurd ((hkeep c (List.mem_cons_of_mem _ hc)).symm.trans hkept) (by decide)
    · exact absurd hc (by decide)
    · have hdigit : ∀ d < 16, hexChar d ∉ ['/', '?', '#'] := by decide
      exact hdigit d hd hc
  have hdecodes := percentDecode_percentEncode (hkeep '%' List.mem_cons_self) id.toList
  refine ⟨⟨fun hnil => ?_, hother _ (by decide), hdecodes⟩, ?_⟩
  -- An empty segment would decode to the empty id.
  · rw [hnil] at hdecodes
    have htext : id.toList = [] := Utf8.encode_injective hdecodes.symm
    exact hid (String.toList_injective htext)
  · have hstart : pathOf (tasksPath ++ '/' :: percentEncode keep id.toList) =
        (tasksPath ++ '/' :: percentEncode keep id.toList).takeWhile
          fun c => c ≠ '?' && c ≠ '#' := by
      rw [tasksPath_eq]
      rfl
    rw [hstart]
    refine List.takeWhile_eq_self_iff.mpr fun c hc => ?_
    -- Neither sign that ends a path stands in front of the segment or in it.
    have hplain : (tasksPath ++ ['/']).all (fun c => c ≠ '?' && c ≠ '#') = true := by decide
    rw [List.append_cons] at hc
    rcases List.mem_append.mp hc with hc | hc
    · exact List.all_eq_true.mp hplain c hc
    · have hquestion : c ≠ '?' := by
        rintro rfl
        exact hother _ (by decide) hc
      have hnumber : c ≠ '#' := by
        rintro rfl
        exact hother _ (by decide) hc
      simp [hquestion, hnumber]

/-! ### Bodies -/

variable {request : Request}

/-- **The body is JSON of this value**, is announced as JSON and is not too long. -/
structure Holds (request : Request) (value : Json) : Prop where
  announced : MediaType.announcesJson request.contentType = true
  fits : request.body.length ≤ bodyLimit
  parsed : Json.parse (Glyph.ofBytes request.body) = .ok value

/-- **A body that was written from a value holds it.** -/
theorem holds_render {value : Json} (h : Readable depthLimit value) (method : String)
    (target : List Char) {contentType : Option String}
    (hannounced : MediaType.announcesJson contentType = true)
    (hfits : (Utf8.ofString value.render).length ≤ bodyLimit) :
    Holds ⟨method, target, contentType, Utf8.ofString value.render⟩ value := by
  refine ⟨hannounced, hfits, ?_⟩
  rw [Utf8.ofBytes_ofString]
  exact parse_render h

/-- **A body is read as what its value stands for.** -/
theorem Holds.readBody_eq {value : Json} (h : Holds request value) {α : Type} {s : Schema α}
    (htidy : s.Tidy) {a : α} (htake : s.ofJson .countWanted value = .ok a) :
    readBody s request = .ok a := by
  unfold readBody
  rw [if_neg (not_not.mpr h.announced), if_neg (not_lt.mpr h.fits)]
  simp only [Schema.parseFront_of_parse htidy h.parsed htake]

/-- **What an object says under a key** that may be missing or null. The relation tells which other
value means what. -/
inductive Gives {α : Type} (means : Json → α → Prop) (key : String)
    (members : List (String × Json)) : Option (Option α) → Prop where
  /-- The key is missing. -/
  | absent (h : membersOf key members = []) : Gives means key members none
  /-- It is null. -/
  | null (h : membersOf key members = [(key, .null)]) : Gives means key members (some none)
  /-- It has a value. -/
  | value {value : Json} {a : α} (h : membersOf key members = [(key, value)])
    (hvalue : means value a) : Gives means key members (some (some a))

/-- A string means itself. -/
def MeansText (value : Json) (text : String) : Prop :=
  value = .string text

/-- A string means the time that it is the text of. -/
def MeansTime (value : Json) (time : Instant) : Prop :=
  ∃ text, value = .string text ∧ Instant.parse text = .ok time

/-- **A field that may be missing or null is read as what it is given.** -/
theorem Gives.taken {α : Type} {means : Json → α → Prop} {key : String}
    {members : List (String × Json)} {given : Option (Option α)} (h : Gives means key members given)
    {s : Schema α} {surplus : Surplus}
    (hread : ∀ value a, means value a → value ≠ .null ∧ s.ofJson surplus value = .ok a) :
    (membersOf key members = [] ∧ given = none) ∨
      ∃ m taken, membersOf key members = [m] ∧
        (Schema.option s).ofJson surplus m.2 = .ok taken ∧ given = some taken := by
  cases h with
  | absent h => exact Or.inl ⟨h, rfl⟩
  | null h => exact Or.inr ⟨_, none, h, rfl, rfl⟩
  | @value value a h hvalue =>
    obtain ⟨hnull, htaken⟩ := hread value a hvalue
    refine Or.inr ⟨_, some a, h, ?_, rfl⟩
    rw [s.ofJson_option_of_ne_null hnull]
    exact map_eq_ok_iff.mpr ⟨a, htaken, rfl⟩

theorem meansText_taken {surplus : Surplus} (value : Json) (text : String)
    (h : MeansText value text) : value ≠ .null ∧ textSchema.ofJson surplus value = .ok text := by
  obtain rfl := h
  exact ⟨nofun, rfl⟩

theorem meansTime_taken {surplus : Surplus} (value : Json) (time : Instant)
    (h : MeansTime value time) :
    value ≠ .null ∧ Instant.schema.ofJson surplus value = .ok time := by
  obtain ⟨text, rfl, hparse⟩ := h
  refine ⟨nofun, ?_⟩
  unfold Instant.schema Schema.ofJson Instant.atom Atom.parsed
  simp only [hparse]
  rfl

/-- **A draft** is read from an object with a summary. -/
theorem readBody_draft {members : List (String × Json)} {summary : String}
    (h : Holds request (.object members))
    (hsummary : membersOf "summary" members = [("summary", .string summary)]) :
    readBody TaskDraft.schema request = .ok ⟨summary⟩ := by
  have hkeys : (Fields.need "summary" textSchema .done).keys.Nodup := by decide
  have htidy : TaskDraft.schema.Tidy := ⟨hkeys, trivial, trivial⟩
  refine h.readBody_eq htidy (map_eq_ok_iff.mpr ⟨(summary, ()), ?_, rfl⟩)
  exact (Fields.record_eq_ok_iff hkeys members).mpr
    ⟨(some summary, ()), ⟨Or.inr ⟨_, summary, hsummary, rfl, rfl⟩, trivial⟩, rfl⟩

/-- **A change** is read from an object with any of its keys. -/
theorem readBody_patch {members : List (String × Json)} {summary : Option (Option String)}
    {completedAt : Option (Option Instant)} (h : Holds request (.object members))
    (hsummary : Gives MeansText "summary" members summary)
    (hcompletedAt : Gives MeansTime "completed_at" members completedAt) :
    readBody PatchBody.schema request = .ok ⟨summary.join, completedAt⟩ := by
  have hkeys : ["summary", "completed_at"].Nodup := by decide
  have htidy : PatchBody.schema.Tidy := ⟨hkeys, trivial, trivial, trivial⟩
  refine h.readBody_eq htidy (map_eq_ok_iff.mpr ⟨(summary.join, completedAt, ()), ?_, rfl⟩)
  -- A time of completion is read as given; the one more layer tells that its key is there.
  have htime : (membersOf "completed_at" members = [] ∧ completedAt.map some = none) ∨
      ∃ m taken, membersOf "completed_at" members = [m] ∧
        (Schema.convert some Option.join (.option Instant.schema)).ofJson .countWanted m.2 =
            .ok taken ∧
          completedAt.map some = some taken := by
    rcases hcompletedAt.taken meansTime_taken with ⟨hnone, rfl⟩ | ⟨m, taken, hm, hread, rfl⟩
    · exact Or.inl ⟨hnone, rfl⟩
    · exact Or.inr ⟨m, some taken, hm, map_eq_ok_iff.mpr ⟨taken, hread, rfl⟩, rfl⟩
  refine (Fields.record_eq_ok_iff (by exact hkeys) members).mpr
    ⟨(summary, completedAt.map some, ()),
      ⟨hsummary.taken meansText_taken, htime, trivial⟩, ?_⟩
  cases summary <;> cases completedAt <;> rfl

/-! ### Requests -/

/-- **What a request asks for**, by its method, its path and its body. -/
inductive Asks (request : Request) : Rpc.Demand → Prop where
  /-- All tasks. -/
  | list (hmethod : request.method = "GET") (hpath : pathOf request.target = tasksPath) :
    Asks request .list
  /-- A new task. -/
  | create {members : List (String × Json)} {summary : String} (hmethod : request.method = "POST")
    (hpath : pathOf request.target = tasksPath) (hbody : Holds request (.object members))
    (hsummary : membersOf "summary" members = [("summary", .string summary)]) :
    Asks request (.create summary)
  /-- A change to a task: of the fields whose keys are present, to the values given. -/
  | update {segment : List Char} {id : String} {members : List (String × Json)}
    {summary : Option (Option String)} {completedAt : Option (Option Instant)}
    (hmethod : request.method = "PATCH")
    (hpath : pathOf request.target = tasksPath ++ '/' :: segment) (hid : Names segment id)
    (hbody : Holds request (.object members)) (hsummary : Gives MeansText "summary" members summary)
    (hcompletedAt : Gives MeansTime "completed_at" members completedAt) :
    Asks request
      (.update ⟨id, ⟨summary.join, completedAt.join⟩, ⟨summary.isSome, completedAt.isSome⟩⟩)
  /-- The removal of a task. -/
  | delete {segment : List Char} {id : String} (hmethod : request.method = "DELETE")
    (hpath : pathOf request.target = tasksPath ++ '/' :: segment) (hid : Names segment id) :
    Asks request (.delete id)

/-- **The route of a segment** leads to one task. -/
theorem Names.ofPath {segment : List Char} {id : String} (h : Names segment id) :
    Route.ofPath (tasksPath ++ '/' :: segment) = .task segment := by
  have hlength : (tasksPath ++ ['/']).length = tasksPath.length + 1 := List.length_append
  have hfront : (tasksPath ++ '/' :: segment).take (tasksPath.length + 1) = tasksPath ++ ['/'] := by
    rw [List.append_cons, ← hlength, List.take_left]
  have hbehind : (tasksPath ++ '/' :: segment).drop (tasksPath.length + 1) = segment := by
    rw [List.append_cons, ← hlength, List.drop_left]
  unfold Route.ofPath
  rw [if_neg (by simp), if_pos hfront, hbehind]
  have hsegment : ¬(segment.isEmpty = true ∨ segment.contains '/' = true) := by
    simpa using ⟨h.notEmpty, h.noSlash⟩
  simp only [hsegment, if_false]

/-- **The id of a segment** is what its bytes spell. -/
theorem Names.toString?_eq {segment : List Char} {id : String} (h : Names segment id) :
    Utf8.toString? (percentDecode segment) = some id := by
  have htext := (Utf8.decode_eq_ok_iff _ _).mpr h.decodes.symm
  unfold Utf8.toString?
  rw [htext]
  exact congrArg some String.ofList_toList

/-- **The path of the tasks** leads to them. -/
theorem ofPath_tasksPath : Route.ofPath tasksPath = .tasks :=
  if_pos rfl

/-- **An operation serves a demand.** For a change, a summary that is named and not given may as
well not be named, since it stays in either case. -/
inductive Serves : Operation → Rpc.Demand → Prop where
  /-- All tasks. -/
  | list : Serves .list .list
  /-- A new task. -/
  | create (summary : String) : Serves (.create ⟨summary⟩) (.create summary)
  /-- A change to a task. -/
  | update (id : String) (body : PatchBody) (named : Bool)
    (hnamed : body.summary.isSome = true → named = true) :
    Serves (.update id body) (.update ⟨id, body.patch, ⟨named, body.completedAt.isSome⟩⟩)
  /-- The removal of a task. -/
  | delete (id : String) : Serves (.delete id) (.delete id)

/-- **The service understands what a request asks for.** -/
theorem plan_of_asks {demand : Rpc.Demand} (h : Asks request demand) :
    ∃ operation, plan request = .ok operation ∧ Serves operation demand := by
  cases h with
  | list hmethod hpath =>
    refine ⟨_, ?_, .list⟩
    unfold plan
    rw [hpath, ofPath_tasksPath]
    exact if_pos (Or.inl hmethod)
  | create hmethod hpath hbody hsummary =>
    refine ⟨_, ?_, .create _⟩
    unfold plan
    rw [hpath, ofPath_tasksPath]
    dsimp only
    rw [hmethod, if_neg (by decide), if_pos rfl, readBody_draft hbody hsummary]
    rfl
  | @update segment id members summary completedAt hmethod hpath hid hbody hsummary hcompletedAt =>
    have hnamed : summary.join.isSome = true → summary.isSome = true := by
      cases summary with
      | none => exact fun h => h
      | some given => exact fun _ => rfl
    refine ⟨_, ?_, .update id ⟨summary.join, completedAt⟩ summary.isSome hnamed⟩
    unfold plan
    rw [hpath, hid.ofPath]
    dsimp only
    rw [hmethod, if_pos (Or.inl rfl), hid.toString?_eq]
    dsimp only
    rw [if_pos rfl, readBody_patch hbody hsummary hcompletedAt]
    rfl
  | delete hmethod hpath hid =>
    refine ⟨_, ?_, .delete _⟩
    unfold plan
    rw [hpath, hid.ofPath]
    dsimp only
    rw [hmethod, if_pos (Or.inr rfl), hid.toString?_eq]
    dsimp only
    rw [if_neg (by decide)]

end Rest

end TaskDaemon
