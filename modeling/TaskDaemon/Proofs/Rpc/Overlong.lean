import Mathlib.Data.List.Infix
import TaskDaemon.Proofs.Rpc.Exchange

/-!
# Lines that are too long

Of a line that is too long nothing should be handled. A connection looks at one byte more than a
line may have, and that is enough as long as the byte is no carriage return: carriage returns are
dropped before the length is taken, so a full window that ends in one passes for a line that fits.
Then the front of the line is handled as a request, and what is behind it is read as if a line began
there.

* `TaskDaemon.Rpc.Refuses`: of a stream nothing is handled but what some lines ask, and the
  connection is closed;
* `TaskDaemon.Rpc.Silent`: of some lines nothing is handled, and the connection is closed;
* `TaskDaemon.Rpc.silent_iff`: this is what it is in terms of what is heard;
* `TaskDaemon.Rpc.long_line_refused_iff`, the main result: when a line that is too long is refused,
  which it always is unless the byte beyond the limit is a carriage return.
-/

namespace TaskDaemon

namespace Rpc

/-- **Nothing is handled but what the lines `before` ask**, and the connection is closed. -/
structure Refuses (limit : Nat) (ended : Bool) (stream : Bytes) (before : List Bytes) : Prop where
  /-- Nothing else is handled. -/
  heard : (hear limit ended stream).requests <+: asked before
  /-- The connection is closed. -/
  closed : (hear limit ended stream).ending ≠ .waiting

/-- **Nothing of these lines is handled**, and the connection is closed. Lines are read in pieces of
`limit + 1` bytes at most. -/
inductive Silent (limit : Nat) (ended : Bool) : List Bytes → Prop where
  /-- The peer ends the stream behind a blank line. -/
  | atEnd {line : Bytes} (hshort : line.length ≤ limit) (hblank : request? (content line) = none)
    (hended : ended = true) : Silent limit ended [line]
  /-- A blank line, and nothing is handled of the others. -/
  | blank {line next : Bytes} {rest : List Bytes} (hshort : line.length ≤ limit)
    (hblank : request? (content line) = none) (hrest : Silent limit ended (next :: rest)) :
    Silent limit ended (line :: next :: rest)
  /-- A line that is no text. -/
  | notText {line : Bytes} {rest : List Bytes} (hshort : line.length ≤ limit)
    (htext : ¬Utf8.IsText (content line)) (hread : ended = true ∨ rest ≠ []) :
    Silent limit ended (line :: rest)
  /-- A full piece that is no text. -/
  | frontNotText {line : Bytes} {rest : List Bytes} (hlong : limit < line.length)
    (htext : ¬Utf8.IsText (line.take (limit + 1))) : Silent limit ended (line :: rest)
  /-- A full piece that does not end in a carriage return. -/
  | tooLong {line : Bytes} {rest : List Bytes} (hlong : limit < line.length)
    (hreturn : (line.take (limit + 1)).getLast? ≠ some carriageReturn) :
    Silent limit ended (line :: rest)
  /-- A full piece that is blank, and nothing is handled of what is behind it. -/
  | front {line : Bytes} {rest : List Bytes} (hlong : limit < line.length)
    (hblank : request? (content (line.take (limit + 1))) = none)
    (hback : Silent limit ended (line.drop (limit + 1) :: rest)) : Silent limit ended (line :: rest)

section Silent

variable {limit : Nat} {ended : Bool} {line next : Bytes} {rest : List Bytes}

theorem request?_of_not_text {content : Bytes} (h : ¬Utf8.IsText content) :
    request? content = none := by
  obtain ⟨fault, hfault⟩ := Utf8.exists_fault h
  unfold request?
  rw [hfault]

theorem silent_last (hshort : line.length ≤ limit) :
    Silent limit ended [line] ↔ ended = true ∧ request? (content line) = none := by
  constructor
  · intro h
    cases h with
    | atEnd _ hblank hended => exact ⟨hended, hblank⟩
    | notText _ htext hread => exact ⟨hread.resolve_right (by simp), request?_of_not_text htext⟩
    | frontNotText hlong => omega
    | tooLong hlong => omega
    | front hlong => omega
  · rintro ⟨hended, hblank⟩
    exact .atEnd hshort hblank hended

theorem silent_cons (hshort : line.length ≤ limit) :
    Silent limit ended (line :: next :: rest) ↔
      (Utf8.IsText (content line) →
        request? (content line) = none ∧ Silent limit ended (next :: rest)) := by
  constructor
  · intro h htext
    cases h with
    | blank _ hblank hrest => exact ⟨hblank, hrest⟩
    | notText _ hnot => exact absurd htext hnot
    | frontNotText hlong => omega
    | tooLong hlong => omega
    | front hlong => omega
  · intro h
    by_cases htext : Utf8.IsText (content line)
    · exact .blank hshort (h htext).1 (h htext).2
    · exact .notText hshort htext (Or.inr (by simp))

theorem silent_long (hlong : limit < line.length) :
    Silent limit ended (line :: rest) ↔
      (Utf8.IsText (line.take (limit + 1)) →
        (line.take (limit + 1)).getLast? = some carriageReturn →
        request? (content (line.take (limit + 1))) = none ∧
          Silent limit ended (line.drop (limit + 1) :: rest)) := by
  constructor
  · intro h htext hreturn
    cases h with
    | atEnd hshort => omega
    | blank hshort => omega
    | notText hshort => omega
    | frontNotText _ hnot => exact absurd htext hnot
    | tooLong _ hnot => exact absurd hreturn hnot
    | front _ hblank hback => exact ⟨hblank, hback⟩
  · intro h
    by_cases htext : Utf8.IsText (line.take (limit + 1))
    · by_cases hreturn : (line.take (limit + 1)).getLast? = some carriageReturn
      · exact .front hlong (h htext hreturn).1 (h htext hreturn).2
      · exact .tooLong hlong hreturn
    · exact .frontNotText hlong htext

end Silent

/-! ### Silence is what is not heard -/

/-- Whoever does not end the stream within a line is waited for. -/
theorem hear_waiting {limit : Nat} (hlimit : limit + 1 < sizes) {line : Bytes}
    (hline : newline ∉ line) (hshort : line.length ≤ limit) :
    hear limit false line = ⟨[], .waiting⟩ := by
  rw [hear, window_last hlimit hline hshort]
  by_cases hempty : line = []
  · rw [dif_pos hempty, if_neg]
    rw [windowSize_eq hlimit]
    simp
  · have hlast : line.getLast? ≠ some newline := fun h => hline (List.mem_of_getLast? h)
    rw [dif_neg hempty, if_pos]
    simp [isPartial, hshort, hlast]

/-- **Nothing is heard before the connection is closed.** -/
def Hearing.IsQuiet (hearing : Hearing) : Prop :=
  hearing.requests = [] ∧ hearing.ending ≠ .waiting

theorem Hearing.isQuiet_behind (asked : List String) (later : Hearing) :
    (later.behind asked).IsQuiet ↔ asked = [] ∧ later.IsQuiet := by
  simp [IsQuiet, behind, and_assoc]

theorem Hearing.isQuiet_of_ending {ending : Ending} (h : ending ≠ .waiting) :
    Hearing.IsQuiet ⟨[], ending⟩ :=
  ⟨rfl, h⟩

/-- **Lines of which nothing is handled** are those of a stream of which nothing is heard. -/
theorem silent_iff {limit : Nat} (hlimit : limit + 1 < sizes) (ended : Bool) (stream : Bytes) :
    Silent limit ended (lines stream) ↔ (hear limit ended stream).IsQuiet := by
  obtain ⟨line, hline, hstream⟩ := exists_line stream
  by_cases hshort : line.length ≤ limit
  · rcases hstream with hstream | ⟨rest, hstream⟩
    · rw [hstream, lines_of_not_mem hline, silent_last hshort]
      cases ended with
      | false => simp [hear_waiting hlimit hline hshort, Hearing.IsQuiet]
      | true =>
        have hheard := hear_short hlimit hline hshort (.atEnd rfl)
        rw [List.append_nil] at hheard
        rw [hheard]
        by_cases htext : Utf8.IsText (content line)
        · rw [if_pos htext, Hearing.isQuiet_behind, Option.toList_eq_nil_iff]
          simp [Hearing.isQuiet_of_ending]
        · rw [if_neg htext, request?_of_not_text htext]
          simp [Hearing.isQuiet_of_ending]
    · obtain ⟨next, more, hmore⟩ := List.exists_cons_of_ne_nil (lines_ne_nil rest)
      have ih := silent_iff hlimit ended rest
      rw [hmore] at ih
      rw [hstream, lines_append hline, hmore, silent_cons hshort, ih,
        hear_short hlimit hline hshort (.line rest)]
      by_cases htext : Utf8.IsText (content line)
      · rw [if_pos htext, Hearing.isQuiet_behind, Option.toList_eq_nil_iff]
        simp [htext]
      · rw [if_neg htext]
        simp [htext, Hearing.isQuiet_of_ending]
  · -- The piece that is cut off takes bytes of the line only, so the other lines stay as they are.
    obtain ⟨behind, rest, hbehind, hrest⟩ : ∃ behind rest, stream = line ++ behind ∧
        ∀ front : Bytes, newline ∉ front → lines (front ++ behind) = front :: rest := by
      rcases hstream with hstream | ⟨rest, hstream⟩
      · refine ⟨[], [], by simpa using hstream, fun front hfront => ?_⟩
        rw [List.append_nil, lines_of_not_mem hfront]
      · exact ⟨newline :: rest, lines rest, hstream, fun front hfront => lines_append hfront rest⟩
    have hlong : limit < line.length := by omega
    have hback : newline ∉ line.drop (limit + 1) := fun h => hline (List.mem_of_mem_drop h)
    have ih := silent_iff hlimit ended (line.drop (limit + 1) ++ behind)
    rw [hrest _ hback] at ih
    rw [hbehind, hrest line hline, silent_long hlong, ih, hear_long hlimit hline hlong behind]
    by_cases htext : Utf8.IsText (line.take (limit + 1))
    · rw [if_neg (not_not.mpr htext)]
      by_cases hreturn : (line.take (limit + 1)).getLast? = some carriageReturn
      · rw [if_neg (not_not.mpr hreturn), Hearing.isQuiet_behind, Option.toList_eq_nil_iff]
        simp [htext, hreturn]
      · rw [if_pos hreturn]
        simp [hreturn, Hearing.isQuiet_of_ending]
    · rw [if_pos htext]
      simp [htext, Hearing.isQuiet_of_ending]
termination_by stream.length
decreasing_by
  · rw [hstream, List.length_append, List.length_cons]
    omega
  · rw [hbehind, List.length_append, List.length_append, List.length_drop]
    omega

/-! ### The lines before -/

/-- **Lines within the limit are heard first**: if they are text, what they ask is heard before
anything else, and otherwise what those before the first that is no text ask is all
that is heard. -/
theorem hear_terminated {limit : Nat} (hlimit : limit + 1 < sizes) (ended : Bool)
    {before : List Bytes} (hbefore : ∀ line ∈ before, newline ∉ line)
    (hfit : ∀ line ∈ before, (content line).length ≤ limit) (back : Bytes) :
    hear limit ended (terminated before ++ back) =
      if ∀ line ∈ before, Utf8.IsText (content line) then
        (hear limit ended back).behind (asked before)
      else ⟨asked before, .notText⟩ := by
  induction before with
  | nil =>
    rw [if_pos (by simp)]
    rfl
  | cons line before ih =>
    have hline := List.forall_mem_cons.mp hbefore
    have hfit' := List.forall_mem_cons.mp hfit
    have hstream : terminated (line :: before) ++ back =
        line ++ newline :: (terminated before ++ back) := by simp [terminated]
    rw [hstream, hear_fits hlimit hline.1 hfit'.1 (.line _), ih hline.2 hfit'.2, asked_cons]
    have hall : (∀ other ∈ line :: before, Utf8.IsText (content other)) ↔
        Utf8.IsText (content line) ∧ ∀ other ∈ before, Utf8.IsText (content other) :=
      List.forall_mem_cons
    by_cases htext : Utf8.IsText (content line)
    · simp only [hall, htext, true_and, if_true]
      split
      · simp [Hearing.behind]
      · rfl
    · simp only [hall, htext, false_and, if_false]

/-! ### The line that is too long -/

/-- A connection that opens no window is closed at once. -/
theorem hear_without_window {limit : Nat} (hlimit : limit + 1 = sizes) (ended : Bool)
    (stream : Bytes) : hear limit ended stream = ⟨[], .atEnd⟩ := by
  have hsize : windowSize limit = 0 := by rw [windowSize, hlimit, Nat.mod_self]
  have hwindow : (window limit stream).1 = [] := by
    rw [window, hsize, windowFrom]
    rfl
  rw [hear, dif_pos hwindow, if_pos (Or.inr hsize)]

/-- Behind lines that are heard as they should be, refusing is being quiet. -/
theorem refuses_iff_isQuiet {limit : Nat} {ended : Bool} {stream : Bytes} {before : List Bytes}
    {later : Hearing} (hheard : hear limit ended stream = later.behind (asked before)) :
    Refuses limit ended stream before ↔ later.IsQuiet := by
  constructor
  · rintro ⟨hheard', hclosed⟩
    rw [hheard] at hheard' hclosed
    have hlength := hheard'.length_le
    rw [Hearing.behind, List.length_append] at hlength
    exact ⟨List.eq_nil_of_length_eq_zero (by omega), hclosed⟩
  · rintro ⟨hnil, hclosed⟩
    refine ⟨?_, by rw [hheard]; exact hclosed⟩
    rw [hheard, Hearing.behind, hnil, List.append_nil]

/-- **When a line that is too long is refused.** What is handled is what is heard, with one reply
more at most, and the lines before are heard first. Nothing of the line or behind it is handled, and
the connection is closed, exactly if no window can be opened, or a line before is no text, or the
piece of the line that a window holds is no text, or does not end in a carriage return, or is blank
and the same is true of all that is behind it. -/
theorem long_line_refused_iff (terms : Terms) (hlimit : terms.limit < sizes) (backend : Backend)
    (stream : Bytes) {before after : List Bytes} {line : Bytes}
    (hlines : lines stream = before ++ line :: after)
    (hfit : ∀ line ∈ before, (content line).length ≤ terms.limit)
    (hlong : terms.limit < (content line).length) :
    let heard := (hear terms.limit terms.ended stream).requests
    let handled := handleAll terms.snapshot terms.clock 0 backend heard
    (∃ parting, (parting = [] ∨ parting = [oversized terms.limit]) ∧
        serveStream terms none backend stream = (handled.1 ++ parting, handled.2)) ∧
      (terms.limit + 1 < sizes → asked before <+: heard) ∧
      (Refuses terms.limit terms.ended stream before ↔
        terms.limit + 1 = sizes ∨ (∃ line ∈ before, ¬Utf8.IsText (content line)) ∨
          ¬Utf8.IsText (line.take (terms.limit + 1)) ∨
          (line.take (terms.limit + 1)).getLast? ≠ some carriageReturn ∨
          request? (content (line.take (terms.limit + 1))) = none ∧
            Silent terms.limit terms.ended (line.drop (terms.limit + 1) :: after)) := by
  obtain ⟨back, hback, hstream, hbefore⟩ := exists_back stream (List.cons_ne_nil _ _) hlines
  have hlong' : terms.limit < line.length := lt_of_lt_of_le hlong (length_content_le line)
  refine ⟨⟨_, ?_, serveStream_eq terms backend stream⟩,
    fun hsize => ?_, ?_⟩
  · cases (hear terms.limit terms.ended stream).ending <;> simp [Ending.parting]
  · rw [hstream, hear_terminated hsize _ hbefore hfit]
    split
    · exact List.prefix_append _ _
    · rfl
  -- No window, or a line before that is no text, closes the connection before the line is come to.
  by_cases hsize : terms.limit + 1 = sizes
  · refine ⟨fun _ => Or.inl hsize, fun _ => ⟨?_, ?_⟩⟩
    · rw [hear_without_window hsize]
      exact List.nil_prefix
    · rw [hear_without_window hsize]
      simp
  have hsize' : terms.limit + 1 < sizes := by omega
  have hheard := hear_terminated hsize' terms.ended hbefore hfit back
  rw [← hstream] at hheard
  by_cases htext : ∀ line ∈ before, Utf8.IsText (content line)
  · have hnone : ¬∃ line ∈ before, ¬Utf8.IsText (content line) := by simpa using htext
    rw [if_pos htext] at hheard
    rw [refuses_iff_isQuiet hheard, ← silent_iff hsize', hback, silent_long hlong']
    simp only [hsize, hnone, false_or]
    tauto
  · have hsome : ∃ line ∈ before, ¬Utf8.IsText (content line) := by simpa using htext
    rw [if_neg htext] at hheard
    refine ⟨fun _ => Or.inr (Or.inl hsome), fun _ => ⟨?_, ?_⟩⟩
    · rw [hheard]
    · rw [hheard]
      simp

/-- A line of two bytes is heard, and nothing of the line behind it, which is too long and has no
carriage return where one would matter. -/
theorem long_line_refused_demo :
    let terms : Terms := ⟨4, ⟨1, ⟨.loopback, 80, 0⟩⟩, fun _ => ⟨0, 0⟩, false⟩
    let stream := Utf8.encode ['4', '2', '\n', 'a', '\r', 'b', 'c', 'd', '\r', '\n', '7', '\n']
    Refuses terms.limit terms.ended stream [Utf8.encode ['4', '2']] ∧
      (hear terms.limit terms.ended stream).requests = ["42"] := by
  intro terms stream
  have hlines : lines stream = [Utf8.encode ['4', '2']] ++
      Utf8.encode ['a', '\r', 'b', 'c', 'd', '\r'] :: [Utf8.encode ['7'], []] := by decide
  obtain ⟨-, hfirst, hrefused⟩ := long_line_refused_iff terms (by decide) {} stream hlines
    (by decide) (by decide)
  have hrefuses := hrefused.mpr (Or.inr (Or.inr (Or.inr (Or.inl (by decide)))))
  refine ⟨hrefuses, ?_⟩
  have hasked : asked [Utf8.encode ['4', '2']] = ["42"] := by decide
  rw [← hasked]
  exact hrefuses.heard.eq_of_length_le (hfirst (by decide)).length_le

set_option maxRecDepth 4000 in
/-- **The front of a line that is too long is handled** if it is a request as long as a line may be,
with a carriage return behind it: here a task is asked for, and the rest of the line is taken for a
line. -/
theorem front_of_long_line_handled :
    let request := "\x7b\"jsonrpc\":\"2.0\",\"method\":\"tasks/create\"," ++
      "\"params\":\x7b\"summary\":\"tea\"\x7d,\"id\":1\x7d"
    let line := Utf8.ofString request ++ carriageReturn :: Utf8.ofString "more of the same line"
    let terms : Terms := ⟨75, ⟨4242, ⟨.loopback, 45678, 0⟩⟩, fun _ => ⟨1700000000, 0⟩, true⟩
    lines (line ++ [newline]) = [] ++ line :: [[]] ∧ terms.limit < (content line).length ∧
      ¬Refuses terms.limit terms.ended (line ++ [newline]) [] ∧
      serveStream terms none {} (line ++ [newline]) =
        handleAll terms.snapshot terms.clock 0 {} [request, "more of the same line"] := by
  intro request line terms
  have hback : line.drop 76 = Utf8.ofString "more of the same line" := by decide
  have hheard : hear terms.limit terms.ended (line ++ [newline]) =
      ⟨[request, "more of the same line"], .atEnd⟩ := by
    change hear 75 true (line ++ [newline]) = _
    rw [hear_long (by decide) (by decide) (by decide), if_neg (by decide), if_neg (by decide),
      hback, hear_short (by decide) (by decide) (by decide) (.line []), if_pos (by decide),
      hear_nil]
    decide
  refine ⟨by decide, by decide, fun h => ?_, ?_⟩
  · have hnone := h.heard
    rw [hheard] at hnone
    simp [asked] at hnone
  · rw [serveStream_eq, hheard]
    simp [Ending.parting]

end Rpc

end TaskDaemon
