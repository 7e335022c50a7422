import TaskDaemon.Proofs.Json.OneLine
import TaskDaemon.Proofs.Rpc.Hearing

/-!
# One reply for each line

A peer that writes lines within the limit and ends its stream gets what it expects: its lines are
handled in their order, each one that is not blank gets one reply, on a line of its own, and a line
that is no text ends the connection before it does anything.

* `TaskDaemon.Rpc.asked`: the requests of some lines, up to the first that is no text;
* `TaskDaemon.Rpc.hear_lines`: these are the requests that the connection hears;
* `TaskDaemon.Rpc.lines_replies`: the replies are read back as lines, one each;
* `TaskDaemon.Rpc.serveStream_lines`, the main result.

Windows do not occur in the main result. How the carriage returns behind a content are cut is
settled by `TaskDaemon.Rpc.hear_fits`.
-/

namespace TaskDaemon

namespace Rpc

/-- **The requests of lines**, one for each that is not blank, up to the first line that is no
text. -/
def asked (lines : List Bytes) : List String :=
  ((lines.map content).takeWhile fun content => Utf8.IsText content).filterMap request?

theorem asked_cons (line : Bytes) (rest : List Bytes) :
    asked (line :: rest) =
      if Utf8.IsText (content line) then (request? (content line)).toList ++ asked rest
      else [] := by
  unfold asked
  rw [List.map_cons]
  by_cases htext : Utf8.IsText (content line)
  · rw [List.takeWhile_cons_of_pos (by simpa using htext), List.filterMap_cons, if_pos htext]
    cases request? (content line) <;> rfl
  · rw [List.takeWhile_cons_of_neg (by simpa using htext), if_neg htext]
    rfl

/-- **Of lines within the limit, a connection hears what they ask**, and it ends where they end or
where one is no text. -/
theorem hear_lines {limit : Nat} (hlimit : limit + 1 < sizes) (stream : Bytes)
    (hfit : ∀ line ∈ lines stream, (content line).length ≤ limit) :
    hear limit true stream =
      ⟨asked (lines stream),
        if ∀ line ∈ lines stream, Utf8.IsText (content line) then .atEnd else .notText⟩ := by
  induction stream using linewise with
  | last line hline =>
    rw [lines_of_not_mem hline] at hfit ⊢
    have hheard := hear_fits hlimit hline (hfit line (by simp)) (.atEnd rfl)
    rw [List.append_nil] at hheard
    rw [hheard, asked_cons]
    by_cases htext : Utf8.IsText (content line)
    · simp [htext, Hearing.behind, asked]
    · simp [htext]
  | front line rest hline ih =>
    rw [lines_append hline] at hfit ⊢
    have hrest : Follows limit true (newline :: rest) (hear limit true rest) := .line rest
    rw [hear_fits hlimit hline (hfit line (by simp)) hrest, asked_cons,
      ih fun line h => hfit line (by simp [h])]
    by_cases htext : Utf8.IsText (content line)
    · simp [htext, Hearing.behind]
    · simp [htext]

/-! ### Replies as lines -/

/-- The text of a reply is one line. -/
theorem Reply.newline_not_mem (reply : Reply) : newline ∉ Utf8.ofString reply.render := by
  intro h
  have hmem := Utf8.mem_of_mem_encode (by decide) h
  rw [Reply.render, Json.render, String.toList_ofList] at hmem
  exact (Json.plain_chars reply.toJson).newline_not_mem hmem

theorem Reply.ofString_lines_cons (reply : Reply) (replies : List Reply) :
    Utf8.ofString (Reply.lines (reply :: replies)) =
      Utf8.ofString reply.render ++ newline :: Utf8.ofString (Reply.lines replies) := by
  simp only [Reply.lines, Utf8.ofString, List.map_cons, String.toList_join, List.flatMap_cons,
    String.toList_append, Utf8.encode_append, List.append_assoc]
  rfl

/-- **Replies are read back as lines**, one each, with nothing behind the last. -/
theorem lines_replies (replies : List Reply) :
    lines (Utf8.ofString (Reply.lines replies)) =
      replies.map (fun reply => Utf8.ofString reply.render) ++ [[]] := by
  induction replies with
  | nil => rfl
  | cons reply replies ih =>
    rw [Reply.ofString_lines_cons, lines_append reply.newline_not_mem, ih]
    rfl

/-! ### The exchange -/

/-- **A connection answers line by line.** If the content of every line that a peer sends is within
the limit, then the requests of the lines before the first that is no text, or of all lines if all
are text, are handled one after the other, the peer reads one line for each of them, and neither
backend nor peer notices anything else. -/
theorem serveStream_lines (terms : Terms) (hlimit : terms.limit + 1 < sizes)
    (hended : terms.ended = true) (backend : Backend) (stream : Bytes)
    (hfit : ∀ line ∈ lines stream, (content line).length ≤ terms.limit) :
    let handled := handleAll terms.snapshot terms.clock 0 backend (asked (lines stream))
    serveStream terms none backend stream = handled ∧
      handled.1.length = (asked (lines stream)).length ∧
      lines (Utf8.ofString (Reply.lines (serveStream terms none backend stream).1)) =
        handled.1.map (fun reply => Utf8.ofString reply.render) ++ [[]] := by
  have hserved : serveStream terms none backend stream =
      handleAll terms.snapshot terms.clock 0 backend (asked (lines stream)) := by
    rw [serveStream_eq, hended, hear_lines hlimit stream hfit]
    split <;> simp [Ending.parting]
  refine ⟨hserved, length_handleAll _ _ _ _ _, ?_⟩
  rw [hserved]
  exact lines_replies _

/-- Two lines get replies here: one that is as long as may be, with more carriage returns behind it
than a window holds, and one without a newline. The blank line between them gets none. -/
theorem serveStream_lines_cut :
    let terms : Terms := ⟨2, ⟨1, ⟨.loopback, 80, 0⟩⟩, fun _ => ⟨0, 0⟩, true⟩
    let stream := Utf8.encode ['\x7b', '\x7d', '\r', '\r', '\r', '\r', '\n', ' ', '\n', '7']
    (∀ line ∈ lines stream, (content line).length ≤ terms.limit) ∧
      asked (lines stream) = ["\x7b\x7d", "7"] ∧
      (serveStream terms none {} stream).1.length = 2 := by
  intro terms stream
  have hfit : ∀ line ∈ lines stream, (content line).length ≤ terms.limit := by decide
  have hasked : asked (lines stream) = ["\x7b\x7d", "7"] := by decide
  obtain ⟨hserved, hcount, -⟩ := serveStream_lines terms (by decide) rfl {} stream hfit
  refine ⟨hfit, hasked, ?_⟩
  rw [hserved, hcount, hasked]
  rfl

end Rpc

end TaskDaemon
