import TaskDaemon.Proofs.Rpc.Lines

/-!
# What a connection hears

Serving a connection mixes two things: cutting its bytes into requests, which depends on the bytes
and the limit alone, and handling the requests, which depends on the backend. This file takes them
apart.

* `TaskDaemon.Rpc.hear`: the requests that a connection passes on, in order, and how it ends;
* `TaskDaemon.Rpc.handleAll`: requests handled one after the other;
* `TaskDaemon.Rpc.serveStream_eq`: serving a peer that keeps up is hearing and then handling, with
  one more reply where a line is too long.

What is heard at the beginning of a line is described by three lemmas, one for each way in which the
window can cut the line: `TaskDaemon.Rpc.hear_short`, `TaskDaemon.Rpc.hear_long` and, for lines
whose content fits, `TaskDaemon.Rpc.hear_fits`. In the last of these the carriage returns behind a
content may be cut anywhere; what is cut off is heard as a blank line.
-/

namespace TaskDaemon

namespace Rpc

/-- **How a connection ends.** -/
inductive Ending where
  /-- Everything was read and the peer sends no more. -/
  | atEnd
  /-- It does not end: the peer may send more. -/
  | waiting
  /-- Something was no text. -/
  | notText
  /-- A line was too long. -/
  | tooLong
  deriving DecidableEq, Repr

/-- The reply that a connection ends with. -/
def Ending.parting (limit : Nat) : Ending → List Reply
  | .tooLong => [oversized limit]
  | _ => []

/-- **What a connection hears.** -/
structure Hearing where
  /-- The requests that it passes on, in order. -/
  requests : List String
  /-- How it ends. -/
  ending : Ending
  deriving DecidableEq, Repr

/-- What is heard if some requests are heard first. -/
def Hearing.behind (asked : List String) (later : Hearing) : Hearing :=
  ⟨asked ++ later.requests, later.ending⟩

/-- **What a connection hears** in a stream that the peer ends or does not end. -/
def hear (limit : Nat) (ended : Bool) (stream : Bytes) : Hearing :=
  if _ : (window limit stream).1 = [] then
    ⟨[], if ended ∨ windowSize limit = 0 then .atEnd else .waiting⟩
  else if ¬ ended ∧ isPartial limit (window limit stream).1 then ⟨[], .waiting⟩
  else
    match classify limit (window limit stream).1 with
    | .notText => ⟨[], .notText⟩
    | .tooLong => ⟨[], .tooLong⟩
    | .blank => hear limit ended (window limit stream).2
    | .request text => (hear limit ended (window limit stream).2).behind [text]
termination_by stream.length
decreasing_by
  all_goals exact drop_window_lt (by assumption)

/-- **Requests handled one after the other**, the first of which has a given number on its
connection: the replies, and the backend afterwards. -/
def handleAll (snapshot : ProcessSnapshot) (clock : Nat → Instant) (number : Nat)
    (backend : Backend) : List String → List Reply × Backend
  | [] => ([], backend)
  | text :: rest =>
    let handled := handle snapshot backend (clock number) text
    let later := handleAll snapshot clock (number + 1) handled.2 rest
    (handled.1 :: later.1, later.2)

/-- There is one reply for each request. -/
theorem length_handleAll (snapshot : ProcessSnapshot) (clock : Nat → Instant) (number : Nat)
    (backend : Backend) (requests : List String) :
    (handleAll snapshot clock number backend requests).1.length = requests.length := by
  induction requests generalizing number backend with
  | nil => rfl
  | cons text rest ih => exact congrArg (· + 1) (ih _ _)

/-! ### Serving is hearing and handling -/

theorem serveFrom_eq (terms : Terms) (done : List Reply) (backend : Backend) (stream : Bytes) :
    serveFrom terms done none backend stream =
      let heard := hear terms.limit terms.ended stream
      let handled := handleAll terms.snapshot terms.clock done.length backend heard.requests
      (done.reverse ++ handled.1 ++ heard.ending.parting terms.limit, handled.2) := by
  rw [serveFrom, hear]
  -- Both look at the same window, so both stop or go on in the same case.
  by_cases hread : (window terms.limit stream).1 = []
  · simp only [hread, dite_true]
    split <;> simp [handleAll, Ending.parting]
  simp only [hread, dite_false]
  by_cases hwaits : ¬terms.ended = true ∧ isPartial terms.limit (window terms.limit stream).1 = true
  · simp only [if_pos hwaits]
    simp [handleAll, Ending.parting]
  simp only [if_neg hwaits]
  cases hclass : classify terms.limit (window terms.limit stream).1 with
  | notText => simp [handleAll, Ending.parting]
  | tooLong => simp [handleAll, Ending.parting, Outlet.take_none]
  | blank => exact serveFrom_eq terms done backend (window terms.limit stream).2
  | request text =>
    simp only [Outlet.take_none]
    rw [serveFrom_eq]
    simp [handleAll, Hearing.behind]
termination_by stream.length
decreasing_by
  all_goals exact drop_window_lt (by assumption)

/-- **Serving a peer that keeps up is hearing and handling**: its requests are handled one after the
other, and if one of its lines is too long, there is one reply more. -/
theorem serveStream_eq (terms : Terms) (backend : Backend) (stream : Bytes) :
    serveStream terms none backend stream =
      let heard := hear terms.limit terms.ended stream
      let handled := handleAll terms.snapshot terms.clock 0 backend heard.requests
      (handled.1 ++ heard.ending.parting terms.limit, handled.2) :=
  serveFrom_eq terms [] backend stream

/-! ### What is heard at the beginning of a line -/

section Line

variable {limit : Nat} {ended : Bool}

theorem hear_nil (limit : Nat) : hear limit true [] = ⟨[], .atEnd⟩ := by
  have hwindow : (window limit []).1 = [] := by
    have happend := window_append limit []
    exact (List.append_eq_nil_iff.mp happend).1
  rw [hear, dif_pos hwindow]
  rfl

/-- **What is heard when a piece of a line is read**, by the content of that piece. -/
theorem hear_piece {stream piece ending rest : Bytes}
    (hwindow : window limit stream = (piece ++ ending, rest)) (hread : piece ++ ending ≠ [])
    (hcomplete : ended = true ∨ isPartial limit (piece ++ ending) = false)
    (hpiece : newline ∉ piece) (hending : ending = [] ∨ ending = [newline]) :
    hear limit ended stream =
      if ¬Utf8.IsText (content piece) then ⟨[], .notText⟩
      else if limit < (content piece).length then ⟨[], .tooLong⟩
      else (hear limit ended rest).behind (request? (content piece)).toList := by
  rw [hear, hwindow, dif_neg hread, if_neg (by rcases hcomplete with h | h <;> simp [h]),
    classify_line limit hpiece hending]
  by_cases htext : Utf8.IsText (content piece)
  · rw [if_neg (not_not.mpr htext), if_neg (not_not.mpr htext)]
    by_cases hlong : limit < (content piece).length
    · rw [if_pos hlong, if_pos hlong]
    · rw [if_neg hlong, if_neg hlong]
      cases request? (content piece) <;> rfl
  · rw [if_pos htext, if_pos htext]

/-- **What stands behind a line**, and what is heard of it: a newline and what there is to hear
behind that, or nothing, if the peer has ended the stream. -/
inductive Follows (limit : Nat) (ended : Bool) : Bytes → Hearing → Prop where
  /-- A newline. -/
  | line (rest : Bytes) : Follows limit ended (newline :: rest) (hear limit ended rest)
  /-- The end of the stream. -/
  | atEnd (h : ended = true) : Follows limit ended [] ⟨[], .atEnd⟩

/-- **A line that the window holds** is heard as a whole. -/
theorem hear_short (hlimit : limit + 1 < sizes) {line more : Bytes} {later : Hearing}
    (hline : newline ∉ line) (hshort : line.length ≤ limit)
    (hmore : Follows limit ended more later) :
    hear limit ended (line ++ more) =
      if Utf8.IsText (content line) then later.behind (request? (content line)).toList
      else ⟨[], .notText⟩ := by
  have hfits : ¬limit < (content line).length := by
    have := length_content_le line
    omega
  cases hmore with
  | line rest =>
    rw [hear_piece (window_line hlimit hline hshort rest) (by simp) (Or.inr (by simp [isPartial]))
      hline (Or.inr rfl), if_neg hfits, ite_not]
  | atEnd h =>
    subst h
    rw [List.append_nil]
    by_cases hempty : line = []
    · subst hempty
      rw [hear_nil]
      rfl
    · have hwindow : window limit line = (line ++ [], []) := by
        rw [List.append_nil, window_last hlimit hline hshort]
      rw [hear_piece hwindow (by simpa using hempty) (Or.inl rfl) hline (Or.inl rfl), if_neg hfits,
        ite_not, hear_nil]

/-- **A line that the window does not hold** is heard piece by piece: its first piece is taken for
the front of a line that is too long, unless it is no text or its last byte, the one that is read
beyond the limit, is a carriage return. -/
theorem hear_long (hlimit : limit + 1 < sizes) {line : Bytes} (hline : newline ∉ line)
    (hlong : limit < line.length) (more : Bytes) :
    hear limit ended (line ++ more) =
      if ¬Utf8.IsText (line.take (limit + 1)) then ⟨[], .notText⟩
      else if (line.take (limit + 1)).getLast? ≠ some carriageReturn then ⟨[], .tooLong⟩
      else (hear limit ended (line.drop (limit + 1) ++ more)).behind
        (request? (content (line.take (limit + 1)))).toList := by
  have hlength : (line.take (limit + 1)).length = limit + 1 := by
    rw [List.length_take]
    omega
  have hwindow := window_long hlimit hline hlong more
  rw [← List.append_nil (line.take (limit + 1))] at hwindow
  have hread : line.take (limit + 1) ++ [] ≠ [] := by
    intro h
    rw [List.append_nil] at h
    rw [h] at hlength
    simp at hlength
  have hfull : isPartial limit (line.take (limit + 1) ++ []) = false := by
    rw [List.append_nil, isPartial, hlength, decide_eq_false (by omega)]
    rfl
  have hpiece : newline ∉ line.take (limit + 1) := fun h => hline (List.mem_of_mem_take h)
  -- The piece has one byte too many, so it is too long exactly if no byte of it is dropped.
  have hover : limit < (content (line.take (limit + 1))).length ↔
      (line.take (limit + 1)).getLast? ≠ some carriageReturn := by
    rw [← content_eq_self_iff]
    constructor
    · intro h
      refine (List.rdropWhile_prefix _ _).eq_of_length_le ?_
      rw [hlength]
      exact h
    · intro h
      rw [h, hlength]
      omega
  rw [hear_piece hwindow hread (Or.inr hfull) hpiece (Or.inl rfl)]
  simp only [isText_content, hover]

/-- **A line whose content fits** is heard as a whole, wherever the carriage returns behind its
content are cut: what is cut off is a line of carriage returns, and nothing is heard of that. -/
theorem hear_fits (hlimit : limit + 1 < sizes) {line more : Bytes} {later : Hearing}
    (hline : newline ∉ line) (hfits : (content line).length ≤ limit)
    (hmore : Follows limit ended more later) :
    hear limit ended (line ++ more) =
      if Utf8.IsText (content line) then later.behind (request? (content line)).toList
      else ⟨[], .notText⟩ := by
  by_cases hshort : line.length ≤ limit
  · exact hear_short hlimit hline hshort hmore
  -- The window ends among the carriage returns: its piece has the content of the line, and what is
  -- cut off has none.
  obtain ⟨count, hcount⟩ := exists_returns line
  have hlength := congrArg List.length hcount
  rw [List.length_append, List.length_replicate] at hlength
  have hfront : line.take (limit + 1) =
      content line ++ List.replicate (limit + 1 - (content line).length) carriageReturn := by
    conv_lhs => rw [hcount]
    rw [List.take_append, List.take_of_length_le (by omega), List.take_replicate,
      Nat.min_eq_left (by omega)]
  have hback : line.drop (limit + 1) =
      List.replicate (line.length - (limit + 1)) carriageReturn := by
    conv_lhs => rw [hcount]
    rw [List.drop_append, List.drop_of_length_le (by omega), List.drop_replicate, List.nil_append]
    congr 1
    omega
  have hcontent : content (line.take (limit + 1)) = content line := by
    rw [hfront, content_append_returns, content_content]
  have hreturn : (line.take (limit + 1)).getLast? = some carriageReturn := by
    rw [hfront, List.getLast?_append_of_ne_nil _ (by simp; omega), List.getLast?_replicate,
      if_neg (by omega)]
  have hblank : content (line.drop (limit + 1)) = [] := by
    rw [hback, ← List.nil_append (List.replicate _ _), content_append_returns]
    rfl
  have hlater : hear limit ended (line.drop (limit + 1) ++ more) = later := by
    rw [hear_fits hlimit (fun h => hline (List.mem_of_mem_drop h)) (by simp [hblank]) hmore,
      hblank]
    rfl
  have htext : Utf8.IsText (line.take (limit + 1)) ↔ Utf8.IsText (content line) := by
    rw [← isText_content, hcontent]
  rw [hear_long hlimit hline (by omega) more, hlater, hcontent, if_neg (not_not.mpr hreturn),
    ite_not]
  simp only [htext]
termination_by line.length
decreasing_by
  rw [List.length_drop]
  omega

end Line

end Rpc

end TaskDaemon
