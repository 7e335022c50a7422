import TaskDaemon.Proofs.Text.Utf8
import TaskDaemon.Rpc.Connection

/-!
# Lines of a stream

A connection knows windows; what it is meant to know is lines. Here lines are what is left of a
stream when it is split at its newlines, their content is what stands before their last carriage
returns, and a window is described by the line that it cuts.

* `TaskDaemon.Rpc.lines`, `TaskDaemon.Rpc.content`: lines and what they hold;
* `TaskDaemon.Rpc.request?`: the request of a content, if it is text and not blank;
* `TaskDaemon.Rpc.classify_eq`: what a window is taken for depends on its content only;
* `TaskDaemon.Rpc.window_line`, `TaskDaemon.Rpc.window_last`, `TaskDaemon.Rpc.window_long`: the
  window at the beginning of a line, which holds the line with its newline, or all that is left, or
  as many bytes of the line as it can.
-/

namespace TaskDaemon

namespace Rpc

/-- The carriage return as a byte. -/
def carriageReturn : UInt8 := 13

/-- A byte that may stand where a line ends. -/
def isLineEnd (byte : UInt8) : Bool :=
  byte = carriageReturn || byte = newline

/-- **The lines of a stream**: what stands before, between and behind its newlines. -/
def lines (stream : Bytes) : List Bytes :=
  stream.splitOn newline

/-- **The content of a line**: its bytes without the carriage returns at its end. -/
def content (line : Bytes) : Bytes :=
  line.rdropWhile fun byte => byte = carriageReturn

/-- **The request of a content**: its text without the blanks around it, if it is text and there is
more to it than blanks. -/
def request? (content : Bytes) : Option String :=
  match Utf8.decode content with
  | .error _ => none
  | .ok text => if IsBlankText text then none else some (String.ofList (trim text))

/-! ### Splitting at newlines -/

theorem lines_of_not_mem {line : Bytes} (h : newline ∉ line) : lines line = [line] :=
  List.splitOnP_eq_singleton fun byte hbyte => by
    simp only [beq_eq_false_iff_ne]
    rintro rfl
    exact h hbyte

theorem lines_append {line : Bytes} (h : newline ∉ line) (rest : Bytes) :
    lines (line ++ newline :: rest) = line :: lines rest := by
  refine List.splitOnP_append_cons_of_forall_mem (fun byte hbyte => ?_) newline (by simp) rest
  simp only [beq_eq_false_iff_ne]
  rintro rfl
  exact h hbyte

theorem lines_ne_nil (stream : Bytes) : lines stream ≠ [] :=
  List.splitOnP_ne_nil _ _

/-- **A stream begins with a line**: it is one line, or one line with its newline and a stream. -/
theorem exists_line (stream : Bytes) :
    ∃ line, newline ∉ line ∧ (stream = line ∨ ∃ rest, stream = line ++ newline :: rest) := by
  induction stream with
  | nil => exact ⟨[], by simp, Or.inl rfl⟩
  | cons byte stream ih =>
    by_cases hbyte : byte = newline
    · exact ⟨[], by simp, Or.inr ⟨stream, by rw [hbyte]; rfl⟩⟩
    obtain ⟨line, hline, hstream⟩ := ih
    refine ⟨byte :: line, by simp [hline, Ne.symm hbyte], ?_⟩
    rcases hstream with rfl | ⟨rest, rfl⟩
    · exact Or.inl rfl
    · exact Or.inr ⟨rest, rfl⟩

/-- **Induction on the lines of a stream**: what holds of a stream of one line, and of every line in
front of a stream of which it holds, holds of all streams. -/
@[elab_as_elim]
theorem linewise {motive : Bytes → Prop} (last : ∀ line, newline ∉ line → motive line)
    (front : ∀ line rest, newline ∉ line → motive rest → motive (line ++ newline :: rest))
    (stream : Bytes) : motive stream := by
  obtain ⟨line, hline, hstream⟩ := exists_line stream
  rcases hstream with hstream | ⟨rest, hstream⟩
  · rw [hstream]
    exact last line hline
  · rw [hstream]
    exact front line rest hline (linewise last front rest)
termination_by stream.length
decreasing_by
  rw [hstream, List.length_append, List.length_cons]
  omega

/-- Lines with their newlines. -/
def terminated (lines : List Bytes) : Bytes :=
  lines.flatMap fun line => line ++ [newline]

/-- **The first lines of a stream** stand in front of the others with their newlines. -/
theorem exists_back (stream : Bytes) {before after : List Bytes} (hafter : after ≠ [])
    (hlines : lines stream = before ++ after) :
    ∃ back, lines back = after ∧ stream = terminated before ++ back ∧
      ∀ line ∈ before, newline ∉ line := by
  induction stream using linewise generalizing before with
  | last line hline =>
    rcases before with _ | ⟨first, before⟩
    · exact ⟨line, hlines, rfl, by simp⟩
    · rw [lines_of_not_mem hline, List.cons_append] at hlines
      exact absurd (List.append_eq_nil_iff.mp (List.cons.inj hlines).2.symm).2 hafter
  | front line rest hline ih =>
    rcases before with _ | ⟨first, before⟩
    · exact ⟨line ++ newline :: rest, hlines, rfl, by simp⟩
    · rw [lines_append hline, List.cons_append] at hlines
      obtain ⟨rfl, hrest⟩ := List.cons.inj hlines
      obtain ⟨back, hback, hstream, hbefore⟩ := ih hrest
      refine ⟨back, hback, ?_, List.forall_mem_cons.mpr ⟨hline, hbefore⟩⟩
      rw [hstream]
      simp [terminated]

/-! ### Contents -/

theorem rdropWhile_append_of_forall {α : Type} {p : α → Bool} {tail : List α}
    (h : ∀ a ∈ tail, p a = true) (front : List α) :
    (front ++ tail).rdropWhile p = front.rdropWhile p := by
  unfold List.rdropWhile
  rw [List.reverse_append, List.dropWhile_append_of_pos]
  intro a ha
  exact h a (List.mem_reverse.mp ha)

/-- **A line is its content and carriage returns.** -/
theorem exists_returns (line : Bytes) :
    ∃ count, line = content line ++ List.replicate count carriageReturn := by
  have hsplit : content line ++ line.rtakeWhile (fun byte => byte = carriageReturn) = line :=
    List.rdropWhile_append_rtakeWhile
  have hreturns : ∀ byte ∈ line.rtakeWhile (fun byte => byte = carriageReturn),
      byte = carriageReturn := fun byte hbyte => by simpa using List.mem_rtakeWhile_imp hbyte
  rw [List.eq_replicate_of_mem hreturns] at hsplit
  exact ⟨_, hsplit.symm⟩

theorem content_append_returns (bytes : Bytes) (count : Nat) :
    content (bytes ++ List.replicate count carriageReturn) = content bytes :=
  rdropWhile_append_of_forall (by simp) bytes

theorem content_content (line : Bytes) : content (content line) = content line :=
  List.rdropWhile_idempotent _ _

theorem length_content_le (line : Bytes) : (content line).length ≤ line.length :=
  (List.rdropWhile_prefix _ line).length_le

/-- A line is its own content unless it ends in a carriage return. -/
theorem content_eq_self_iff (line : Bytes) :
    content line = line ↔ line.getLast? ≠ some carriageReturn := by
  unfold content
  rw [List.rdropWhile_eq_self_iff]
  rcases line.eq_nil_or_concat with rfl | ⟨front, byte, rfl⟩
  · simp
  · simp

/-- **A line is text exactly where its content is.** -/
theorem isText_content (line : Bytes) : Utf8.IsText (content line) ↔ Utf8.IsText line := by
  obtain ⟨count, hline⟩ := exists_returns line
  conv_rhs => rw [hline]
  refine (Utf8.isText_append_ascii _ _ fun byte hbyte => ?_).symm
  rw [List.eq_of_mem_replicate hbyte]
  decide

/-! ### What a window is taken for -/

theorem isLineEnd_lt {byte : UInt8} (h : isLineEnd byte = true) : byte.toNat < 0x80 := by
  rcases (Bool.or_eq_true _ _).mp h with h | h
  · rw [of_decide_eq_true h]
    decide
  · rw [of_decide_eq_true h]
    decide

/-- A line end among characters is a line end among bytes, and blank. -/
theorem encode_lineEnd {c : Char} (hc : c = '\r' ∨ c = '\n') :
    IsBlankText [c] ∧ ∃ byte, Utf8.encode [c] = [byte] ∧ isLineEnd byte = true := by
  rcases hc with rfl | rfl
  · exact ⟨by decide, carriageReturn, rfl, rfl⟩
  · exact ⟨by decide, newline, rfl, rfl⟩

/-- The last byte of any other character is no line end: it would be the whole character. -/
theorem exists_last_not_lineEnd {c : Char} (hc : ¬(c = '\r' ∨ c = '\n')) :
    ∃ front last, Utf8.encode [c] = front ++ [last] ∧ ¬isLineEnd last = true := by
  obtain ⟨front, last, hlast, hwhole⟩ := Utf8.encodeChar_eq_append c
  refine ⟨front, last, ?_, fun hend => ?_⟩
  · rw [Utf8.encode_cons, hlast, Utf8.encode_nil, List.append_nil]
  · obtain ⟨-, rfl⟩ := hwhole (isLineEnd_lt hend)
    rcases (Bool.or_eq_true _ _).mp hend with h | h
    · exact hc (Or.inl (by rw [of_decide_eq_true h]; rfl))
    · exact hc (Or.inr (by rw [of_decide_eq_true h]; rfl))

/-- **Line ends of a text are line ends of its bytes**: a text is its front without line ends and
blanks, and the bytes of that front are those of the text without line ends. -/
theorem exists_blank_end (text : List Char) :
    ∃ blanks, IsBlankText blanks ∧ text = withoutLineEnd text ++ blanks ∧
      Utf8.encode (withoutLineEnd text) = (Utf8.encode text).rdropWhile isLineEnd := by
  induction text using List.reverseRecOn with
  | nil => exact ⟨[], by decide, rfl, rfl⟩
  | append_singleton text c ih =>
    by_cases hc : c = '\r' ∨ c = '\n'
    · obtain ⟨blanks, hblanks, htext, hencode⟩ := ih
      obtain ⟨hblank, byte, hbyte, hend⟩ := encode_lineEnd hc
      have hdrop : withoutLineEnd (text ++ [c]) = withoutLineEnd text :=
        List.rdropWhile_concat_pos _ _ _ (by simpa using hc)
      refine ⟨blanks ++ [c], (isBlankText_append _ _).mpr ⟨hblanks, hblank⟩, ?_, ?_⟩
      · rw [hdrop, ← List.append_assoc, ← htext]
      · rw [hdrop, hencode, Utf8.encode_append, hbyte, List.rdropWhile_concat_pos _ _ _ hend]
    · obtain ⟨front, last, hlast, hnot⟩ := exists_last_not_lineEnd hc
      have hdrop : withoutLineEnd (text ++ [c]) = text ++ [c] :=
        List.rdropWhile_concat_neg _ _ _ (by simpa using hc)
      refine ⟨[], by decide, by rw [hdrop, List.append_nil], ?_⟩
      rw [hdrop, Utf8.encode_append, hlast, ← List.append_assoc,
        List.rdropWhile_concat_neg _ _ _ hnot]

/-- **What a window is taken for**, by its bytes without the line ends behind them. -/
theorem classify_eq (limit : Nat) (bytes : Bytes) :
    classify limit bytes =
      if ¬Utf8.IsText bytes then .notText
      else if limit < (bytes.rdropWhile isLineEnd).length then .tooLong
      else (request? (bytes.rdropWhile isLineEnd)).elim .blank .request := by
  by_cases htext : Utf8.IsText bytes
  · obtain ⟨text, rfl⟩ := htext
    obtain ⟨blanks, hblanks, hsplit, hencode⟩ := exists_blank_end text
    have htrim : trim text = trim (withoutLineEnd text) := by
      conv_lhs => rw [hsplit]
      exact trim_append_blank _ hblanks
    rw [if_neg (not_not.mpr (Utf8.isText_encode text)), ← hencode]
    unfold classify request?
    rw [(Utf8.decode_eq_ok_iff _ text).mpr rfl,
      (Utf8.decode_eq_ok_iff _ (withoutLineEnd text)).mpr rfl]
    simp only [htrim, List.isEmpty_iff, trim_eq_nil_iff]
    split
    · rfl
    · split <;> rfl
  · obtain ⟨fault, hfault⟩ := Utf8.exists_fault htext
    rw [if_pos htext]
    unfold classify
    rw [hfault]

/-- A line has no other line ends than its last carriage returns. -/
theorem rdropWhile_isLineEnd {line : Bytes} (h : newline ∉ line) :
    line.rdropWhile isLineEnd = content line := by
  obtain ⟨count, hline⟩ := exists_returns line
  conv_lhs => rw [hline]
  have hreturns : ∀ byte ∈ List.replicate count carriageReturn, isLineEnd byte = true := by
    intro byte hbyte
    rw [List.eq_of_mem_replicate hbyte]
    rfl
  rw [rdropWhile_append_of_forall hreturns, List.rdropWhile_eq_self_iff]
  intro hne hend
  rcases (Bool.or_eq_true _ _).mp hend with hlast | hlast
  · exact List.rdropWhile_last_not _ line hne hlast
  · have hmem := List.getLast_mem hne
    rw [of_decide_eq_true hlast] at hmem
    exact h ((List.rdropWhile_prefix _ line).subset hmem)

/-- **What a line is taken for**, with its newline or without it, by its content. -/
theorem classify_line (limit : Nat) {line ending : Bytes} (hline : newline ∉ line)
    (hending : ending = [] ∨ ending = [newline]) :
    classify limit (line ++ ending) =
      if ¬Utf8.IsText (content line) then .notText
      else if limit < (content line).length then .tooLong
      else (request? (content line)).elim .blank .request := by
  have htext : Utf8.IsText (line ++ ending) ↔ Utf8.IsText (content line) := by
    rw [isText_content]
    refine Utf8.isText_append_ascii line ending fun byte hbyte => ?_
    rcases hending with rfl | rfl
    · simp at hbyte
    · rw [List.mem_singleton.mp hbyte]
      decide
  have hcontent : (line ++ ending).rdropWhile isLineEnd = content line := by
    rw [← rdropWhile_isLineEnd hline]
    rcases hending with rfl | rfl
    · rw [List.append_nil]
    · exact List.rdropWhile_concat_pos _ _ _ rfl
  rw [classify_eq, hcontent]
  simp only [htext]

/-! ### The window at the beginning of a line -/

theorem windowSize_eq {limit : Nat} (h : limit + 1 < sizes) : windowSize limit = limit + 1 :=
  Nat.mod_eq_of_lt h

/-- A line that fits is read with its newline. -/
theorem windowFrom_line {line : Bytes} (hline : newline ∉ line) {size : Nat}
    (hsize : line.length < size) (done rest : Bytes) :
    windowFrom done size (line ++ newline :: rest) =
      (done.reverse ++ line ++ [newline], rest) := by
  induction line generalizing done size with
  | nil =>
    obtain ⟨size, rfl⟩ := Nat.exists_eq_add_of_lt hsize
    simp [windowFrom]
  | cons byte line ih =>
    obtain ⟨hbyte, hline⟩ := List.ne_and_not_mem_of_not_mem_cons hline
    rcases size with _ | size
    · simp at hsize
    · rw [List.cons_append, windowFrom, if_neg (Ne.symm hbyte),
        ih hline (by simpa using hsize)]
      simp

/-- Where no newline comes, everything that fits is read. -/
theorem windowFrom_of_not_mem {line : Bytes} (hline : newline ∉ line) (size : Nat)
    (hsize : line.length ≤ size) (done : Bytes) :
    windowFrom done size line = (done.reverse ++ line, []) := by
  induction line generalizing done size with
  | nil => cases size <;> simp [windowFrom]
  | cons byte line ih =>
    obtain ⟨hbyte, hline⟩ := List.ne_and_not_mem_of_not_mem_cons hline
    rcases size with _ | size
    · simp at hsize
    · rw [windowFrom, if_neg (Ne.symm hbyte), ih hline size (by simpa using hsize)]
      simp

/-- A line that does not fit is read as far as it does. -/
theorem windowFrom_long {line : Bytes} (hline : newline ∉ line) {size : Nat}
    (hsize : size ≤ line.length) (done more : Bytes) :
    windowFrom done size (line ++ more) =
      (done.reverse ++ line.take size, line.drop size ++ more) := by
  induction size generalizing done line with
  | zero => simp [windowFrom]
  | succ size ih =>
    rcases line with _ | ⟨byte, line⟩
    · simp at hsize
    · obtain ⟨hbyte, hline⟩ := List.ne_and_not_mem_of_not_mem_cons hline
      rw [List.cons_append, windowFrom, if_neg (Ne.symm hbyte),
        ih hline (by simpa using hsize)]
      simp

/-- **The window at a line that fits**: the line with its newline. -/
theorem window_line {limit : Nat} (hlimit : limit + 1 < sizes) {line : Bytes}
    (hline : newline ∉ line) (hfits : line.length ≤ limit) (rest : Bytes) :
    window limit (line ++ newline :: rest) = (line ++ [newline], rest) := by
  unfold window
  rw [windowSize_eq hlimit, windowFrom_line hline (by omega)]
  simp

/-- **The window at a last line that fits**: all of it. -/
theorem window_last {limit : Nat} (hlimit : limit + 1 < sizes) {line : Bytes}
    (hline : newline ∉ line) (hfits : line.length ≤ limit) : window limit line = (line, []) := by
  unfold window
  rw [windowSize_eq hlimit, windowFrom_of_not_mem hline _ (by omega)]
  simp

/-- **The window at a line that does not fit**: one byte more than may be sent. -/
theorem window_long {limit : Nat} (hlimit : limit + 1 < sizes) {line : Bytes}
    (hline : newline ∉ line) (hlong : limit < line.length) (more : Bytes) :
    window limit (line ++ more) = (line.take (limit + 1), line.drop (limit + 1) ++ more) := by
  unfold window
  rw [windowSize_eq hlimit, windowFrom_long hline hlong]
  simp

end Rpc

end TaskDaemon
