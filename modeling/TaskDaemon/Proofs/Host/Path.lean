import Mathlib.Data.List.Basic
import Mathlib.Data.List.DropRight
import TaskDaemon.Host.Path

/-!
# Paths and their directory parts

The directory part of a path is found by its text: what is between the slashes is cut off from the
end, and what says nothing with it. To the system a path is a list of steps. Here the two views are
brought together: the directory part of a path makes all its steps but the last, starts where it
starts, and is nowhere longer than it.

* `TaskDaemon.Path.steps`: the steps of a path;
* `TaskDaemon.Path.pieces_join`: pieces are found again between the slashes that join them;
* `TaskDaemon.Path.steps_parent`, `TaskDaemon.Path.isAbsolute_parent` and
  `TaskDaemon.Path.parent_isPrefix`: what is known of a directory part.
-/

namespace TaskDaemon

namespace Path

/-! ### Pieces -/

theorem pieces_eq_splitOn (bytes : Bytes) : pieces bytes = bytes.splitOn slash := by
  induction bytes with
  | nil => rfl
  | cons byte bytes ih =>
    rw [pieces, ih, List.splitOn, List.splitOn, List.splitOnP_cons_eq_if_modifyHead]
    by_cases hbyte : byte = slash
    · rw [if_pos hbyte, if_pos (by simpa using hbyte)]
    · rw [if_neg hbyte, if_neg (by simpa using hbyte)]
      cases hpieces : List.splitOnP (· == slash) bytes with
      | nil => exact absurd hpieces (List.splitOnP_ne_nil _ _)
      | cons piece more => rfl

theorem join_eq_intercalate (parts : List Bytes) : join parts = [slash].intercalate parts := by
  fun_induction join parts with
  | case1 => rfl
  | case2 piece => simp
  | case3 piece rest hrest ih =>
    obtain ⟨next, more, rfl⟩ := List.exists_cons_of_ne_nil hrest
    rw [ih, List.intercalate_cons_cons, List.append_assoc]
    rfl

theorem pieces_ne_nil (bytes : Bytes) : pieces bytes ≠ [] := by
  rw [pieces_eq_splitOn]
  exact List.splitOnP_ne_nil _ _

theorem join_pieces (bytes : Bytes) : join (pieces bytes) = bytes := by
  rw [join_eq_intercalate, pieces_eq_splitOn]
  exact List.intercalate_splitOn slash

/-- **Pieces without slashes are found again** between the slashes that join them. -/
theorem pieces_join {parts : List Bytes} (hslash : ∀ part ∈ parts, slash ∉ part)
    (hparts : parts ≠ []) : pieces (join parts) = parts := by
  rw [join_eq_intercalate, pieces_eq_splitOn]
  exact List.splitOn_intercalate slash hslash hparts

theorem slash_not_mem_pieces (bytes : Bytes) : ∀ piece ∈ pieces bytes, slash ∉ piece := by
  induction bytes with
  | nil => simp [pieces]
  | cons byte bytes ih =>
    rw [pieces]
    by_cases hbyte : byte = slash
    · rw [if_pos hbyte]
      simpa using ih
    · rw [if_neg hbyte]
      cases hpieces : pieces bytes with
      | nil => exact absurd hpieces (pieces_ne_nil _)
      | cons piece more =>
        rw [hpieces, List.forall_mem_cons] at ih
        simpa [Ne.symm hbyte] using ih

/-- Fewer pieces make a shorter text. -/
theorem join_isPrefix {parts more : List Bytes} (h : parts <+: more) :
    join parts <+: join more := by
  obtain ⟨rest, rfl⟩ := h
  fun_induction join parts with
  | case1 => exact List.nil_prefix
  | case2 piece =>
    cases rest with
    | nil => exact List.prefix_rfl
    | cons next rest => exact List.prefix_append _ _
  | case3 piece parts hparts ih =>
    obtain ⟨next, parts, rfl⟩ := List.exists_cons_of_ne_nil hparts
    exact (List.prefix_append_right_inj piece).mpr (List.cons_prefix_cons.mpr ⟨rfl, ih⟩)

/-! ### Steps -/

/-- The pieces of a text that say something. -/
def telling (bytes : Bytes) : List Bytes :=
  (pieces bytes).filter fun piece => !isIdle piece

/-- **The steps of a path**: its names without the dots that leave one where one is. -/
def steps (path : Path) : List Bytes :=
  path.names.filter (· ≠ dot)

theorem steps_eq_telling (path : Path) : path.steps = telling path.bytes := by
  rw [steps, names, telling, List.filter_filter]
  refine List.filter_congr fun piece _ => ?_
  simp only [isIdle]
  grind

theorem telling_slash (bytes : Bytes) : telling (slash :: bytes) = telling bytes := by
  rw [telling, pieces, if_pos rfl, List.filter_cons_of_neg (by simp [isIdle])]
  rfl

/-- A dot in front of a slash says nothing. -/
theorem telling_dot {bytes : Bytes} (h : bytes = [] ∨ bytes.head? = some slash) :
    telling (dot ++ bytes) = telling bytes := by
  rcases h with rfl | h
  · decide
  · obtain ⟨rest, rfl⟩ := List.head?_eq_some_iff.mp h
    rw [telling_slash, telling, dot, List.singleton_append, pieces, if_neg (by decide), pieces,
      if_pos rfl]
    exact List.filter_cons_of_neg (by decide)

/-- What is joined says what its parts say. -/
theorem telling_join {parts : List Bytes} (hslash : ∀ part ∈ parts, slash ∉ part) :
    telling (join parts) = parts.filter fun piece => !isIdle piece := by
  cases parts with
  | nil => rfl
  | cons part parts => rw [telling, pieces_join hslash (List.cons_ne_nil _ _)]

theorem withoutIdleEnd_eq_rdropWhile (parts : List Bytes) :
    withoutIdleEnd parts = parts.rdropWhile isIdle :=
  rfl

theorem withoutIdleEnd_isPrefix (parts : List Bytes) : withoutIdleEnd parts <+: parts := by
  rw [withoutIdleEnd_eq_rdropWhile]
  exact List.rdropWhile_prefix isIdle parts

/-- What is cut off at the end says nothing. -/
theorem filter_withoutIdleEnd (parts : List Bytes) :
    (withoutIdleEnd parts).filter (fun piece => !isIdle piece) =
      parts.filter fun piece => !isIdle piece := by
  rw [withoutIdleEnd_eq_rdropWhile]
  induction parts using List.reverseRecOn with
  | nil => rfl
  | append_singleton parts last ih =>
    by_cases hlast : isIdle last
    · rw [List.rdropWhile_concat_pos _ _ _ hlast, List.filter_append,
        List.filter_cons_of_neg (by simpa using hlast), List.filter_nil, List.append_nil]
      exact ih
    · rw [List.rdropWhile_concat_neg _ _ _ hlast]

/-- **The last part that is kept says something**, so that without it there is one word less. -/
theorem filter_dropLast_withoutIdleEnd (parts : List Bytes) :
    (withoutIdleEnd parts).dropLast.filter (fun piece => !isIdle piece) =
      (parts.filter fun piece => !isIdle piece).dropLast := by
  rw [← filter_withoutIdleEnd parts]
  by_cases hempty : withoutIdleEnd parts = []
  · rw [hempty]
    rfl
  · have hlast : ¬ isIdle ((withoutIdleEnd parts).getLast hempty) :=
      List.rdropWhile_last_not isIdle parts hempty
    conv_rhs => rw [← List.dropLast_append_getLast hempty]
    rw [List.filter_append, List.filter_cons_of_pos (by simpa using hlast), List.filter_nil,
      List.dropLast_concat]

/-! ### The directory part -/

/-- **How a path starts**: with a slash, with a dot that says nothing, or with its first piece. -/
theorem lead_cases (bytes : Bytes) :
    (∃ rest, bytes = slash :: rest ∧ lead bytes = ([slash], rest)) ∨
      (∃ rest, bytes = dot ++ rest ∧ lead bytes = (dot, rest) ∧
        (rest = [] ∨ rest.head? = some slash)) ∨
      lead bytes = ([], bytes) := by
  cases bytes with
  | nil => exact Or.inr (Or.inr rfl)
  | cons byte rest =>
    by_cases hslash : byte = slash
    · exact Or.inl ⟨rest, by rw [hslash], by rw [lead, if_pos (Or.inl hslash), hslash]⟩
    · by_cases hdot : byte = 46 ∧ (rest = [] ∨ rest.head? = some slash)
      · refine Or.inr (Or.inl ⟨rest, by rw [hdot.1]; rfl, ?_, hdot.2⟩)
        rw [lead, if_pos (Or.inr hdot), hdot.1]
        rfl
      · refine Or.inr (Or.inr ?_)
        rw [lead, if_neg (not_or.mpr ⟨hslash, hdot⟩)]

/-- The beginning of a path and what is behind it. -/
theorem lead_append (bytes : Bytes) : (lead bytes).1 ++ (lead bytes).2 = bytes := by
  rcases lead_cases bytes with ⟨rest, hbytes, hlead⟩ | ⟨rest, hbytes, hlead, -⟩ | hlead
  · rw [hlead, hbytes]
    rfl
  · rw [hlead, hbytes]
  · rw [hlead]
    rfl

/-- **The beginning of a path says nothing** of the steps that are made. -/
theorem telling_lead (bytes : Bytes) {parts : List Bytes}
    (hparts : parts <+: pieces (lead bytes).2) :
    telling ((lead bytes).1 ++ join parts) = parts.filter fun piece => !isIdle piece := by
  rw [← telling_join fun part hpart => slash_not_mem_pieces _ part (hparts.mem hpart)]
  rcases lead_cases bytes with ⟨rest, -, hlead⟩ | ⟨rest, -, hlead, hrest⟩ | hlead
  · rw [hlead]
    exact telling_slash _
  · rw [hlead] at hparts ⊢
    refine telling_dot ?_
    -- what is joined is a beginning of what follows the dot
    have hjoin : join parts <+: rest := by
      rw [← join_pieces rest]
      exact join_isPrefix hparts
    rcases hrest with rfl | hrest
    · exact Or.inl (List.prefix_nil.mp hjoin)
    · cases hempty : join parts with
      | nil => exact Or.inl rfl
      | cons byte more =>
        obtain ⟨back, hback⟩ := hjoin
        rw [hempty] at hback
        rw [← hback] at hrest
        exact Or.inr hrest
  · rw [hlead]
    rfl

/-- **What a directory part is made of**: it is empty, or the beginning of the path and the pieces
behind it without the last one. -/
theorem parent?_eq_some {path parent : Path} (h : path.parent? = some parent) :
    ((withoutIdleEnd (pieces (lead path.bytes).2)) = [] ∧ parent.bytes = []) ∨
      parent.bytes = (lead path.bytes).1 ++
        join (withoutIdleEnd (withoutIdleEnd (pieces (lead path.bytes).2)).dropLast) := by
  rw [parent?] at h
  cases hparts : withoutIdleEnd (pieces (lead path.bytes).2) with
  | nil =>
    simp only [hparts] at h
    split_ifs at h
    exact Or.inl ⟨rfl, by rw [← Option.some.inj h]⟩
  | cons part parts =>
    simp only [hparts] at h
    exact Or.inr (by rw [← Option.some.inj h])

/-- The pieces of a directory part are among those of the path. -/
theorem kept_isPrefix (bytes : Bytes) :
    withoutIdleEnd (withoutIdleEnd (pieces bytes)).dropLast <+: pieces bytes :=
  ((withoutIdleEnd_isPrefix _).trans (List.dropLast_prefix _)).trans (withoutIdleEnd_isPrefix _)

/-- **The directory part of a path makes all its steps but the last.** -/
theorem steps_parent {path parent : Path} (h : path.parent? = some parent) :
    parent.steps = path.steps.dropLast := by
  have hpath : path.steps = (pieces (lead path.bytes).2).filter fun piece => !isIdle piece := by
    rw [steps_eq_telling, ← telling_lead path.bytes List.prefix_rfl, join_pieces, lead_append]
  rw [hpath, ← filter_dropLast_withoutIdleEnd, steps_eq_telling]
  rcases parent?_eq_some h with ⟨hempty, hparent⟩ | hparent
  · rw [hempty, hparent]
    rfl
  · rw [hparent, telling_lead path.bytes (kept_isPrefix _), filter_withoutIdleEnd]

/-- **The directory part stands in front of a path.** -/
theorem parent_isPrefix {path parent : Path} (h : path.parent? = some parent) :
    parent.bytes <+: path.bytes := by
  rcases parent?_eq_some h with ⟨-, hparent⟩ | hparent
  · rw [hparent]
    exact List.nil_prefix
  · rw [hparent]
    conv_rhs => rw [← lead_append path.bytes, ← join_pieces (lead path.bytes).2]
    exact (List.prefix_append_right_inj _).mpr (join_isPrefix (kept_isPrefix _))

/-- **A directory part that is not empty starts where the path starts.** -/
theorem isAbsolute_parent {path parent : Path} (h : path.parent? = some parent)
    (hempty : parent.isEmpty = false) : parent.isAbsolute = path.isAbsolute := by
  obtain ⟨rest, hrest⟩ := parent_isPrefix h
  rw [isAbsolute, isAbsolute, ← hrest]
  cases hbytes : parent.bytes with
  | nil => rw [isEmpty, hbytes] at hempty; exact absurd hempty (by decide)
  | cons byte bytes => rfl

end Path

end TaskDaemon
