import Mathlib.Data.List.Nodup
import TaskDaemon.Store.Basic

/-!
# The order of a listing

Tasks are listed by their time of creation, and tasks of the same time by the number of their
creation. So a listing does not depend on the order in which the entries of the store are come upon
(`TaskDaemon.Store.mergeSort_createdBefore_perm`), and for entries that are already in the order of
their numbers it is the stable sort by time alone (`TaskDaemon.Store.mergeSort_createdBefore_eq`).
-/

namespace TaskDaemon

namespace Instant

theorem le_iff (a b : Instant) :
    le a b = true ↔ a.seconds < b.seconds ∨ a.seconds = b.seconds ∧ a.nanos ≤ b.nanos := by
  simp [le]

theorem le_trans' {a b c : Instant} (hab : le a b = true) (hbc : le b c = true) :
    le a c = true := by
  rw [le_iff] at *
  omega

theorem le_total' (a b : Instant) : (le a b || le b a) = true := by
  rw [Bool.or_eq_true, le_iff, le_iff]
  omega

/-- **Comparing is asking twice**, once from either side. -/
theorem compare_eq (a b : Instant) :
    compare a b = if le a b then if le b a then .eq else .lt else .gt := by
  unfold compare
  simp only [le_iff]
  rcases Int.lt_trichotomy a.seconds b.seconds with hs | hs | hs
  · rw [if_pos hs, if_pos (Or.inl hs), if_neg (by omega)]
  · rw [if_neg (by omega), if_neg (by omega)]
    rcases Nat.lt_trichotomy a.nanos b.nanos with hn | hn | hn
    · rw [Nat.compare_eq_lt.mpr hn, if_pos (by omega), if_neg (by omega)]
    · rw [Nat.compare_eq_eq.mpr hn, if_pos (by omega), if_pos (by omega)]
    · rw [Nat.compare_eq_gt.mpr hn, if_neg (by omega)]
  · rw [if_neg (by omega), if_pos hs, if_neg (by omega)]

end Instant

namespace Store

/-- **Not created later than**, spelt out: earlier, or at the same time and not numbered higher. -/
theorem createdBefore_iff (a b : StoredTask) :
    createdBefore a b = true ↔
      a.task.createdAt.le b.task.createdAt = true ∧
        (b.task.createdAt.le a.task.createdAt = true → a.sequence ≤ b.sequence) := by
  unfold createdBefore
  rw [Instant.compare_eq]
  by_cases hle : a.task.createdAt.le b.task.createdAt = true
  · by_cases hge : b.task.createdAt.le a.task.createdAt = true
    · simp [hle, hge]
    · simp [hle, hge]
  · simp [hle]

theorem createdBefore_trans (a b c : StoredTask) (hab : createdBefore a b = true)
    (hbc : createdBefore b c = true) : createdBefore a c = true := by
  rw [createdBefore_iff, Instant.le_iff, Instant.le_iff] at *
  omega

theorem createdBefore_total (a b : StoredTask) :
    (createdBefore a b || createdBefore b a) = true := by
  rw [Bool.or_eq_true, createdBefore_iff, createdBefore_iff, Instant.le_iff, Instant.le_iff]
  omega

/-- Of two stored tasks, each not created later than the other, the numbers are the same. -/
theorem sequence_eq_of_createdBefore {a b : StoredTask} (hab : createdBefore a b = true)
    (hba : createdBefore b a = true) : a.sequence = b.sequence := by
  rw [createdBefore_iff] at hab hba
  have := hab.2 hba.1
  have := hba.2 hab.1
  omega

/-- **A listing does not depend on the order of what is listed**, as long as no number stands
twice. -/
theorem mergeSort_createdBefore_perm {rows rows' : List StoredTask} (hperm : rows.Perm rows')
    (hnodup : (rows.map StoredTask.sequence).Nodup) :
    rows.mergeSort createdBefore = rows'.mergeSort createdBefore := by
  have hsorted : ∀ rows : List StoredTask,
      (rows.mergeSort createdBefore).Pairwise (createdBefore · · = true) :=
    List.pairwise_mergeSort createdBefore_trans createdBefore_total
  have hsame : (rows.mergeSort createdBefore).Perm (rows'.mergeSort createdBefore) :=
    ((rows.mergeSort_perm _).trans hperm).trans (rows'.mergeSort_perm _).symm
  refine hsame.eq_of_pairwise (fun a b ha hb hab hba => ?_) (hsorted rows) (hsorted rows')
  have ha' : a ∈ rows := List.mem_mergeSort.mp ha
  have hb' : b ∈ rows := hperm.mem_iff.mpr (List.mem_mergeSort.mp hb)
  exact List.inj_on_of_nodup_map hnodup ha' hb' (sequence_eq_of_createdBefore hab hba)

/-- Not created later than, by time alone. -/
def notLater (a b : StoredTask) : Bool :=
  a.task.createdAt.le b.task.createdAt

/-- **What is in the order of its numbers is listed by a stable sort**: ties between equal times
stay as they are, which is the order of the numbers. -/
theorem mergeSort_createdBefore_eq {rows : List StoredTask}
    (hrows : rows.Pairwise fun a b => a.sequence < b.sequence) :
    rows.mergeSort createdBefore = rows.mergeSort notLater := by
  -- A stable sort compares places where times are equal, and here places are ordered as numbers.
  have hplaces : ∀ a ∈ rows.zipIdx, ∀ b ∈ rows.zipIdx,
      List.zipIdxLE notLater a b = createdBefore a.1 b.1 := by
    intro ⟨a, i⟩ ha ⟨b, j⟩ hb
    obtain ⟨hi, hai⟩ := List.mem_zipIdx' ha
    obtain ⟨hj, hbj⟩ := List.mem_zipIdx' hb
    have hnumbers : i ≤ j ↔ a.sequence ≤ b.sequence := by
      rw [hai, hbj]
      rcases Nat.lt_trichotomy i j with hij | rfl | hij
      · have := List.pairwise_iff_getElem.mp hrows i j hi hj hij
        omega
      · simp
      · have := List.pairwise_iff_getElem.mp hrows j i hj hi hij
        omega
    rw [Bool.eq_iff_iff, createdBefore_iff]
    unfold List.zipIdxLE
    simp only [notLater, hnumbers]
    split
    · next hle => simp [hle, imp_iff_not_or]
    · next hle => simp [hle]
  have hsort := List.map_mergeSort hplaces
  rw [List.zipIdx_map_fst] at hsort
  exact hsort.symm.trans List.mergeSort_zipIdx

end Store

end TaskDaemon
