import Mathlib.Data.List.Induction
import Mathlib.Order.Nat
import TaskDaemon.Text.Blank
import TaskDaemon.Text.Decimal

/-!
# Digits of a number

What a reader of numerals has to know of the digits that were written: there is one, the first is
no zero but in zero itself, and zeros in front, up to a width, make no difference
(`TaskDaemon.Decimal.value_paddedDigits`, `TaskDaemon.Decimal.length_paddedDigits`). What is read is
bounded by how many digits are read (`TaskDaemon.Decimal.value_lt_pow`).
-/

namespace TaskDaemon

namespace Decimal

theorem digit?_digitChar : ∀ d < 10, digit? (digitChar d) = some d := by decide

/-- The digits of a number are not none. -/
theorem digits_ne_nil (n : Nat) : digits n ≠ [] := by
  unfold digits
  split <;> simp

/-- **No zero stands in front**, but that of zero itself. -/
theorem digits_eq_zero_cons {n : Nat} {ds : List Nat} (h : digits n = 0 :: ds) :
    n = 0 ∧ ds = [] := by
  induction n using digits.induct generalizing ds with
  | case1 n hn =>
    rw [digits, if_pos hn] at h
    obtain ⟨rfl, rfl⟩ := List.cons.inj h
    exact ⟨rfl, rfl⟩
  | case2 n hn ih =>
    rw [digits, if_neg hn] at h
    cases hfront : digits (n / 10) with
    | nil => exact absurd hfront (digits_ne_nil _)
    | cons d front =>
      rw [hfront, List.cons_append] at h
      obtain ⟨rfl, -⟩ := List.cons.inj h
      have hzero := (ih hfront).1
      omega

/-! ### Numerals of a fixed width -/

/-- The digits of a number behind zeros. -/
def paddedDigits (width n : Nat) : List Nat :=
  List.replicate (width - (digits n).length) 0 ++ digits n

theorem padded_eq (width n : Nat) : padded width n = (paddedDigits width n).map digitChar := by
  unfold padded paddedDigits chars
  rw [List.map_append, List.map_replicate, List.length_map]
  rfl

theorem paddedDigits_lt_ten (width n : Nat) : ∀ d ∈ paddedDigits width n, d < 10 := by
  intro d hd
  rcases List.mem_append.mp hd with hd | hd
  · rw [List.eq_of_mem_replicate hd]
    decide
  · exact digits_lt_ten n d hd

theorem value_append_zeros (count : Nat) (ds : List Nat) :
    value (List.replicate count 0 ++ ds) = value ds := by
  induction count with
  | zero => rfl
  | succ count ih => exact ih

/-- Zeros in front make no difference. -/
theorem value_paddedDigits (width n : Nat) : value (paddedDigits width n) = n := by
  rw [paddedDigits, value_append_zeros, value_digits]

theorem length_digits_le {n width : Nat} (hwidth : 0 < width) (h : n < Nat.pow 10 width) :
    (digits n).length ≤ width := by
  induction width generalizing n with
  | zero => exact absurd hwidth (Nat.lt_irrefl 0)
  | succ width ih =>
    rw [digits]
    split
    · exact Nat.succ_le_succ (Nat.zero_le width)
    · have hlower : n / 10 < Nat.pow 10 width := by
        have hpower : Nat.pow 10 (width + 1) = Nat.pow 10 width * 10 := rfl
        omega
      have hpos : 0 < width := by
        rcases Nat.eq_zero_or_pos width with rfl | hpos
        · have hone : n < 10 := h
          omega
        · exact hpos
      rw [List.length_append]
      exact Nat.succ_le_succ (ih hpos hlower)

/-- **A number that fits has the width it is written in.** -/
theorem length_paddedDigits {n width : Nat} (hwidth : 0 < width) (h : n < Nat.pow 10 width) :
    (paddedDigits width n).length = width := by
  have hle := length_digits_le hwidth h
  rw [paddedDigits, List.length_append, List.length_replicate]
  omega

theorem paddedDigits_ne_nil (width n : Nat) : paddedDigits width n ≠ [] := by
  intro h
  exact digits_ne_nil n (List.append_eq_nil_iff.mp h).2

/-! ### Digits that are read -/

theorem digit?_lt_ten {c : Char} {d : Nat} (h : digit? c = some d) : d < 10 := by
  unfold digit? at h
  split at h
  · next hrange =>
    have hnine : '9'.toNat = '0'.toNat + 9 := by decide
    obtain rfl := Option.some.inj h
    omega
  · cases h

/-- **What some digits denote** takes no more digits than these. -/
theorem value_lt_pow (ds : List Nat) (h : ∀ d ∈ ds, d < 10) : value ds < Nat.pow 10 ds.length := by
  induction ds using List.reverseRecOn with
  | nil => decide
  | append_singleton ds d ih =>
    have hfront := ih fun e he => h e (List.mem_append_left _ he)
    have hlast : d < 10 := h d (by simp)
    have hvalue : value (ds ++ [d]) = value ds * 10 + d := by
      simp [value, List.foldl_append]
    have hpower : Nat.pow 10 (ds.length + 1) = Nat.pow 10 ds.length * 10 := rfl
    rw [hvalue, List.length_append, List.length_singleton, hpower]
    omega

theorem isDigit_digitChar : ∀ d < 10, isDigit (digitChar d) = true ∧ isBlank (digitChar d) = false ∧
    digitChar d ≠ '-' ∧ digitChar d ≠ '+' := by
  decide

end Decimal

end TaskDaemon
