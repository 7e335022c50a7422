import TaskDaemon.Json.Basic

/-!
# The text of a value is one line

No control character stands in the text of a JSON value: strings escape theirs, and numbers have
none. So whoever writes a value on a line of its own can be sure that it is one line
(`TaskDaemon.Json.plain_chars`).
-/

namespace TaskDaemon

/-- **Plain text**: text without control characters. -/
def IsPlain (text : List Char) : Prop :=
  ∀ c ∈ text, 0x20 ≤ c.toNat

instance (text : List Char) : Decidable (IsPlain text) :=
  List.decidableBAll _ text

theorem IsPlain.append {front back : List Char} (hfront : IsPlain front) (hback : IsPlain back) :
    IsPlain (front ++ back) :=
  List.forall_mem_append.mpr ⟨hfront, hback⟩

theorem IsPlain.cons {c : Char} {text : List Char} (hc : 0x20 ≤ c.toNat) (htext : IsPlain text) :
    IsPlain (c :: text) :=
  List.forall_mem_cons.mpr ⟨hc, htext⟩

theorem IsPlain.newline_not_mem {text : List Char} (h : IsPlain text) : '\n' ∉ text :=
  fun hmem => absurd (h _ hmem) (by decide)

/-! ### Numbers -/

namespace Decimal

theorem le_digitChar : ∀ d < 10, 0x20 ≤ (digitChar d).toNat := by decide

/-- Digits are plain. -/
theorem isPlain_map_digitChar {ds : List Nat} (h : ∀ d ∈ ds, d < 10) :
    IsPlain (ds.map digitChar) := by
  intro c hc
  obtain ⟨d, hd, rfl⟩ := List.mem_map.mp hc
  exact le_digitChar d (h d hd)

theorem isPlain_chars (n : Nat) : IsPlain (chars n) :=
  isPlain_map_digitChar (digits_lt_ten n)

theorem isPlain_intChars (n : Int) : IsPlain (intChars n) := by
  cases n with
  | ofNat n => exact isPlain_chars n
  | negSucc n => exact (isPlain_chars (n + 1)).cons (by decide)

end Decimal

namespace Binary64

/-- The digits of a double are digits. -/
theorem shortest_digits_lt_ten (bits : UInt64) : ∀ d ∈ (shortest bits).digits, d < 10 := by
  intro d hd
  unfold shortest at hd
  cases hfound : (List.range 17).findSome? fun (extra : Nat) =>
      ((Rounding.ofBits bits).onGrid? ((Rounding.ofBits bits).leadingPower - (extra : Int))).map
        fun n => Decimals.ofNat n ((Rounding.ofBits bits).leadingPower - (extra : Int)) with
  | none =>
    simp only [hfound] at hd
    simp at hd
    omega
  | some decimals =>
    simp only [hfound] at hd
    obtain ⟨extra, -, hextra⟩ := List.exists_of_findSome?_eq_some hfound
    obtain ⟨n, -, rfl⟩ := Option.map_eq_some_iff.mp hextra
    refine Decimal.digits_lt_ten n d ?_
    have hsub := (List.dropWhile_sublist (· == 0) (l := (Decimal.digits n).reverse)).reverse
    rw [List.reverse_reverse] at hsub
    exact hsub.subset hd

end Binary64

namespace Json

namespace Number

theorem isPlain_positional {ds : List Nat} (h : ∀ d ∈ ds, d < 10) (power : Int) :
    IsPlain (positional ds power) := by
  have hshown := Decimal.isPlain_map_digitChar h
  have hzeros : ∀ count, IsPlain (List.replicate count '0') := by
    intro count c hc
    rw [List.eq_of_mem_replicate hc]
    decide
  unfold positional
  split
  · exact (((hzeros _).append hshown).cons (by decide)).cons (by decide)
  · refine IsPlain.append (IsPlain.append ?_ (hzeros _)) (IsPlain.cons (by decide) ?_)
    · exact fun c hc => hshown c (List.mem_of_mem_take hc)
    · split
      · decide
      · exact fun c hc => hshown c (List.mem_of_mem_drop hc)

theorem isPlain_scientific {ds : List Nat} (h : ∀ d ∈ ds, d < 10) (power : Int) :
    IsPlain (scientific ds power) := by
  have hshown := Decimal.isPlain_map_digitChar h
  unfold scientific
  refine IsPlain.append ?_ (IsPlain.cons (by decide) (IsPlain.cons ?_ (Decimal.isPlain_chars _)))
  · split
    · decide
    · next hone => exact hone ▸ hshown
    · next hmore =>
      rw [hmore] at hshown
      have hsplit := List.forall_mem_cons.mp hshown
      exact IsPlain.cons hsplit.1 (IsPlain.cons (by decide) hsplit.2)
  · split <;> decide

theorem isPlain_chars (n : Number) : IsPlain n.chars := by
  cases n with
  | int n => exact Decimal.isPlain_intChars n
  | float bits =>
    have hsign : ∀ b : Bool, IsPlain (if b then ['-'] else []) := by
      intro b
      cases b with
      | false => decide
      | true => decide
    have hdigits := Binary64.shortest_digits_lt_ten bits
    unfold chars floatChars
    dsimp only
    split
    · exact (hsign _).append (by decide)
    · refine (hsign _).append ?_
      split
      · exact isPlain_positional hdigits _
      · exact isPlain_scientific hdigits _

end Number

/-! ### Values -/

theorem isPlain_quotedChars (s : List Char) : IsPlain (quotedChars s) := by
  refine IsPlain.cons (by decide) (IsPlain.append ?_ (by decide))
  intro d hd
  obtain ⟨c, -, hmem⟩ := List.mem_flatMap.mp hd
  exact escape_no_control c d hmem

mutual

/-- **The text of a value is plain.** -/
theorem plain_chars : ∀ value : Json, IsPlain (chars value)
  | .null => by decide
  | .bool true => by decide
  | .bool false => by decide
  | .number n => n.isPlain_chars
  | .string s => isPlain_quotedChars s.toList
  | .array items =>
    ((plain_itemsChars items).append (by decide)).cons (by decide)
  | .object members =>
    ((plain_membersChars members).append (by decide)).cons (by decide)

theorem plain_itemsChars : ∀ items : List Json, IsPlain (itemsChars items)
  | [] => by decide
  | [item] => plain_chars item
  | item :: next :: rest =>
    (plain_chars item).append ((plain_itemsChars (next :: rest)).cons (by decide))

theorem plain_membersChars : ∀ members : List (String × Json), IsPlain (membersChars members)
  | [] => by decide
  | [(key, value)] =>
    (isPlain_quotedChars key.toList).append ((plain_chars value).cons (by decide))
  | (key, value) :: next :: rest =>
    ((isPlain_quotedChars key.toList).append ((plain_chars value).cons (by decide))).append
      ((plain_membersChars (next :: rest)).cons (by decide))

end

end Json

end TaskDaemon
