/-!
# Decimal numerals

Natural numbers written in base ten and read back.

* `TaskDaemon.Decimal.digits`: the digits of a number, the leading one first;
* `TaskDaemon.Decimal.value`: the number that a list of digits denotes;
* `TaskDaemon.Decimal.chars`, `TaskDaemon.Decimal.text`: the numeral;
* `TaskDaemon.Decimal.padded`: the numeral behind zeros up to a given width.

Writing and reading are inverse (`TaskDaemon.Decimal.value_digits`), so different numbers have
different numerals (`TaskDaemon.Decimal.text_injective`).
-/

namespace TaskDaemon

namespace Decimal

/-- **The digits of a number**, the leading one first; zero has one digit. -/
def digits (n : Nat) : List Nat :=
  if n < 10 then [n] else digits (n / 10) ++ [n % 10]
termination_by n
decreasing_by omega

/-- **The number a list of digits denotes.** -/
def value (ds : List Nat) : Nat :=
  ds.foldl (fun n d => n * 10 + d) 0

/-- The character of a digit. -/
def digitChar (d : Nat) : Char :=
  Char.ofNat ('0'.toNat + d)

/-- **The digit a character is**, if it is one of the ASCII digits. -/
def digit? (c : Char) : Option Nat :=
  if '0'.toNat ≤ c.toNat ∧ c.toNat ≤ '9'.toNat then some (c.toNat - '0'.toNat) else none

/-- An ASCII digit. -/
def isDigit (c : Char) : Bool :=
  (digit? c).isSome

/-- **The numeral of a number**, as characters. -/
def chars (n : Nat) : List Char :=
  (digits n).map digitChar

/-- **The numeral of a number.** -/
def text (n : Nat) : String :=
  String.ofList (chars n)

/-- **The numeral of an integer**, with a sign if it is negative. -/
def intChars : Int → List Char
  | .ofNat n => chars n
  | .negSucc n => '-' :: chars (n + 1)

/-- **The numeral of an integer.** -/
def intText (n : Int) : String :=
  String.ofList (intChars n)

/-- **The numeral behind zeros** up to `width` characters. -/
def padded (width n : Nat) : List Char :=
  List.replicate (width - (chars n).length) '0' ++ chars n

theorem digits_lt_ten (n : Nat) : ∀ d ∈ digits n, d < 10 := by
  induction n using digits.induct with
  | case1 n h => rw [digits, if_pos h]; simpa using h
  | case2 n h ih =>
    rw [digits, if_neg h]
    intro d hd
    rcases List.mem_append.mp hd with hd | hd
    · exact ih d hd
    · have : d = n % 10 := by simpa using hd
      omega

/-- **Reading undoes writing**, on digits. -/
theorem value_digits (n : Nat) : value (digits n) = n := by
  induction n using digits.induct with
  | case1 n h => rw [digits, if_pos h]; simp [value]
  | case2 n h ih =>
    rw [digits, if_neg h]
    have : value (digits (n / 10) ++ [n % 10]) = value (digits (n / 10)) * 10 + n % 10 := by
      simp [value, List.foldl_append]
    rw [this, ih]
    omega

theorem digitChar_injective {d e : Nat} (hd : d < 10) (he : e < 10)
    (h : digitChar d = digitChar e) : d = e := by
  have hall : ∀ i < 10, ∀ j < 10, digitChar i = digitChar j → i = j := by decide
  exact hall d hd e he h

theorem map_digitChar_injective : ∀ {ds es : List Nat}, (∀ d ∈ ds, d < 10) → (∀ e ∈ es, e < 10) →
    ds.map digitChar = es.map digitChar → ds = es
  | [], [], _, _, _ => rfl
  | [], e :: es, _, _, h => by simp at h
  | d :: ds, [], _, _, h => by simp at h
  | d :: ds, e :: es, hds, hes, h => by
    simp only [List.map_cons, List.cons.injEq] at h
    have hhead : d = e := digitChar_injective (hds d (by simp)) (hes e (by simp)) h.1
    have htail : ds = es :=
      map_digitChar_injective (fun x hx => hds x (by simp [hx])) (fun x hx => hes x (by simp [hx]))
        h.2
    rw [hhead, htail]

/-- **Different numbers have different numerals.** -/
theorem chars_injective {m n : Nat} (h : chars m = chars n) : m = n := by
  have hds : digits m = digits n :=
    map_digitChar_injective (digits_lt_ten m) (digits_lt_ten n) h
  rw [← value_digits m, ← value_digits n, hds]

/-- **Different numbers have different numerals**, as strings. -/
theorem text_injective {m n : Nat} (h : text m = text n) : m = n :=
  chars_injective (String.ofList_injective h)

end Decimal

end TaskDaemon
