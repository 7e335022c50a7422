import TaskDaemon.Proofs.Attempt
import TaskDaemon.Proofs.Text.Decimal
import TaskDaemon.Proofs.Time.Calendar
import TaskDaemon.Time.Timestamp

/-!
# Reading the text of an instant

An instant is read back from its text (`TaskDaemon.Instant.parse_text`), if it is one that a text
can tell: its year has a place in the calendar, and a leap second ends a minute
(`TaskDaemon.Instant.IsTold`). A leap second anywhere else is written like the second after it
(`TaskDaemon.Instant.text_eq_of_leap`).
What is read from any text at all is such an instant (`TaskDaemon.Instant.isTold_of_parse`).

The proof goes along the text. Every field is a numeral of a fixed width with something that is no
digit behind it, so one lemma reads them all (`TaskDaemon.Timestamp.readNumber_padded`).
-/

namespace TaskDaemon

namespace Timestamp

open Decimal

/-- **Text that does not go on with a digit.** -/
def NoDigit (rest : List Char) : Prop :=
  ∀ c ∈ rest.head?, isDigit c = false

variable {rest : List Char}

theorem takeWhile_digits {ds : List Nat} (hds : ∀ d ∈ ds, d < 10) (hrest : NoDigit rest) :
    (ds.map digitChar ++ rest).takeWhile isDigit = ds.map digitChar := by
  have hall : ∀ c ∈ ds.map digitChar, isDigit c = true := by
    intro c hc
    obtain ⟨d, hd, rfl⟩ := List.mem_map.mp hc
    exact (isDigit_digitChar d (hds d hd)).1
  rw [List.takeWhile_append_of_pos hall]
  cases rest with
  | nil => simp
  | cons c rest => simp [hrest c rfl]

theorem filterMap_digits {ds : List Nat} (hds : ∀ d ∈ ds, d < 10) :
    (ds.map digitChar).filterMap digit? = ds := by
  induction ds with
  | nil => rfl
  | cons d ds ih =>
    rw [List.map_cons, List.filterMap_cons_some (digit?_digitChar d (hds d List.mem_cons_self)),
      ih fun e he => hds e (List.mem_cons_of_mem _ he)]

/-- **A numeral is read** as what it denotes, whatever zeros stand in front of it. -/
theorem readNumber_padded {width : Option Nat} {least n : Nat} (hrest : NoDigit rest)
    (hwidth : ∀ w ∈ width, (paddedDigits least n).length ≤ w) (hn : n ≤ maxNumber) :
    readNumber width (padded least n ++ rest) = .ok (n, rest) := by
  have hds := paddedDigits_lt_ten least n
  have hne : (paddedDigits least n).map digitChar ≠ [] := by
    simpa using paddedDigits_ne_nil least n
  unfold readNumber
  rw [padded_eq]
  cases width with
  | none =>
    simp only [takeWhile_digits hds hrest, filterMap_digits hds, value_paddedDigits]
    rw [if_neg (by simp [hne]), if_neg (by simpa using hne), if_pos hn, List.drop_left]
  | some w =>
    have htake :
        ((paddedDigits least n).map digitChar).take w = (paddedDigits least n).map digitChar :=
      List.take_of_length_le (by simpa using hwidth w rfl)
    simp only [takeWhile_digits hds hrest, htake, filterMap_digits hds, value_paddedDigits]
    rw [if_neg (by simp [hne]), if_neg (by simpa using hne), if_pos hn, List.drop_left]

/-- The text of a numeral starts with a digit. -/
theorem exists_padded_eq_cons (width n : Nat) : ∃ d more, d < 10 ∧
    padded width n = digitChar d :: more := by
  have hds := paddedDigits_lt_ten width n
  rw [padded_eq]
  cases hdigits : paddedDigits width n with
  | nil => exact absurd hdigits (paddedDigits_ne_nil width n)
  | cons d ds => exact ⟨d, ds.map digitChar, hds d (hdigits ▸ List.mem_cons_self), rfl⟩

theorem trimStart_padded (width n : Nat) (rest : List Char) :
    trimStart (padded width n ++ rest) = padded width n ++ rest := by
  obtain ⟨d, more, hd, hpadded⟩ := exists_padded_eq_cons width n
  rw [hpadded, List.cons_append, trimStart, List.dropWhile_cons_of_neg]
  rw [(isDigit_digitChar d hd).2.1]
  decide

/-- **A field of two digits is read.** -/
theorem readField_padded {least greatest n : Nat} (hrest : NoDigit rest) (hleast : least ≤ n)
    (hgreatest : n ≤ greatest) (hn : n < 100) :
    readField least greatest (padded 2 n ++ rest) = .ok (n, rest) := by
  have hread : readNumber (some 2) (padded 2 n ++ rest) = .ok (n, rest) := by
    refine readNumber_padded hrest ?_ (by unfold maxNumber; omega)
    rintro w hw
    obtain rfl : 2 = w := Option.some.inj hw
    exact (length_paddedDigits (by decide) hn).le
  unfold readField
  rw [trimStart_padded, hread]
  simp only [bind, Except.bind]
  rw [if_pos ⟨hleast, hgreatest⟩]

theorem readSeparator_cons {separator : Char} (h : isBlank separator = false) (rest : List Char) :
    readSeparator separator (separator :: rest) = .ok rest := by
  unfold readSeparator trimStart
  rw [List.dropWhile_cons_of_neg (by rw [h]; decide)]
  exact if_pos rfl

/-- **A year is read**, with or without its sign. -/
theorem readYear_yearChars {year : Int} (hyear : -maxYear - 1 ≤ year ∧ year ≤ maxYear)
    (hrest : NoDigit rest) : readYear (Instant.yearChars year ++ rest) = .ok (year, rest) := by
  have hbound : year.natAbs ≤ maxNumber := by
    unfold maxYear at hyear
    unfold maxNumber
    omega
  unfold Instant.yearChars
  by_cases hplain : 0 ≤ year ∧ year ≤ 9999
  · have hshort : readNumber (some 4) (padded 4 year.toNat ++ rest) = .ok (year.toNat, rest) := by
      refine readNumber_padded hrest ?_ (by omega)
      rintro w hw
      obtain rfl : 4 = w := Option.some.inj hw
      have hdigits : year.toNat < 10000 := by omega
      exact (length_paddedDigits (by decide) hdigits).le
    obtain ⟨d, more, hd, hpadded⟩ := exists_padded_eq_cons 4 year.toNat
    obtain ⟨-, -, hminus, hplus⟩ := isDigit_digitChar d hd
    rw [if_pos hplain]
    unfold readYear
    rw [trimStart_padded]
    rw [hpadded] at hshort ⊢
    dsimp only
    split
    · next heq => exact absurd (List.cons.inj heq).1 hminus
    · next heq => exact absurd (List.cons.inj heq).1 hplus
    · simp only [hshort, bind, Except.bind]
      rw [Int.toNat_of_nonneg hplain.1, if_pos hyear]
  · rw [if_neg hplain]
    have hread : readNumber none (padded 4 year.natAbs ++ rest) = .ok (year.natAbs, rest) :=
      readNumber_padded hrest nofun hbound
    unfold readYear
    by_cases hnegative : year < 0
    · have htrim : trimStart ('-' :: padded 4 year.natAbs ++ rest) =
          '-' :: (padded 4 year.natAbs ++ rest) := rfl
      rw [if_pos hnegative, htrim]
      simp only [hread, bind, Except.bind]
      rw [Int.ofNat_natAbs_of_nonpos (Int.le_of_lt hnegative), Int.neg_neg, if_pos hyear]
    · have htrim : trimStart ('+' :: padded 4 year.natAbs ++ rest) =
          '+' :: (padded 4 year.natAbs ++ rest) := rfl
      rw [if_neg hnegative, htrim]
      simp only [hread, bind, Except.bind]
      rw [Int.natAbs_of_nonneg (Int.not_lt.mp hnegative), if_pos hyear]

/-- **A fraction is read** with its trailing zeros. -/
theorem readFraction_fractionChars {nanos : Nat} (hnanos : nanos < Instant.billion)
    (hrest : NoDigit rest) (hpoint : rest.head? ≠ some '.') :
    readFraction (Instant.fractionChars nanos ++ rest) = .ok (nanos, rest) := by
  have hshown : ∀ width n, 0 < width → width ≤ 9 → n < 10 ^ width →
      readFraction ('.' :: padded width n ++ rest) = .ok (n * 10 ^ (9 - width), rest) := by
    intro width n hpos hwidth hn
    have hlength := length_paddedDigits hpos hn
    have hread : readNumber (some 9) (padded width n ++ rest) = .ok (n, rest) := by
      refine readNumber_padded hrest ?_ ?_
      · rintro w hw
        obtain rfl : 9 = w := Option.some.inj hw
        omega
      · have hnine : 10 ^ width ≤ 10 ^ 9 := Nat.pow_le_pow_right (by decide) hwidth
        unfold maxNumber
        omega
    have hdrop : rest.dropWhile isDigit = rest := by
      cases rest with
      | nil => rfl
      | cons c rest => exact List.dropWhile_cons_of_neg (by rw [hrest c rfl]; decide)
    have hcount : (padded width n ++ rest).length - rest.length = width := by
      rw [padded_eq, List.length_append, List.length_map, hlength, Nat.add_sub_cancel]
    unfold readFraction
    simp only [List.cons_append, hread, bind, Except.bind, hdrop, hcount]
    rfl
  unfold Instant.billion at hnanos
  unfold Instant.fractionChars
  split
  · next hzero =>
    subst hzero
    unfold readFraction
    rw [List.nil_append]
    cases rest with
    | nil => rfl
    | cons c rest =>
      split
      · next heq => exact absurd (congrArg List.head? heq) hpoint
      · rfl
  split
  · next hmillis =>
    rw [hshown 3 _ (by decide) (by decide) (by omega)]
    have hback : nanos / 1000000 * 10 ^ (9 - 3) = nanos := by omega
    rw [hback]
  split
  · next hmicros =>
    rw [hshown 6 _ (by decide) (by decide) (by omega)]
    have hback : nanos / 1000 * 10 ^ (9 - 6) = nanos := by omega
    rw [hback]
  · rw [hshown 9 _ (by decide) (by decide) (by omega)]
    have hback : nanos * 10 ^ (9 - 9) = nanos := by omega
    rw [hback]

theorem noDigit_cons {c : Char} (h : isDigit c = false) (more : List Char) :
    NoDigit (c :: more) := by
  intro d hd
  obtain rfl : c = d := Option.some.inj hd
  exact h

end Timestamp

namespace Instant

open Decimal Timestamp

/-- **An instant that a text can tell**: it has its place in the calendar, and its nanoseconds are
those of a second, or of a leap second at the end of a minute. -/
def IsTold (t : Instant) : Prop :=
  inCalendar t.date = true ∧
    (t.nanos < billion ∨ t.nanos < 2 * billion ∧ t.seconds % 60 = 59)

instance (t : Instant) : Decidable t.IsTold :=
  inferInstanceAs (Decidable (_ ∧ _))

/-- The fields that the text of an instant shows. -/
def shownLocal (t : Instant) : Local :=
  let leap := billion ≤ t.nanos
  { date := t.date
    hour := t.secondOfDay / 3600
    minute := t.secondOfDay / 60 % 60
    second := t.secondOfDay % 60 + if leap then 1 else 0
    nanos := if leap then t.nanos - billion else t.nanos
    offset := 0 }

variable {t : Instant}

theorem secondOfDay_lt (t : Instant) : t.secondOfDay < 86400 := by
  unfold secondOfDay daySeconds
  omega

/-- The second after one that ends no minute is of the same day. -/
theorem date_succ_of_leap (h : t.seconds % 60 ≠ 59) (nanos : Nat) :
    t.date = date ⟨t.seconds + 1, nanos⟩ := by
  refine congrArg Date.ofDays ?_
  simp only [daySeconds]
  omega

/-- **A leap second in the middle of a minute** is written like the second after it. -/
theorem text_eq_of_leap (hleap : billion ≤ t.nanos) (hnanos : t.nanos < 2 * billion)
    (hsecond : t.seconds % 60 ≠ 59) :
    t.text = Instant.text ⟨t.seconds + 1, t.nanos - billion⟩ := by
  have hdate : t.date = date ⟨t.seconds + 1, t.nanos - billion⟩ := date_succ_of_leap hsecond _
  have hday : secondOfDay ⟨t.seconds + 1, t.nanos - billion⟩ = t.secondOfDay + 1 := by
    simp only [secondOfDay, daySeconds]
    omega
  have hminute : t.secondOfDay % 60 ≠ 59 := by
    simp only [secondOfDay, daySeconds]
    omega
  have htime : t.timeChars = timeChars ⟨t.seconds + 1, t.nanos - billion⟩ := by
    have hhour : (t.secondOfDay + 1) / 3600 = t.secondOfDay / 3600 := by omega
    have hminutes : (t.secondOfDay + 1) / 60 % 60 = t.secondOfDay / 60 % 60 := by omega
    have hseconds : (t.secondOfDay + 1) % 60 = t.secondOfDay % 60 + 1 := by omega
    have hplain : ¬ billion ≤ t.nanos - billion := by omega
    simp only [timeChars, hday, hhour, hminutes, hseconds, if_pos hleap, if_neg hplain,
      Nat.add_zero]
  simp only [text, chars, hdate, htime]

/-- **An instant that a clock or a caller can have**: it has its place in the calendar, and its
nanoseconds are those of a second, or of a leap second wherever that stands. -/
def IsRegular (t : Instant) : Prop :=
  inCalendar t.date = true ∧ t.nanos < 2 * billion

instance (t : Instant) : Decidable t.IsRegular :=
  inferInstanceAs (Decidable (_ ∧ _))

/-- **The instant that the text of a regular one tells.** -/
def asTold (t : Instant) : Instant :=
  if billion ≤ t.nanos ∧ t.seconds % 60 ≠ 59 then ⟨t.seconds + 1, t.nanos - billion⟩ else t

theorem IsRegular.text_asTold (h : t.IsRegular) : t.asTold.text = t.text := by
  unfold asTold
  split
  · next hleap => exact (text_eq_of_leap hleap.1 h.2 hleap.2).symm
  · rfl

theorem IsRegular.isTold_asTold (h : t.IsRegular) : t.asTold.IsTold := by
  obtain ⟨hcalendar, hnanos⟩ := h
  unfold asTold
  split
  · next hleap =>
    refine ⟨?_, Or.inl ?_⟩
    · rwa [date_succ_of_leap hleap.2 (t.nanos - billion)] at hcalendar
    · show t.nanos - billion < billion
      omega
  · next hplain =>
    refine ⟨hcalendar, ?_⟩
    omega

theorem noDigit_fractionChars (nanos : Nat) :
    NoDigit (fractionChars nanos ++ ['Z']) := by
  unfold fractionChars
  split
  · exact noDigit_cons (by decide) _
  split
  · exact noDigit_cons (by decide) _
  split <;> exact noDigit_cons (by decide) _

/-- **The fields of a text are those that it shows.** -/
theorem readLocal_chars (h : t.IsTold) : readLocal t.chars = .ok (t.shownLocal, []) := by
  obtain ⟨hcalendar, hnanos⟩ := h
  have hday := secondOfDay_lt t
  obtain ⟨hmonth, hmonth', hday, hlength⟩ : t.date.IsValid := Date.isValid_ofDays _
  have hday' : t.date.day ≤ 31 := by
    refine hlength.trans ?_
    unfold Date.monthLength
    repeat' split
    all_goals decide
  have hyear : -maxYear - 1 ≤ t.date.year ∧ t.date.year ≤ maxYear := by
    unfold inCalendar yearBounds at hcalendar
    simp only [Bool.and_eq_true, decide_eq_true_iff] at hcalendar
    unfold maxYear
    omega
  have hsecond : t.shownLocal.second ≤ 60 := by
    unfold shownLocal
    dsimp only
    split <;> omega
  have hfraction : t.shownLocal.nanos < billion := by
    unfold shownLocal billion at *
    dsimp only
    split <;> omega
  have htext : t.chars = yearChars t.date.year ++ '-' :: (padded 2 t.date.month ++ '-' ::
      (padded 2 t.date.day ++ 'T' :: (padded 2 t.shownLocal.hour ++ ':' ::
        (padded 2 t.shownLocal.minute ++ ':' :: (padded 2 t.shownLocal.second ++
          (fractionChars t.shownLocal.nanos ++ ['Z'])))))) := by
    simp [chars, dateChars, timeChars, shownLocal]
  have hdash : ∀ more, NoDigit ('-' :: more) := noDigit_cons (by decide)
  have hcolon : ∀ more, NoDigit (':' :: more) := noDigit_cons (by decide)
  have hT : ∀ more, NoDigit ('T' :: more) := noDigit_cons (by decide)
  have hZ : NoDigit ['Z'] := noDigit_cons (by decide) []
  have hhour : t.shownLocal.hour ≤ 23 := by
    unfold shownLocal
    dsimp only
    omega
  have hminute : t.shownLocal.minute ≤ 59 := by
    unfold shownLocal
    dsimp only
    omega
  rw [htext]
  unfold readLocal
  simp only [bind, Except.bind, readYear_yearChars hyear (hdash _),
    readSeparator_cons (by decide : isBlank '-' = false),
    readSeparator_cons (by decide : isBlank ':' = false),
    readField_padded (hdash _) hmonth hmonth' (by omega : t.date.month < 100),
    readField_padded (hT _) hday hday' (by omega : t.date.day < 100),
    readField_padded (hcolon _) (Nat.zero_le _) hhour (by omega : t.shownLocal.hour < 100),
    readField_padded (hcolon _) (Nat.zero_le _) hminute (by omega : t.shownLocal.minute < 100),
    readField_padded (noDigit_fractionChars _) (Nat.zero_le _) hsecond
      (by omega : t.shownLocal.second < 100),
    readFraction_fractionChars hfraction hZ (by decide : ['Z'].head? ≠ some '.')]
  rfl

/-- **The fields of a text make up its instant.** -/
theorem toInstant_shownLocal (h : t.IsTold) : toInstant t.shownLocal = .ok t := by
  obtain ⟨hcalendar, hnanos⟩ := h
  have hday := secondOfDay_lt t
  have hdate : t.shownLocal.date.IsValid ∧ inCalendar t.shownLocal.date = true :=
    ⟨Date.isValid_ofDays _, hcalendar⟩
  have hdays : t.shownLocal.date.toDays = t.seconds / daySeconds := Date.toDays_ofDays _
  have hsame : (⟨t.shownLocal.date.toDays * daySeconds +
      ((t.shownLocal.hour * 60 + t.shownLocal.minute) * 60 +
      (if t.shownLocal.second = 60 then 59 else t.shownLocal.second) : Nat) - t.shownLocal.offset,
      if t.shownLocal.second = 60 then t.shownLocal.nanos + billion else t.shownLocal.nanos⟩ :
      Instant) = t := by
    have hhour : t.shownLocal.hour = t.secondOfDay / 3600 := rfl
    have hminute : t.shownLocal.minute = t.secondOfDay / 60 % 60 := rfl
    have hoffset : t.shownLocal.offset = 0 := rfl
    have hsecond : (t.secondOfDay : Int) = t.seconds % daySeconds := by
      unfold secondOfDay daySeconds
      omega
    unfold daySeconds at hdays hsecond ⊢
    by_cases hleap : billion ≤ t.nanos
    · have hend : t.seconds % 60 = 59 := (hnanos.resolve_left (Nat.not_lt.mpr hleap)).2
      have hsixty : t.shownLocal.second = 60 := by
        unfold shownLocal
        dsimp only
        rw [if_pos hleap]
        omega
      have hback : t.shownLocal.nanos + billion = t.nanos := by
        unfold shownLocal
        dsimp only
        rw [if_pos hleap, Nat.sub_add_cancel hleap]
      rw [if_pos hsixty, if_pos hsixty, hback]
      refine congrArg (Instant.mk · t.nanos) ?_
      omega
    · have hshown : t.shownLocal.second = t.secondOfDay % 60 := by
        unfold shownLocal
        dsimp only
        rw [if_neg hleap, Nat.add_zero]
      have hsame : t.shownLocal.nanos = t.nanos := by
        unfold shownLocal
        dsimp only
        rw [if_neg hleap]
      have hplain : t.shownLocal.second ≠ 60 := by omega
      rw [if_neg hplain, if_neg hplain, hsame]
      refine congrArg (Instant.mk · t.nanos) ?_
      omega
  unfold toInstant
  rw [if_neg (not_not.mpr hdate), if_neg (by simp [shownLocal, daySeconds])]
  dsimp only
  rw [hsame, if_pos hcalendar]

/-- **An instant is read back from its text.** -/
theorem parse_text (h : t.IsTold) : Instant.parse t.text = .ok t := by
  unfold Instant.parse text
  rw [String.toList_ofList, readLocal_chars h]
  exact toInstant_shownLocal h

end Instant

/-! ### Whatever is read can be told -/

namespace Timestamp

open Attempt Decimal

variable {text rest : List Char}

/-- **A number read from so many digits** takes no more than these. -/
theorem readNumber_lt {width n : Nat} (h : readNumber (some width) text = .ok (n, rest)) :
    ∃ size ≤ width, size ≤ text.length ∧ rest = text.drop size ∧ n < Nat.pow 10 size := by
  unfold readNumber at h
  dsimp only at h
  split at h
  · cases h
  split at h
  · cases h
  split at h
  · obtain ⟨rfl, rfl⟩ := Prod.mk.inj (Except.ok.inj h)
    have hsize : ((text.takeWhile isDigit).take width).length ≤ text.length :=
      (List.length_take_le' _ _).trans (List.takeWhile_sublist _).length_le
    refine ⟨_, List.length_take_le _ _, hsize, rfl, ?_⟩
    have hdigits : ∀ d ∈ ((text.takeWhile isDigit).take width).filterMap digit?, d < 10 := by
      intro d hd
      obtain ⟨c, -, hc⟩ := List.mem_filterMap.mp hd
      exact digit?_lt_ten hc
    exact (value_lt_pow _ hdigits).trans_le
      (Nat.pow_le_pow_right (by decide) (List.length_filterMap_le _ _))
  · cases h

/-- **A fraction is less than a second.** -/
theorem readFraction_lt {nanos : Nat} (h : readFraction text = .ok (nanos, rest)) :
    nanos < Instant.billion := by
  have hbillion : Instant.billion = Nat.pow 10 9 := rfl
  unfold readFraction at h
  split at h
  · next digits =>
    obtain ⟨⟨n, behind⟩, hread, hvalue⟩ := bind_eq_ok_iff.mp h
    obtain ⟨rfl, -⟩ := Prod.mk.inj (Except.ok.inj hvalue)
    obtain ⟨size, hwidth, hsize, rfl, hn⟩ := readNumber_lt hread
    have hcount : digits.length - (digits.drop size).length = size := by
      rw [List.length_drop]
      omega
    have hpower : Nat.pow 10 9 = Nat.pow 10 size * Nat.pow 10 (9 - size) := by
      conv_lhs => rw [← Nat.add_sub_cancel' hwidth]
      exact Nat.pow_add 10 size (9 - size)
    rw [hcount, hbillion, hpower]
    exact Nat.mul_lt_mul_of_pos_right hn (Nat.pow_pos (by decide))
  · obtain ⟨rfl, -⟩ := Prod.mk.inj (Except.ok.inj h)
    decide

theorem readHoursMinutes_mod {offset : Nat} (h : readHoursMinutes text = .ok (offset, rest)) :
    offset % 60 = 0 := by
  unfold readHoursMinutes at h
  obtain ⟨⟨⟨h₁, h₂⟩, behind⟩, -, h⟩ := bind_eq_ok_iff.mp h
  obtain ⟨⟨⟨m₁, m₂⟩, behind'⟩, -, h⟩ := bind_eq_ok_iff.mp h
  dsimp only at h
  split at h
  · cases h
  · obtain ⟨rfl, -⟩ := Prod.mk.inj (Except.ok.inj h)
    exact Nat.mul_mod_left _ 60

/-- **An offset is one of whole minutes.** -/
theorem readOffset_mod {offset : Int} (h : readOffset text = .ok (offset, rest)) :
    offset % 60 = 0 := by
  have hzero : ∀ {behind : List Char}, (.ok (0, behind) : Except Fault (Int × List Char)) =
      .ok (offset, rest) → offset % 60 = 0 := by
    intro behind heq
    obtain ⟨rfl, -⟩ := Prod.mk.inj (Except.ok.inj heq)
    rfl
  unfold readOffset at h
  split at h
  · cases h
  split at h
  · exact hzero h
  split at h
  · obtain ⟨⟨n, behind⟩, hread, heq⟩ := map_eq_ok_iff.mp h
    obtain ⟨rfl, -⟩ := Prod.mk.inj heq
    have := readHoursMinutes_mod hread
    dsimp only
    omega
  split at h
  · obtain ⟨⟨n, behind⟩, hread, heq⟩ := map_eq_ok_iff.mp h
    obtain ⟨rfl, -⟩ := Prod.mk.inj heq
    have := readHoursMinutes_mod hread
    dsimp only
    omega
  split at h
  · split at h
    · exact hzero h
    · cases h
  · cases h

/-- **The fields that are read** have a fraction of a second and an offset of whole minutes. -/
theorem readLocal_fits {stamp : Local} (h : readLocal text = .ok (stamp, rest)) :
    stamp.nanos < Instant.billion ∧ stamp.offset % 60 = 0 := by
  unfold readLocal at h
  -- the date
  obtain ⟨⟨_, _⟩, -, h⟩ := bind_eq_ok_iff.mp h
  obtain ⟨_, -, h⟩ := bind_eq_ok_iff.mp h
  obtain ⟨⟨_, _⟩, -, h⟩ := bind_eq_ok_iff.mp h
  obtain ⟨_, -, h⟩ := bind_eq_ok_iff.mp h
  obtain ⟨⟨_, _⟩, -, h⟩ := bind_eq_ok_iff.mp h
  dsimp only at h
  split at h
  · cases h
  split at h
  swap
  · cases h
  -- the time of the day, which may be any here, and at last the two that matter
  obtain ⟨_, -, h⟩ := bind_eq_ok_iff.mp h
  obtain ⟨⟨_, _⟩, -, h⟩ := bind_eq_ok_iff.mp h
  obtain ⟨_, -, h⟩ := bind_eq_ok_iff.mp h
  obtain ⟨⟨_, _⟩, -, h⟩ := bind_eq_ok_iff.mp h
  obtain ⟨_, -, h⟩ := bind_eq_ok_iff.mp h
  obtain ⟨⟨_, _⟩, -, h⟩ := bind_eq_ok_iff.mp h
  obtain ⟨⟨nanos, _⟩, hnanos, h⟩ := bind_eq_ok_iff.mp h
  obtain ⟨⟨offset, _⟩, hoffset, h⟩ := bind_eq_ok_iff.mp h
  obtain ⟨rfl, -⟩ := Prod.mk.inj (Except.ok.inj h)
  exact ⟨readFraction_lt hnanos, readOffset_mod hoffset⟩

/-- **The instant of such fields** can be told: a leap second is the last second of its minute in
any place whose offset is one of whole minutes. -/
theorem isTold_of_toInstant {stamp : Local} {t : Instant} (hnanos : stamp.nanos < Instant.billion)
    (hoffset : stamp.offset % 60 = 0) (h : toInstant stamp = .ok t) : t.IsTold := by
  unfold toInstant at h
  split at h
  · cases h
  split at h
  · cases h
  dsimp only at h
  have hdays : Instant.daySeconds = 86400 := rfl
  by_cases hleap : stamp.second = 60
  · rw [if_pos hleap, if_pos hleap] at h
    split at h
    · next hcalendar =>
      obtain rfl := Except.ok.inj h
      -- the second counted is the 59th of a minute, and an offset keeps it one
      refine ⟨hcalendar, Or.inr ⟨?_, ?_⟩⟩
      · dsimp only
        omega
      · dsimp only
        rw [hdays]
        omega
    · cases h
  · rw [if_neg hleap, if_neg hleap] at h
    split at h
    · next hcalendar =>
      obtain rfl := Except.ok.inj h
      exact ⟨hcalendar, Or.inl hnanos⟩
    · cases h

end Timestamp

/-- **An instant that is read from a text** can be told by one. -/
theorem Instant.isTold_of_parse {text : String} {t : Instant} (h : Instant.parse text = .ok t) :
    t.IsTold := by
  unfold Instant.parse at h
  obtain ⟨⟨stamp, _⟩, hread, h⟩ := Attempt.bind_eq_ok_iff.mp h
  obtain ⟨hnanos, hoffset⟩ := Timestamp.readLocal_fits hread
  dsimp only at h
  split at h
  · exact Timestamp.isTold_of_toInstant hnanos hoffset h
  · cases h

end TaskDaemon
