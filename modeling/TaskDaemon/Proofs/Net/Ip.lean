import Mathlib.Data.List.Basic
import Mathlib.Tactic.SplitIfs
import TaskDaemon.Net.Ip
import TaskDaemon.Proofs.Text.Decimal

/-!
# Internet addresses are read back

An address is read back from its text (`TaskDaemon.Ip.parse?_text`), whichever of its three forms of
version 6 is written:

| form | written where | what the reader does |
|---|---|---|
| `1:2:3:4:5:6:7:8` | no two zeros stand together | takes eight groups |
| `1:2::8` | two zeros or more stand together | takes groups up to the two colons, then the rest |
| `::ffff:1.2.3.4` | the address stands for one of version 4 | takes the end as one of version 4 |

Wherever a group is wanted, a reader with room for two of them tries an address of version 4 first.
No harm comes of it, since a group ends with a colon or with the text and never with a point
(`TaskDaemon.Ip.readV4_eq_none`).
-/

namespace TaskDaemon

namespace Ip

/-- **An address that there is**: four octets, or eight groups of sixteen bits. -/
def IsProper : Ip → Prop
  | v4 octets => octets.length = 4 ∧ ∀ octet ∈ octets, octet < 256
  | v6 groups => groups.length = 8 ∧ ∀ group ∈ groups, group < 65536

instance (ip : Ip) : Decidable ip.IsProper := by
  cases ip <;> exact inferInstanceAs (Decidable (_ ∧ _))

/-! ### Numbers -/

/-- **Some characters are the digits of a number** in a radix. -/
structure Spells (radix : Nat) (run : List Char) (n : Nat) : Prop where
  /-- There is one at least. -/
  ne_nil : run ≠ []
  /-- They are digits. -/
  digits : ∀ c ∈ run, (radixDigit? radix c).isSome = true
  /-- They have the value of the number. -/
  value_eq : (run.filterMap (radixDigit? radix)).foldl (fun n d => n * radix + d) 0 = n

/-- What follows is no digit. -/
def Ends (radix : Nat) (rest : List Char) : Prop :=
  ∀ c ∈ rest.head?, radixDigit? radix c = none

/-- **A number is read** from its digits, if no digit follows. -/
theorem readNumber_of_spells {radix width n bound : Nat} {run rest : List Char} {zeros : Bool}
    (h : Spells radix run n) (hrest : Ends radix rest) (hwidth : run.length ≤ width)
    (hzeros : zeros = true ∨ (run.head? = some '0' → run.length ≤ 1)) (hbound : n < bound) :
    readNumber radix (some width) zeros bound (run ++ rest) = some (n, rest) := by
  have hrun : (run ++ rest).takeWhile (fun c => (radixDigit? radix c).isSome) = run := by
    rw [List.takeWhile_append_of_pos h.digits]
    cases rest with
    | nil => simp
    | cons c rest =>
      have hc : radixDigit? radix c = none := hrest c rfl
      simp [hc]
  have hwide : ¬(run.isEmpty = true ∨ decide (width < run.length) = true) := by
    rw [List.isEmpty_iff, decide_eq_true_eq]
    exact fun hor => hor.elim h.ne_nil (Nat.not_lt.mpr hwidth)
  have hlead : ¬(¬zeros = true ∧ run.head? = some '0' ∧ 1 < run.length) := by
    rintro ⟨hno, hhead, hlong⟩
    exact Nat.not_le.mpr hlong (hzeros.resolve_left hno hhead)
  unfold readNumber
  simp only [hrun, h.value_eq]
  rw [if_neg hwide, if_neg hlead, if_pos hbound, List.drop_left]

/-- **Nothing is read** where no digit stands. -/
theorem readNumber_eq_none {radix : Nat} {text : List Char} (h : Ends radix text)
    (width : Option Nat) (zeros : Bool) (bound : Nat) :
    readNumber radix width zeros bound text = none := by
  have hrun : text.takeWhile (fun c => (radixDigit? radix c).isSome) = [] := by
    cases text with
    | nil => rfl
    | cons c text => simp [h c rfl]
  unfold readNumber
  simp [hrun]

/-- **Digits that are written spell the number** that they have as their value. -/
theorem Spells.of_map {radix n : Nat} {write : Nat → Char} {ds : List Nat}
    (hread : ∀ d ∈ ds, radixDigit? radix (write d) = some d) (hne : ds ≠ [])
    (hvalue : ds.foldl (fun n d => n * radix + d) 0 = n) : Spells radix (ds.map write) n where
  ne_nil := fun h => hne (List.map_eq_nil_iff.mp h)
  digits := by
    intro c hc
    obtain ⟨d, hd, rfl⟩ := List.mem_map.mp hc
    rw [hread d hd]
    rfl
  value_eq := by
    have hback : (ds.map write).filterMap (radixDigit? radix) = ds := by
      clear hne hvalue
      induction ds with
      | nil => rfl
      | cons d ds ih =>
        obtain ⟨hd, hds⟩ := List.forall_mem_cons.mp hread
        rw [List.map_cons, List.filterMap_cons_some hd, ih hds]
    rw [hback, hvalue]

theorem spells_chars (n : Nat) : Spells 10 (Decimal.chars n) n := by
  have hread : ∀ d < 10, radixDigit? 10 (Decimal.digitChar d) = some d := by decide
  exact .of_map (fun d hd => hread d (Decimal.digits_lt_ten n d hd)) (Decimal.digits_ne_nil n)
    (Decimal.value_digits n)

theorem spells_toDigits (n : Nat) : Spells 16 (Nat.toDigits 16 n) n := by
  have hread : ∀ d < 16, radixDigit? 16 (Nat.digitChar d) = some d := by decide
  induction n using Nat.strong_induction_on with
  | _ n ih =>
    by_cases hsmall : n < 16
    · rw [Nat.toDigits_of_lt_base hsmall]
      have hone : Spells 16 ([n].map Nat.digitChar) n :=
        .of_map (by simpa using hread n hsmall) (List.cons_ne_nil _ _) (by simp)
      exact hone
    · obtain ⟨-, hdigits, hvalue⟩ := ih (n / 16) (by omega)
      have hlast := hread (n % 16) (Nat.mod_lt n (by decide))
      rw [Nat.toDigits_of_base_le (by decide) (Nat.le_of_not_lt hsmall)]
      refine ⟨by simp, List.forall_mem_append.mpr ⟨hdigits, ?_⟩, ?_⟩
      · simp [hlast]
      · rw [List.filterMap_append, List.foldl_append, hvalue]
        simp [hlast, Nat.div_add_mod']

/-- **An octet is read.** -/
theorem readOctet_chars {n : Nat} (hn : n < 256) {rest : List Char} (hrest : Ends 10 rest) :
    readOctet (Decimal.chars n ++ rest) = some (n, rest) := by
  refine readNumber_of_spells (spells_chars n) hrest ?_ (Or.inr fun hzero => ?_) hn
  · rw [Decimal.chars, List.length_map]
    exact Decimal.length_digits_le (by decide) (Nat.lt_trans hn (by decide))
  · -- No other number than zero has a zero in front.
    cases hdigits : Decimal.digits n with
    | nil => exact absurd hdigits (Decimal.digits_ne_nil n)
    | cons d ds =>
      have hd : d < 10 := Decimal.digits_lt_ten n d (hdigits ▸ List.mem_cons_self)
      rw [Decimal.chars, hdigits] at hzero ⊢
      obtain rfl : d = 0 :=
        Decimal.digitChar_injective hd (by decide) (Option.some.inj hzero)
      rw [(Decimal.digits_eq_zero_cons hdigits).2]
      rfl

/-- **A group is read.** -/
theorem readNumber_toDigits {n : Nat} (hn : n < 65536) {rest : List Char} (hrest : Ends 16 rest) :
    readNumber 16 (some 4) true 65536 (Nat.toDigits 16 n ++ rest) = some (n, rest) := by
  refine readNumber_of_spells (spells_toDigits n) hrest ?_ (Or.inl rfl) hn
  exact (Nat.length_toDigits_le_iff (by decide) (by decide)).mpr hn

/-! ### Version 4 -/

theorem toList_octetsText (a b c d : Nat) : (octetsText [a, b, c, d]).toList =
    Decimal.chars a ++ '.' :: (Decimal.chars b ++ '.' :: (Decimal.chars c ++
      '.' :: Decimal.chars d)) := by
  simp [octetsText, joined, Decimal.text, String.toList_append]

/-- **An address of version 4 is read.** -/
theorem readV4_octetsText {octets : List Nat} (h : (v4 octets).IsProper) :
    readV4 (octetsText octets).toList = some (octets, []) := by
  obtain ⟨hlength, hoctets⟩ := h
  obtain ⟨a, more, rfl⟩ := List.exists_cons_of_length_eq_add_one hlength
  obtain ⟨b, c, d, rfl⟩ := List.length_eq_three.mp (Nat.succ.inj hlength)
  have hpoint : ∀ rest, Ends 10 ('.' :: rest) := by
    intro rest c hc
    obtain rfl := Option.some.inj hc
    rfl
  have hend : Ends 10 [] := by
    intro c hc
    cases hc
  have hoctet : ∀ octet ∈ [a, b, c, d], ∀ rest, Ends 10 rest →
      readOctet (Decimal.chars octet ++ rest) = some (octet, rest) :=
    fun octet hoctet rest hrest => readOctet_chars (hoctets octet hoctet) hrest
  have hd := hoctet d (by simp) [] hend
  rw [List.append_nil] at hd
  rw [toList_octetsText]
  unfold readV4
  simp only [hoctet a (by simp) _ (hpoint _), hoctet b (by simp) _ (hpoint _),
    hoctet c (by simp) _ (hpoint _), hd, readChar, if_true, Option.bind_eq_bind, Option.bind_some]

/-- What is left behind a number starts where the digits end. -/
theorem rest_of_readNumber {radix value bound : Nat} {width : Option Nat} {zeros : Bool}
    {text rest : List Char} (h : readNumber radix width zeros bound text = some (value, rest)) :
    rest = text.dropWhile fun c => (radixDigit? radix c).isSome := by
  have hsplit := List.takeWhile_append_dropWhile (p := fun c => (radixDigit? radix c).isSome)
    (l := text)
  have hdrop : text.drop (text.takeWhile fun c => (radixDigit? radix c).isSome).length =
      text.dropWhile fun c => (radixDigit? radix c).isSome :=
    (congrArg (List.drop _) hsplit.symm).trans List.drop_left
  unfold readNumber at h
  dsimp only at h
  split_ifs at h
  exact (Prod.mk.inj (Option.some.inj h)).2.symm.trans hdrop

/-- **Text that ends, or has a colon in it before any point.** -/
def ColonFirst (text : List Char) : Prop :=
  ∃ front rest, text = front ++ rest ∧ '.' ∉ front ∧ (rest = [] ∨ ∃ more, rest = ':' :: more)

/-- **No address of version 4 is read** where a colon comes before the first point. -/
theorem readV4_eq_none {text : List Char} (h : ColonFirst text) : readV4 text = none := by
  have hhead : ∀ more, text.dropWhile (fun c => (radixDigit? 10 c).isSome) ≠ '.' :: more := by
    obtain ⟨front, rest, rfl, hfront, hrest⟩ := h
    intro more heq
    induction front with
    | nil =>
      rcases hrest with rfl | ⟨behind, rfl⟩
      · cases heq
      · cases heq
    | cons c front ih =>
      rw [List.cons_append] at heq
      cases hc : (radixDigit? 10 c).isSome with
      | true =>
        rw [List.dropWhile_cons, if_pos hc] at heq
        exact ih (List.not_mem_of_not_mem_cons hfront) heq
      | false =>
        rw [List.dropWhile_cons, if_neg (by rw [hc]; decide)] at heq
        exact List.ne_of_not_mem_cons hfront (List.cons.inj heq).1.symm
  unfold readV4
  cases hread : readOctet text with
  | none => rfl
  | some read =>
    obtain ⟨value, rest⟩ := read
    have hpoint : readChar '.' rest = none := by
      cases rest with
      | nil => rfl
      | cons c rest =>
        rw [readChar, if_neg]
        rintro rfl
        exact hhead rest (rest_of_readNumber hread).symm
    simp [hpoint]

/-! ### Groups -/

/-- **Groups, each behind a colon.** -/
def colonChars : List Nat → List Char
  | [] => []
  | group :: groups => ':' :: (Nat.toDigits 16 group ++ colonChars groups)

theorem toList_groupsText (group : Nat) (groups : List Nat) :
    (groupsText (group :: groups)).toList = Nat.toDigits 16 group ++ colonChars groups := by
  induction groups generalizing group with
  | nil => simp [groupsText, joined, groupText, colonChars]
  | cons next groups ih =>
    have hjoined : groupsText (group :: next :: groups) =
        groupText group ++ ":" ++ groupsText (next :: groups) := rfl
    rw [hjoined, String.toList_append, String.toList_append, ih]
    simp [groupText, colonChars]

/-- **What ends a list of groups**: the end of the text, or two colons. -/
def Stops (rest : List Char) : Prop :=
  rest = [] ∨ ∃ more, rest = ':' :: ':' :: more

/-- The end of the text, or a colon. -/
def AtColon (rest : List Char) : Prop :=
  rest = [] ∨ ∃ more, rest = ':' :: more

theorem Stops.atColon {rest : List Char} (h : Stops rest) : AtColon rest :=
  h.imp_right fun ⟨more, hmore⟩ => ⟨':' :: more, hmore⟩

theorem Stops.atColon_append {rest : List Char} (h : Stops rest) (groups : List Nat) :
    AtColon (colonChars groups ++ rest) := by
  cases groups with
  | nil => exact h.atColon
  | cons group groups => exact .inr ⟨_, rfl⟩

theorem AtColon.ends {rest : List Char} (h : AtColon rest) : Ends 16 rest := by
  intro c hc
  rcases h with rfl | ⟨more, rfl⟩
  · cases hc
  · obtain rfl := Option.some.inj hc
    rfl

theorem AtColon.colonFirst {rest : List Char} (h : AtColon rest) : ColonFirst rest :=
  ⟨[], rest, rfl, List.not_mem_nil, h⟩

/-- A group is no address of version 4, nor the start of one. -/
theorem AtColon.colonFirst_group {rest : List Char} (h : AtColon rest) (group : Nat) :
    ColonFirst (Nat.toDigits 16 group ++ rest) := by
  refine ⟨_, rest, rfl, fun hpoint => ?_, h⟩
  exact absurd ((spells_toDigits group).digits '.' hpoint) (by decide)

section Groups

variable {limit group : Nat} {groups : List Nat} {rest : List Char}

/-- **No group is read** where none stands. -/
theorem readGroups_of_stops (h : Stops rest) (limit : Nat) :
    readGroups limit false rest = ([], rest, false) := by
  cases limit with
  | zero => rfl
  | succ limit =>
    rcases h with rfl | ⟨more, rfl⟩
    · simp [readGroups, readChar]
    · have hcolon : AtColon (':' :: more) := .inr ⟨more, rfl⟩
      simp [readGroups, readChar, readV4_eq_none hcolon.colonFirst,
        readNumber_eq_none hcolon.ends]

theorem readGroups_true_of_atColon (h : AtColon rest) (limit : Nat) :
    readGroups (limit + 1) true rest = ([], rest, false) := by
  simp [readGroups, readV4_eq_none h.colonFirst, readNumber_eq_none h.ends]

/-- **One group is read**, and then those behind it. -/
theorem readGroups_step {first : Bool} {text : List Char}
    (hfirst : (if first then some text else readChar ':' text) =
      some (Nat.toDigits 16 group ++ rest))
    (hgroup : group < 65536) (hrest : AtColon rest) :
    readGroups (limit + 1) first text =
      (group :: (readGroups limit false rest).1, (readGroups limit false rest).2) := by
  rw [readGroups]
  simp only [hfirst, readV4_eq_none (hrest.colonFirst_group group), ite_self,
    readNumber_toDigits hgroup hrest.ends]

/-- **Groups behind colons are read**, as many as there is room for. -/
theorem readGroups_colonChars (hgroups : ∀ group ∈ groups, group < 65536)
    (hlimit : groups.length ≤ limit) (hrest : Stops rest) :
    readGroups limit false (colonChars groups ++ rest) = (groups, rest, false) := by
  induction groups generalizing limit with
  | nil => exact readGroups_of_stops hrest limit
  | cons group groups ih =>
    obtain ⟨hgroup, hmore⟩ := List.forall_mem_cons.mp hgroups
    obtain ⟨limit, rfl⟩ := Nat.exists_eq_succ_of_ne_zero (Nat.ne_zero_of_lt hlimit)
    have hfirst : (if false then some (colonChars (group :: groups) ++ rest)
          else readChar ':' (colonChars (group :: groups) ++ rest)) =
        some (Nat.toDigits 16 group ++ (colonChars groups ++ rest)) := by
      simp [colonChars, readChar]
    rw [readGroups_step hfirst hgroup (hrest.atColon_append groups),
      ih hmore (Nat.le_of_succ_le_succ hlimit)]

/-- **Groups are read from their text.** -/
theorem readGroups_groupsText (hgroups : ∀ group ∈ groups, group < 65536)
    (hlimit : groups.length ≤ limit) (hpos : 0 < limit) (hrest : Stops rest) :
    readGroups limit true ((groupsText groups).toList ++ rest) = (groups, rest, false) := by
  obtain ⟨limit, rfl⟩ := Nat.exists_eq_succ_of_ne_zero (Nat.ne_zero_of_lt hpos)
  cases groups with
  | nil => exact readGroups_true_of_atColon hrest.atColon limit
  | cons group groups =>
    obtain ⟨hgroup, hmore⟩ := List.forall_mem_cons.mp hgroups
    rw [toList_groupsText, List.append_assoc, readGroups_step (by simp) hgroup
      (hrest.atColon_append groups),
      readGroups_colonChars hmore (Nat.le_of_succ_le_succ hlimit) hrest]

/-- **An address of version 4 is read as two groups**, where there is room for them. -/
theorem readGroups_octets {a b c d : Nat} {text : List Char}
    (h : readV4 text = some ([a, b, c, d], rest)) :
    readGroups (limit + 2) false (':' :: text) = ([a * 256 + b, c * 256 + d], rest, true) := by
  rw [readGroups]
  simp only [readChar, Bool.false_eq_true, if_false, if_true, Nat.zero_lt_succ, h]

end Groups

/-! ### Zeros that are left out -/

/-- **A run of zeros** is as many zeros. -/
theorem eq_replicate_append {run : Nat} {groups : List Nat} (h : run ≤ zeroRun groups) :
    groups = List.replicate run 0 ++ groups.drop run := by
  induction run generalizing groups with
  | zero => rfl
  | succ run ih =>
    cases groups with
    | nil => cases h
    | cons group groups =>
      have hzero : group = 0 := by
        by_contra hne
        simp [zeroRun, hne] at h
      subst hzero
      have hrun : run ≤ zeroRun groups := by simpa [zeroRun] using h
      rw [List.replicate_succ, List.cons_append, List.drop_succ_cons, ← ih hrun]

/-- **The zeros that are left out are there.** -/
theorem longestZeros_le (groups : List Nat) :
    (longestZeros groups).2 ≤ zeroRun (groups.drop (longestZeros groups).1) := by
  -- Whatever has been found so far is a run of zeros.
  have hfold : ∀ (starts : List Nat) (best : Nat × Nat), best.2 ≤ zeroRun (groups.drop best.1) →
      let found := starts.foldl (fun best start =>
        let run := zeroRun (groups.drop start)
        if best.2 < run then (start, run) else best) best
      found.2 ≤ zeroRun (groups.drop found.1) := by
    intro starts
    induction starts with
    | nil => exact fun _ hbest => hbest
    | cons start starts ih =>
      intro best hbest
      refine ih _ ?_
      dsimp only
      split
      · exact Nat.le_refl _
      · exact hbest
  exact hfold _ (0, 0) (Nat.zero_le _)

/-! ### Version 6 -/

theorem text_v6 (groups : List Nat) : (v6 groups).text =
    if isMapped groups then "::ffff:" ++ octetsText (octetsOf (groups.drop 6))
    else if 1 < (longestZeros groups).2 then
      groupsText (groups.take (longestZeros groups).1) ++ "::" ++
        groupsText (groups.drop ((longestZeros groups).1 + (longestZeros groups).2))
    else groupsText groups := rfl

theorem toList_colons (front back : String) :
    (front ++ "::" ++ back).toList = front.toList ++ ':' :: ':' :: back.toList := by
  simp [String.toList_append]

section V6

variable {groups : List Nat}

/-- **Eight groups are read.** -/
theorem readV6_groupsText (h : (v6 groups).IsProper) :
    readV6 (groupsText groups).toList = some (groups, []) := by
  obtain ⟨hlength, hgroups⟩ := h
  have hread := readGroups_groupsText hgroups (Nat.le_of_eq hlength) (by decide)
    (.inl rfl : Stops [])
  rw [List.append_nil] at hread
  simp [readV6, hread, hlength]

/-- **Zeros that are left out are put back.** -/
theorem readV6_compressed {front back : List Nat} {run : Nat}
    (h : (v6 (front ++ (List.replicate run 0 ++ back))).IsProper) (hrun : 1 < run) :
    readV6 (groupsText front ++ "::" ++ groupsText back).toList =
      some (front ++ (List.replicate run 0 ++ back), []) := by
  obtain ⟨hlength, hgroups⟩ := h
  obtain ⟨hfront, hrest⟩ := List.forall_mem_append.mp hgroups
  have hback := (List.forall_mem_append.mp hrest).2
  simp only [List.length_append, List.length_replicate] at hlength
  have hreadFront : readGroups 8 true
      ((groupsText front).toList ++ ':' :: ':' :: (groupsText back).toList) =
        (front, ':' :: ':' :: (groupsText back).toList, false) :=
    readGroups_groupsText hfront (by omega) (by decide) (.inr ⟨_, rfl⟩)
  have hreadBack : readGroups (7 - front.length) true ((groupsText back).toList ++ []) =
      (back, [], false) :=
    readGroups_groupsText hback (by omega) (by omega) (.inl rfl)
  rw [List.append_nil] at hreadBack
  have hshort : front.length ≠ 8 := by omega
  have hzeros : 8 - front.length - back.length = run := by omega
  simp [readV6, hreadFront, hshort, readChar, hreadBack, hzeros]

/-- **An address that stands for one of version 4** is read. -/
theorem readV6_mapped {high low : Nat} (hhigh : high < 65536) (hlow : low < 65536) :
    readV6 ("::ffff:" ++ octetsText (octetsOf [high, low])).toList =
      some ([0, 0, 0, 0, 0, 0xFFFF, high, low], []) := by
  have hproper : (v4 (octetsOf [high, low])).IsProper := by
    refine ⟨rfl, ?_⟩
    simp [octetsOf]
    omega
  have hread := readV4_octetsText hproper
  have htext : ("::ffff:" ++ octetsText (octetsOf [high, low])).toList =
      ':' :: ':' :: (Nat.toDigits 16 0xFFFF ++
        ':' :: (octetsText (octetsOf [high, low])).toList) := by
    rw [String.toList_append]
    rfl
  have hnone : readGroups 8 true (':' :: ':' :: (Nat.toDigits 16 0xFFFF ++
      ':' :: (octetsText (octetsOf [high, low])).toList)) = ([], _, false) :=
    readGroups_true_of_atColon (.inr ⟨_, rfl⟩) 7
  have hlast : readGroups 6 false (':' :: (octetsText (octetsOf [high, low])).toList) =
      ([high, low], [], true) := by
    rw [readGroups_octets hread, Nat.div_add_mod', Nat.div_add_mod']
  have hsome : readGroups 7 true (Nat.toDigits 16 0xFFFF ++
      ':' :: (octetsText (octetsOf [high, low])).toList) = ([0xFFFF, high, low], [], true) := by
    rw [readGroups_step rfl (by decide) (.inr ⟨_, rfl⟩), hlast]
  simp [readV6, htext, hnone, readChar, hsome]

end V6

theorem parse?_v6 {groups : List Nat} {text : String} (hfirst : ColonFirst text.toList)
    (hread : readV6 text.toList = some (groups, [])) : parse? text = some (v6 groups) := by
  simp [parse?, readV4_eq_none hfirst, hread]

/-- Groups are no address of version 4, nor what a colon follows. -/
theorem colonFirst_groupsText (groups : List Nat) {text rest : List Char}
    (htext : text = (groupsText groups).toList ++ rest) (hrest : Stops rest) : ColonFirst text := by
  subst htext
  cases groups with
  | nil => exact hrest.atColon.colonFirst
  | cons group groups =>
    rw [toList_groupsText, List.append_assoc]
    exact (hrest.atColon_append groups).colonFirst_group group

/-- **An address is read back from its text.** -/
theorem parse?_text {ip : Ip} (h : ip.IsProper) : parse? ip.text = some ip := by
  cases ip with
  | v4 octets =>
    have hread : readV4 (v4 octets).text.toList = some (octets, []) := readV4_octetsText h
    simp [parse?, hread]
  | v6 groups =>
    rw [text_v6]
    split_ifs with hmapped hlong
    · -- The six groups in front are known, and two are left.
      have hfront : groups.take 6 = [0, 0, 0, 0, 0, 0xFFFF] := of_decide_eq_true hmapped
      have hgroups := List.take_append_drop 6 groups
      obtain ⟨high, low, hback⟩ : ∃ high low, groups.drop 6 = [high, low] :=
        List.length_eq_two.mp (by rw [List.length_drop, h.1])
      rw [hfront, hback] at hgroups
      have hlast : ∀ group ∈ [high, low], group < 65536 := by
        intro group hgroup
        exact h.2 group (List.mem_of_mem_drop (hback ▸ hgroup))
      rw [hback, ← hgroups]
      refine parse?_v6 ?_ (readV6_mapped (hlast high (by simp)) (hlast low (by simp)))
      exact colonFirst_groupsText [] (String.toList_append ..) (.inr ⟨_, rfl⟩)
    · have hzeros := eq_replicate_append (longestZeros_le groups)
      rw [List.drop_drop] at hzeros
      have hgroups := List.take_append_drop (longestZeros groups).1 groups
      rw [hzeros] at hgroups
      have hread := readV6_compressed (by rw [hgroups]; exact h) hlong
      rw [hgroups] at hread
      exact parse?_v6 (colonFirst_groupsText _ (toList_colons _ _) (.inr ⟨_, rfl⟩)) hread
    · exact parse?_v6 (colonFirst_groupsText groups (List.append_nil _).symm (.inl rfl))
        (readV6_groupsText h)

end Ip

end TaskDaemon
