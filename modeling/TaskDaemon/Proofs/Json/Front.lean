import TaskDaemon.Proofs.Json.Admitted
import TaskDaemon.Proofs.Json.Lookahead
import TaskDaemon.Proofs.Json.Typed

/-!
# What stands at the front of a text

Reading a value of a schema looks no further than the glyph behind it
(`TaskDaemon.Json.Schema.local_read`). Lists and records tell their own end by their bracket, so
what is behind them does not matter at all (`TaskDaemon.Json.Schema.Framed.sealed_read`). Hence
there are two ways to say that a value of such a schema stands at the front of a text, and they are
the same (`TaskDaemon.Json.Schema.Framed.parseFront_eq_ok_iff`): it is what a reader gets that does
not look at what follows, or some front of the text is that value as a whole.

Of a number this is not so, since a numeral has fronts that are numerals too.

The proof is by the shape of the schema. There is a lemma for each shape, which takes what is known
of the parts as an assumption; the recursion through schemas and fields
(`TaskDaemon.Json.Schema.local_read`, `TaskDaemon.Json.Fields.local_readMember`,
`TaskDaemon.Json.Fields.local_readItems`) only puts them together.
-/

namespace TaskDaemon

namespace Json

open Attempt Cursor Way

variable {c c' : Cursor}

/-! ### Shapes read from their own glyphs -/

/-- **What is read and then converted.** -/
theorem reads_map_iff {α β : Type} {f : Cursor → Read α} {forth : α → β} {b : β} :
    Reads (fun c => (f c).map fun r => (forth r.1, r.2)) b c c' ↔
      ∃ a, forth a = b ∧ Reads f a c c' := by
  refine map_eq_ok_iff.trans ⟨?_, ?_⟩
  · rintro ⟨⟨a, behind⟩, hread, hpair⟩
    obtain ⟨rfl, rfl⟩ := Prod.mk.inj hpair
    exact ⟨a, rfl, hread⟩
  · rintro ⟨a, rfl, hread⟩
    exact ⟨_, hread, rfl⟩

theorem Atom.local_read {α : Type} (atom : Atom α) (a : α) : (Reads atom.read a).Local 1 := by
  have hscalar : Way.Local 1 fun c c' => ∃ value, atom.accept value = .ok a ∧
      Reads readScalar value c c' := .any fun value => .given fun _ => local_readScalar value
  refine ((local_blanks.comp (hscalar.guard
    fun g => ¬(g = some (.char '[') ∨ g = some (.char '\x7b')))).anti (Nat.zero_add 1).ge).congr
      fun c c' => ?_
  simp only [blanks_comp_iff, ← peek?_eq_some_iff]
  unfold Reads Atom.read
  generalize c.skipBlank = start
  dsimp only
  split
  · next hcontainer => exact iff_of_false refuse_ne_ok fun h => h.1 hcontainer
  next hscalar =>
  rw [and_iff_right hscalar]
  constructor
  · intro h
    split at h
    · cases h
    next value behind hread =>
    split at h
    · next given haccept =>
      obtain ⟨rfl, rfl⟩ := Prod.mk.inj (Except.ok.inj h)
      exact ⟨value, haccept, hread⟩
    · cases h
  · rintro ⟨value, haccept, hread⟩
    simp only [hread, haccept]

namespace Fields

variable {σ ρ τ υ : Type} {fields : Fields σ ρ} {depth : Nat}

/-- **A member of a record**, read or skipped. -/
theorem local_recordMember
    (hread : ∀ key slots after, Way.Local 0 fun c c' =>
      fields.readMember depth key slots c = some (.ok (after, c')))
    (key : String) (slots after : σ) :
    (Reads (fun c =>
      match fields.readMember depth key slots c with
      | some read => read
      | none => (do
          let c ← c.readColon
          let c ← c.skipValue
          .ok (slots, c) : Except Fault _).mapError (Fault.under (.key key))) after).Local 0 := by
  have hskip : Way.Local 0 fun c c' => (key ∉ fields.keys ∧ slots = after) ∧
      (Moves readColon).comp (Moves skipValue) c c' :=
    .given fun _ => (local_readColon.comp local_skipValue).anti (Nat.zero_le _)
  refine ((hread key slots after).or hskip).congr fun c c' => ?_
  unfold Reads
  rw [← fields.readMember_eq_none_iff depth key slots c]
  dsimp only
  cases hmember : fields.readMember depth key slots c with
  | some read => simp
  | none =>
    simp only [reduceCtorEq, false_or, true_and]
    rw [mapError_eq_ok_iff]
    constructor
    · intro h
      obtain ⟨start, hcolon, h⟩ := bind_eq_ok_iff.mp h
      obtain ⟨behind, hbehind, h⟩ := bind_eq_ok_iff.mp h
      obtain ⟨rfl, rfl⟩ := Prod.mk.inj (Except.ok.inj h)
      exact ⟨rfl, start, hcolon, hbehind⟩
    · rintro ⟨rfl, start, hcolon, hbehind⟩
      exact bind_eq_ok_iff.mpr ⟨start, hcolon, bind_eq_ok_iff.mpr ⟨c', hbehind, rfl⟩⟩

/-- **A member of a merged record**, read or kept. -/
theorem local_mergedMember
    (hread : ∀ key slots after, Way.Local 0 fun c c' =>
      fields.readMember depth key slots c = some (.ok (after, c'))) (key : String)
    (taken after : σ × List (String × Json)) :
    (Reads (fun c =>
      match fields.readMember depth key taken.1 c with
      | some read => read.map fun r => ((r.1, taken.2), r.2)
      | none =>
        (keepMember (readValue depth) key taken.2 c).map fun r => ((taken.1, r.1), r.2))
      after).Local 0 := by
  have hown : Way.Local 0 fun c c' => taken.2 = after.2 ∧
      fields.readMember depth key taken.1 c = some (.ok (after.1, c')) :=
    .given fun _ => hread key taken.1 after.1
  have hkeep : Way.Local 0 fun c c' => (key ∉ fields.keys ∧ taken.1 = after.1) ∧
      Reads (keepMember (readValue depth) key taken.2) after.2 c c' :=
    .given fun _ => local_keepMember (local_readValue depth) key taken.2 after.2
  refine (hown.or hkeep).congr fun c c' => ?_
  unfold Reads
  rw [← fields.readMember_eq_none_iff depth key taken.1 c]
  dsimp only
  obtain ⟨slots, kept⟩ := after
  cases hmember : fields.readMember depth key taken.1 c with
  | some read =>
    simp only [reduceCtorEq, false_and, or_false, map_eq_ok_iff, Option.some.injEq, Prod.mk.injEq]
    constructor
    · rintro ⟨⟨_, _⟩, rfl, ⟨rfl, rfl⟩, rfl⟩
      exact ⟨rfl, rfl⟩
    · rintro ⟨rfl, rfl⟩
      exact ⟨_, rfl, ⟨rfl, rfl⟩, rfl⟩
  | none =>
    simp only [reduceCtorEq, and_false, false_or, true_and, map_eq_ok_iff, Prod.mk.injEq]
    constructor
    · rintro ⟨⟨_, _⟩, hkept, ⟨rfl, rfl⟩, rfl⟩
      exact ⟨rfl, hkept⟩
    · rintro ⟨rfl, hkept⟩
      exact ⟨_, hkept, ⟨rfl, rfl⟩, rfl⟩

end Fields

/-- **What a container gives** its parts give. -/
theorem descend_eq_ok_iff {α : Type} {depth : Nat}
    {parts : Nat → Cursor → Except Fault (α × Cursor)} {a : α} :
    c.descend depth parts = .ok (a, c') ↔
      ∃ less, depth = less + 1 ∧ parts less c.advance = .ok (a, c') := by
  cases depth with
  | zero =>
    refine iff_of_false (fun h => by cases h) ?_
    rintro ⟨_, h, -⟩
    cases h
  | succ less =>
    refine ⟨fun h => ⟨less, rfl, h⟩, ?_⟩
    rintro ⟨_, hless, h⟩
    obtain rfl := Nat.succ.inj hless
    exact h

theorem settleMembers_eq_ok_iff {α : Type} {verdict : Except String α} {a : α} :
    c.settleMembers verdict = .ok (a, c') ↔ verdict = .ok a ∧ c' = c.advance := by
  unfold settleMembers
  cases verdict <;> simp [eq_comm]

/-- **Members that give a verdict** tell their own end. -/
theorem sealed_settled {σ α : Type} {member : Nat → String → σ → Cursor → Read σ}
    (hmember : ∀ depth key taken after, (Reads (member depth key taken) after).Local 0)
    (blank : σ) (verdict : σ → Except String α) (depth : Nat) (a : α) :
    Way.Sealed fun c c' => c.rest.head? = some (.char '\x7b') ∧
      c.descend depth (fun depth c => do
        let (slots, c) ← readMembers (member depth) c.rounds true blank c
        c.settleMembers (verdict slots)) = .ok (a, c') := by
  have hparts : Way.Sealed fun c c' => ∃ less, depth = less + 1 ∧ ∃ slots, verdict slots = .ok a ∧
      (glyph (.char '\x7b')).comp (fun c c' => ∃ c₁,
        readMembers (member less) c.rounds true blank c = .ok (slots, c₁) ∧ c' = c₁.advance) c c' :=
    .any fun less => .given fun _ => .any fun slots => .given fun _ =>
      (local_glyph _).comp_sealed (sealed_members (hmember less) blank slots)
  refine hparts.congr fun c c' => ?_
  simp only [descend_eq_ok_iff, glyph_comp_iff]
  constructor
  · rintro ⟨hbrace, less, rfl, h⟩
    obtain ⟨⟨slots, c₁⟩, hread, h⟩ := bind_eq_ok_iff.mp h
    obtain ⟨hverdict, rfl⟩ := settleMembers_eq_ok_iff.mp h
    exact ⟨less, rfl, slots, hverdict, hbrace, c₁, hread, rfl⟩
  · rintro ⟨less, rfl, slots, hverdict, hbrace, c₁, hread, rfl⟩
    exact ⟨hbrace, less, rfl, bind_eq_ok_iff.mpr
      ⟨_, hread, settleMembers_eq_ok_iff.mpr ⟨hverdict, rfl⟩⟩⟩

namespace Fields

variable {σ ρ τ υ : Type}

/-- **A record tells its own end**, if its fields are read from their own glyphs. -/
theorem sealed_record {fields : Fields σ ρ}
    (hmember : ∀ depth key slots after, Way.Local 0 fun c c' =>
      fields.readMember depth key slots c = some (.ok (after, c')))
    (hitems : ∀ name depth total done value,
      (Reads (fields.readItems name depth total done) value).Local 0)
    (name : String) (depth : Nat) (value : ρ) :
    (Reads ((Schema.record name fields).read depth) value).Sealed := by
  have hrecord : Way.Sealed fun c c' => c.rest.head? = some (.char '[') ∧
      c.descend depth (fun depth c => do
        let (record, c) ← fields.readItems name depth fields.size 0 c
        let c ← c.endItems
        .ok (record, c)) = .ok (value, c') := by
    have hparts : Way.Sealed fun c c' => ∃ less, depth = less + 1 ∧
        (glyph (.char '[')).comp ((Reads (fields.readItems name less fields.size 0) value).comp
          (Moves endItems)) c c' :=
      .any fun less => .given fun _ => (local_glyph _).comp_sealed
        ((hitems name less fields.size 0 value).comp_sealed sealed_endItems)
    refine hparts.congr fun c c' => ?_
    simp only [descend_eq_ok_iff, glyph_comp_iff]
    constructor
    · rintro ⟨hbracket, less, rfl, h⟩
      obtain ⟨⟨record, c₁⟩, hread, h⟩ := bind_eq_ok_iff.mp h
      obtain ⟨c₂, hend, h⟩ := bind_eq_ok_iff.mp h
      obtain ⟨rfl, rfl⟩ := Prod.mk.inj (Except.ok.inj h)
      exact ⟨less, rfl, hbracket, c₁, hread, hend⟩
    · rintro ⟨less, rfl, hbracket, c₁, hread, hend⟩
      exact ⟨hbracket, less, rfl,
        bind_eq_ok_iff.mpr ⟨_, hread, bind_eq_ok_iff.mpr ⟨_, hend, rfl⟩⟩⟩
  have hobject := sealed_settled (fun depth => local_recordMember (hmember depth)) fields.blank
    fields.finish depth value
  refine (local_blanks.comp_sealed (hrecord.or hobject)).congr fun c c' => ?_
  simp only [blanks_comp_iff, ← peek?_eq_some_iff]
  unfold Reads Schema.read
  generalize c.skipBlank = start
  dsimp only
  split
  · next hbracket =>
    rw [and_iff_right hbracket, or_iff_left fun h => by cases hbracket.symm.trans h.1]
  next hbracket =>
  rw [or_iff_right fun h => hbracket h.1]
  split
  · next hbrace => exact (and_iff_right hbrace).symm
  · next hbrace => exact iff_of_false refuse_ne_ok fun h => hbrace h.1

/-- **A merged record tells its own end**, if the fields of its own are read from their own
glyphs. -/
theorem sealed_merged {own : Fields σ ρ}
    (hmember : ∀ depth key slots after, Way.Local 0 fun c c' =>
      own.readMember depth key slots c = some (.ok (after, c')))
    (name : String) (others : Fields τ υ) (depth : Nat) (value : ρ × υ) :
    (Reads ((Schema.merged name own others).read depth) value).Sealed := by
  have hobject := sealed_settled (fun depth => local_mergedMember (hmember depth)) (own.blank, [])
    (fun taken => (do
      let value ← own.finish taken.1
      let slots ← taken.2.reverse.foldlM (fun slots m => others.put .countWanted m.1 m.2 slots)
        others.blank
      let rest ← others.finish slots
      .ok (value, rest) : Except String (ρ × υ))) depth value
  refine (local_blanks.comp_sealed hobject).congr fun c c' => ?_
  simp only [blanks_comp_iff, ← peek?_eq_some_iff]
  unfold Reads Schema.read
  generalize c.skipBlank = start
  dsimp only
  split
  · next hbrace => exact (and_iff_right hbrace).symm
  · next hbrace => exact iff_of_false refuse_ne_ok fun h => hbrace h.1

end Fields

namespace Schema

variable {α β : Type} {s : Schema α}

theorem local_option (hs : ∀ depth a, (Reads (s.read depth) a).Local 1) (depth : Nat)
    (value : Option α) : (Reads ((Schema.option s).read depth) value).Local 1 := by
  have hnull : Way.Local 1 fun c c' => value = none ∧
      (glyph (.char 'n')).comp (Moves (readWord ['u', 'l', 'l'])) c c' :=
    .given fun _ => ((local_glyph _).comp (local_readWord _)).anti (by decide)
  have hsome : Way.Local 1 fun c c' => c.rest.head? ≠ some (.char 'n') ∧
      ∃ inner, some inner = value ∧ Reads (s.read depth) inner c c' :=
    (Local.any fun inner => .given fun _ => hs depth inner).guard (· ≠ some (.char 'n'))
  refine ((local_blanks.comp (hnull.or hsome)).anti (Nat.zero_add 1).ge).congr fun c c' => ?_
  simp only [blanks_comp_iff, glyph_comp_iff, ← peek?_eq_some_iff, ne_eq, Reads, Schema.read, Moves]
  generalize c.skipBlank = start
  split
  · next hpeek =>
    simp only [hpeek, not_true_eq_false, false_and, or_false, true_and, map_eq_ok_iff,
      Prod.mk.injEq]
    constructor
    · rintro ⟨behind, hword, rfl, rfl⟩
      exact ⟨rfl, hword⟩
    · rintro ⟨rfl, hword⟩
      exact ⟨_, hword, rfl, rfl⟩
  · next hpeek =>
    simp only [hpeek, not_false_eq_true, false_and, and_false, false_or, true_and]
    exact reads_map_iff

theorem sealed_list (hs : ∀ depth a, (Reads (s.read depth) a).Local 1) (depth : Nat)
    (values : List α) : (Reads ((Schema.list s).read depth) values).Sealed := by
  have hparts : Way.Sealed fun c c' => ∃ less, depth = less + 1 ∧
      (glyph (.char '[')).comp (fun c c' => ∃ c₁,
        readItems (s.read less) c.rounds [] c = .ok (values, c₁) ∧ c' = c₁.advance) c c' :=
    .any fun less => .given fun _ => (local_glyph _).comp_sealed (sealed_items (hs less) values)
  refine (local_blanks.comp_sealed hparts).congr fun c c' => ?_
  simp only [blanks_comp_iff, glyph_comp_iff, ← peek?_eq_some_iff, Reads, Schema.read]
  generalize c.skipBlank = start
  split
  · next hbracket =>
    rw [descend_eq_ok_iff]
    refine exists_congr fun less => and_congr_right fun _ => ?_
    rw [and_iff_right hbracket]
    constructor
    · intro h
      obtain ⟨⟨_, c₁⟩, hread, h⟩ := bind_eq_ok_iff.mp h
      obtain ⟨rfl, rfl⟩ := Prod.mk.inj (Except.ok.inj h)
      exact ⟨c₁, hread, rfl⟩
    · rintro ⟨c₁, hread, rfl⟩
      exact bind_eq_ok_iff.mpr ⟨_, hread, rfl⟩
  · next hbracket =>
    refine iff_of_false refuse_ne_ok ?_
    rintro ⟨_, -, h, -⟩
    exact hbracket h

end Schema

namespace Fields

variable {α σ ρ : Type} {s : Schema α} {key : String} {absent : Absence α} {omits : α → Bool}
  {others : Fields σ ρ}

/-- The member of a field, or of one of the others. -/
theorem local_readMember_field (hs : ∀ depth a, (Reads (s.read depth) a).Local 1)
    (hothers : ∀ depth name slots after, Way.Local 0 fun c c' =>
      others.readMember depth name slots c = some (.ok (after, c')))
    (depth : Nat) (name : String) (slots after : Option α × σ) :
    Way.Local 0 fun c c' =>
      (Fields.field key s absent omits others).readMember depth name slots c =
        some (.ok (after, c')) := by
  obtain ⟨slot, slots⟩ := slots
  obtain ⟨slot', slots'⟩ := after
  have hvalue : Way.Local 0 fun c c' => (name = key ∧ slot = none ∧ slots = slots') ∧
      ∃ a, some a = slot' ∧ (Moves readColon).comp (Reads (s.read depth) a) c c' :=
    .given fun _ => .any fun a => .given fun _ =>
      (local_readColon.comp (hs depth a)).anti (Nat.zero_le _)
  have hother : Way.Local 0 fun c c' => (name ≠ key ∧ slot = slot') ∧
      others.readMember depth name slots c = some (.ok (slots', c')) :=
    .given fun _ => hothers depth name slots slots'
  refine (hvalue.or hother).congr fun c c' => ?_
  simp only [Fields.readMember]
  split
  · next hkey =>
    rw [or_iff_left fun h => h.1.1 hkey]
    cases slot with
    | some before => simp
    | none =>
      simp only [Option.some.injEq, mapError_eq_ok_iff, hkey, true_and]
      constructor
      · intro h
        obtain ⟨start, hcolon, h⟩ := bind_eq_ok_iff.mp h
        obtain ⟨⟨a, behind⟩, hread, h⟩ := bind_eq_ok_iff.mp h
        obtain ⟨hafter, rfl⟩ := Prod.mk.inj (Except.ok.inj h)
        obtain ⟨rfl, rfl⟩ := Prod.mk.inj hafter
        exact ⟨rfl, a, rfl, start, hcolon, hread⟩
      · rintro ⟨rfl, a, rfl, start, hcolon, hread⟩
        exact bind_eq_ok_iff.mpr ⟨start, hcolon, bind_eq_ok_iff.mpr ⟨_, hread, rfl⟩⟩
  · next hkey =>
    rw [or_iff_right fun h => hkey h.1.1]
    simp only [Option.map_eq_some_iff, map_eq_ok_iff, Prod.mk.injEq, ne_eq, hkey,
      not_false_eq_true, true_and]
    constructor
    · rintro ⟨_, hread, ⟨_, _⟩, rfl, ⟨rfl, rfl⟩, rfl⟩
      exact ⟨rfl, hread⟩
    · rintro ⟨rfl, hread⟩
      exact ⟨_, hread, ⟨_, _⟩, rfl, ⟨rfl, rfl⟩, rfl⟩

/-- The item of a field, if there is one, and those of the others. -/
theorem local_readItems_field (hs : ∀ depth a, (Reads (s.read depth) a).Local 1)
    (hothers : ∀ name depth total done value,
      (Reads (others.readItems name depth total done) value).Local 0)
    (name : String) (depth total done : Nat) (value : α × ρ) :
    (Reads ((Fields.field key s absent omits others).readItems name depth total done)
      value).Local 0 := by
  obtain ⟨a, rest⟩ := value
  have hitem : Way.Local 0 ((Reads (hasNextItem (done == 0)) true).comp
      ((Reads (s.read depth) a).comp
        (Reads (others.readItems name depth total (done + 1)) rest))) :=
    ((local_hasNextItem _ true).comp ((hs depth a).comp (hothers _ _ _ _ rest))).anti
      (Nat.zero_le _)
  have hnone : Way.Local 0 fun c c' => absent.ofArray? = some a ∧
      (Reads (hasNextItem (done == 0)) false).comp
        (Reads (others.readItems name depth total (done + 1)) rest) c c' :=
    .given fun _ => (local_hasNextItem _ false).comp (hothers _ _ _ _ rest)
  refine (hitem.or hnone).congr fun c c' => ?_
  simp only [Reads, Fields.readItems]
  constructor
  · intro h
    obtain ⟨⟨more, start⟩, hnext, h⟩ := bind_eq_ok_iff.mp h
    have hnext := mapError_eq_ok_iff.mp hnext
    cases more with
    | true =>
      obtain ⟨⟨first, behind⟩, hfirst, h⟩ := bind_eq_ok_iff.mp h
      obtain ⟨⟨others, last⟩, hothers, h⟩ := bind_eq_ok_iff.mp h
      obtain ⟨hvalue, rfl⟩ := Prod.mk.inj (Except.ok.inj h)
      obtain ⟨rfl, rfl⟩ := Prod.mk.inj hvalue
      exact Or.inl ⟨start, hnext, behind, mapError_eq_ok_iff.mp hfirst, hothers⟩
    | false =>
      dsimp only at h
      rw [if_neg Bool.false_ne_true] at h
      split at h
      · next given habsent =>
        obtain ⟨_, hgiven, h⟩ := bind_eq_ok_iff.mp h
        obtain rfl := Except.ok.inj hgiven
        obtain ⟨⟨others, last⟩, hothers, h⟩ := bind_eq_ok_iff.mp h
        obtain ⟨hvalue, rfl⟩ := Prod.mk.inj (Except.ok.inj h)
        obtain ⟨rfl, rfl⟩ := Prod.mk.inj hvalue
        exact Or.inr ⟨habsent, start, hnext, hothers⟩
      · cases h
  · rintro (⟨start, hnext, behind, hread, hothers⟩ | ⟨habsent, start, hnext, hothers⟩)
    · refine bind_eq_ok_iff.mpr ⟨_, mapError_eq_ok_iff.mpr hnext, ?_⟩
      exact bind_eq_ok_iff.mpr ⟨_, mapError_eq_ok_iff.mpr hread,
        bind_eq_ok_iff.mpr ⟨_, hothers, rfl⟩⟩
    · refine bind_eq_ok_iff.mpr ⟨_, mapError_eq_ok_iff.mpr hnext, ?_⟩
      dsimp only
      rw [if_neg Bool.false_ne_true, habsent]
      exact bind_eq_ok_iff.mpr ⟨_, rfl, bind_eq_ok_iff.mpr ⟨_, hothers, rfl⟩⟩

end Fields

mutual

/-- **A value of a schema is read from its own glyphs.** -/
theorem Schema.local_read : ∀ {α : Type} (s : Schema α) (depth : Nat) (a : α),
    (Reads (s.read depth) a).Local 1
  | _, .any, depth, _ =>
    (Local.any fun given => .given fun _ => local_readValue depth given).congr
      fun _ _ => reads_map_iff
  | _, .atom atom, _, a => atom.local_read a
  | _, .option s, depth, value => Schema.local_option s.local_read depth value
  | _, .list s, depth, values => (Schema.sealed_list s.local_read depth values).toLocal
  | _, .record name fields, depth, value =>
    (Fields.sealed_record fields.local_readMember fields.local_readItems name depth value).toLocal
  | _, .merged name own others, depth, value =>
    (Fields.sealed_merged own.local_readMember name others depth value).toLocal
  | _, .convert _ _ s, depth, _ =>
    (Local.any fun a => .given fun _ => s.local_read depth a).congr
      fun _ _ => reads_map_iff

/-- The value of a known key is read from its own glyphs. -/
theorem Fields.local_readMember : ∀ {σ ρ : Type} (fields : Fields σ ρ) (depth : Nat) (name : String)
    (slots after : σ), Way.Local 0 fun c c' =>
      fields.readMember depth name slots c = some (.ok (after, c'))
  | _, _, .done, _, _, _, _ => fun _ _ h => by cases h
  | _, _, .field _ s _ _ others, depth, name, slots, after =>
    Fields.local_readMember_field s.local_read others.local_readMember depth name slots after

/-- The fields of a record are read from the glyphs of their items. -/
theorem Fields.local_readItems : ∀ {σ ρ : Type} (fields : Fields σ ρ) (name : String)
    (depth total done : Nat) (value : ρ),
      (Reads (fields.readItems name depth total done) value).Local 0
  | _, _, .done, _, _, _, _, _ => local_stay.congr fun _ _ =>
    ⟨fun h => (Prod.mk.inj (Except.ok.inj h)).2.symm, fun h => congrArg _ (h ▸ rfl)⟩
  | _, _, .field _ s _ _ others, name, depth, total, done, value =>
    Fields.local_readItems_field s.local_read others.local_readItems name depth total done value

end

/-! ### The front of a text -/

/-- **Nothing but blanks follows.** -/
theorem Cursor.endText_eq_ok_iff : c.endText = .ok () ↔ ∀ g ∈ c.rest, isSeparator g = true := by
  have hblanks : ∀ glyphs offset, (skipBlankFrom glyphs offset).rest = [] ↔
      ∀ g ∈ glyphs, isSeparator g = true := by
    intro glyphs
    induction glyphs with
    | nil => exact fun offset => iff_of_true rfl (List.forall_mem_nil _)
    | cons glyph glyphs ih =>
      intro offset
      rw [skipBlankFrom, List.forall_mem_cons]
      split
      · next hblank => rw [ih, and_iff_right hblank]
      · next hblank => exact iff_of_false (List.cons_ne_nil _ _) fun h => hblank h.1
  rw [← hblanks c.rest c.offset, ← List.isEmpty_iff]
  unfold endText skipBlank
  dsimp only
  split
  · next hempty => exact iff_of_true rfl hempty
  · next hsome => exact iff_of_false (fun h => by cases h) hsome

namespace Schema

/-- **The values of a schema have brackets around them**, so that their end is told by the last of
their glyphs. -/
def Framed : {α : Type} → Schema α → Prop
  | _, .list _ => True
  | _, .record _ _ => True
  | _, .merged _ _ _ => True
  | _, .convert _ _ s => s.Framed
  | _, _ => False

theorem Framed.sealed_read : ∀ {α : Type} {s : Schema α}, s.Framed → ∀ (depth : Nat) (a : α),
    (Reads (s.read depth) a).Sealed
  | _, .list s, _, depth, values => sealed_list s.local_read depth values
  | _, .record name fields, _, depth, value =>
    Fields.sealed_record fields.local_readMember fields.local_readItems name depth value
  | _, .merged name own others, _, depth, value =>
    Fields.sealed_merged own.local_readMember name others depth value
  | _, .convert forth _ s, h, depth, b =>
    (Sealed.any fun a => Sealed.given (P := forth a = b) fun _ =>
      Framed.sealed_read (s := s) h depth a).congr fun _ _ => reads_map_iff

variable {α : Type} {s : Schema α} {front behind text : List Glyph} {a a' : α}

/-- **A whole text is one value** with nothing but blanks behind it. -/
theorem parse_eq_ok_iff : s.parse text = .ok a ↔
    ∃ c, s.read depthLimit (Cursor.start text) = .ok (a, c) ∧
      ∀ g ∈ c.rest, isSeparator g = true := by
  unfold parse
  constructor
  · intro h
    obtain ⟨⟨_, c⟩, hread, h⟩ := bind_eq_ok_iff.mp h
    obtain ⟨_, hend, h⟩ := bind_eq_ok_iff.mp h
    obtain rfl := Except.ok.inj h
    exact ⟨c, hread, endText_eq_ok_iff.mp hend⟩
  · rintro ⟨c, hread, hblank⟩
    exact bind_eq_ok_iff.mpr ⟨_, hread,
      bind_eq_ok_iff.mpr ⟨(), endText_eq_ok_iff.mpr hblank, rfl⟩⟩

/-- **A value with brackets around it is read from the front of a text** exactly if some front of
the text is that value as a whole. -/
theorem Framed.parseFront_eq_ok_iff (h : s.Framed) : s.parseFront text = .ok a ↔
    ∃ front behind, text = front ++ behind ∧ s.parse front = .ok a := by
  constructor
  · intro hfront
    obtain ⟨⟨value, c⟩, hread, rfl⟩ := map_eq_ok_iff.mp hfront
    obtain ⟨used, -, hrest, hsame⟩ := h.sealed_read depthLimit value hread
    have hused : s.read depthLimit (Cursor.start used) = .ok (value, ⟨[], c.offset⟩) := by
      have hempty := hsame []
      rwa [List.append_nil] at hempty
    exact ⟨used, c.rest, hrest, parse_eq_ok_iff.mpr ⟨_, hused, List.forall_mem_nil _⟩⟩
  · rintro ⟨front, behind, rfl, hparse⟩
    obtain ⟨c, hread, -⟩ := parse_eq_ok_iff.mp hparse
    obtain ⟨used, -, hrest, hsame⟩ := h.sealed_read depthLimit a hread
    have hmore := hsame (c.rest ++ behind)
    rw [← List.append_assoc, ← hrest] at hmore
    exact map_eq_ok_iff.mpr ⟨_, hmore, rfl⟩

/-- **Text behind a value with brackets around it** leaves the whole a value only if it is blank. -/
theorem Framed.parse_append_iff (h : s.Framed) (hfront : s.parse front = .ok a) :
    s.parse (front ++ behind) = .ok a' ↔ a = a' ∧ ∀ g ∈ behind, isSeparator g = true := by
  obtain ⟨c, hread, hblank⟩ := parse_eq_ok_iff.mp hfront
  obtain ⟨used, -, hrest, hsame⟩ := h.sealed_read depthLimit a hread
  have hmore : s.read depthLimit (Cursor.start (front ++ behind)) =
      .ok (a, ⟨c.rest ++ behind, c.offset⟩) := by
    have hmore := hsame (c.rest ++ behind)
    rwa [← List.append_assoc, ← hrest] at hmore
  rw [parse_eq_ok_iff, hmore]
  constructor
  · rintro ⟨c', hpair, hall⟩
    obtain ⟨rfl, rfl⟩ := Prod.mk.inj (Except.ok.inj hpair)
    exact ⟨rfl, fun g hg => hall g (List.mem_append_right _ hg)⟩
  · rintro ⟨rfl, hall⟩
    exact ⟨_, rfl, List.forall_mem_append.mpr ⟨hblank, hall⟩⟩

end Schema

end Json

end TaskDaemon
