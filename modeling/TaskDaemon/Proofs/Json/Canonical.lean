import Mathlib.Data.String.Basic
import TaskDaemon.Json.Basic

/-!
# Values in canonical form

The canonical form of an object has its keys in order, each of them once, and under each key what
the last member of that key says (`TaskDaemon.Json.membersOf_canonicalMembers`). Bringing a value
into canonical form again changes nothing (`TaskDaemon.Json.canonical_canonical`).

`TaskDaemon.Json.membersOf` looks at an object key by key, which is how records are read: it gives
all members of a key, in order.
-/

namespace TaskDaemon

namespace Json

/-- **The members of a key**, in order. -/
def membersOf (key : String) (members : List (String × Json)) : List (String × Json) :=
  members.filter fun m => m.1 = key

/-- **Members whose keys are in order**, each standing once. -/
def InOrder (members : List (String × Json)) : Prop :=
  members.Pairwise fun m n => m.1 < n.1

/-! ### One member more -/

theorem key_of_mem_insertMember {key : String} {value : Json} {members : List (String × Json)}
    {m : String × Json} (h : m ∈ insertMember key value members) :
    m = (key, value) ∨ m ∈ members := by
  induction members with
  | nil => exact Or.inl (List.mem_singleton.mp h)
  | cons head rest ih =>
    obtain ⟨k, v⟩ := head
    simp only [insertMember] at h
    split at h
    · exact List.mem_cons.mp h
    split at h
    · exact (List.mem_cons.mp h).imp_right (List.mem_cons_of_mem _)
    · rcases List.mem_cons.mp h with rfl | hrest
      · exact Or.inr List.mem_cons_self
      · exact (ih hrest).imp_right (List.mem_cons_of_mem _)

/-- **Putting a member where it belongs** keeps the keys in order. -/
theorem InOrder.insertMember {members : List (String × Json)} (h : InOrder members) (key : String)
    (value : Json) : InOrder (insertMember key value members) := by
  induction members with
  | nil => exact List.pairwise_singleton _ _
  | cons head rest ih =>
    obtain ⟨k, v⟩ := head
    obtain ⟨hhead, hrest⟩ := List.pairwise_cons.mp h
    simp only [Json.insertMember]
    split
    · next hlt =>
      refine List.pairwise_cons.mpr ⟨?_, h⟩
      intro m hm
      rcases List.mem_cons.mp hm with rfl | hm
      · exact hlt
      · exact hlt.trans (hhead m hm)
    split
    · next heq =>
      subst heq
      exact List.pairwise_cons.mpr ⟨hhead, hrest⟩
    · next hge hne =>
      refine List.pairwise_cons.mpr ⟨?_, ih hrest⟩
      intro m hm
      rcases key_of_mem_insertMember hm with rfl | hm
      · exact lt_of_le_of_ne (not_lt.mp hge) fun heq => hne heq.symm
      · exact hhead m hm

/-- **The members of a key after one was put in**: it alone under its own key. -/
theorem membersOf_insertMember {members : List (String × Json)} (h : InOrder members) (key : String)
    (value : Json) (name : String) :
    membersOf name (insertMember key value members) =
      if key = name then [(key, value)] else membersOf name members := by
  induction members with
  | nil =>
    unfold membersOf insertMember
    split <;> simp [*]
  | cons head rest ih =>
    obtain ⟨k, v⟩ := head
    obtain ⟨hhead, hrest⟩ := List.pairwise_cons.mp h
    have hless : ∀ {m : String × Json}, m ∈ rest → k < m.1 := fun hm => hhead _ hm
    have hnone : key ≤ k → membersOf key rest = [] := by
      intro hle
      refine List.filter_eq_nil_iff.mpr fun m hm => ?_
      have hne : m.1 ≠ key := (lt_of_le_of_lt hle (hless hm)).ne'
      simpa using hne
    simp only [insertMember]
    split
    · next hlt =>
      by_cases hname : key = name
      · subst hname
        have hk : k ≠ key := hlt.ne'
        have hrest := hnone hlt.le
        unfold membersOf at hrest ⊢
        simp [hk, hrest]
      · unfold membersOf
        simp [hname]
    split
    · next hlt heq =>
      subst heq
      by_cases hname : key = name
      · subst hname
        have hrest := hnone le_rfl
        unfold membersOf at hrest ⊢
        simp [hrest]
      · unfold membersOf
        simp [hname]
    · next hge hne =>
      have hrec := ih hrest
      unfold membersOf at hrec ⊢
      by_cases hname : key = name
      · subst hname
        have hk : k ≠ key := fun heq => hne heq.symm
        simp [hk, hrec]
      · simp only [List.filter_cons, hrec, if_neg hname]

/-! ### All members -/

theorem InOrder.canonicalMembers {done : List (String × Json)} (h : InOrder done)
    (members : List (String × Json)) : InOrder (canonicalMembers members done) := by
  induction members generalizing done with
  | nil => exact h
  | cons m rest ih => exact ih (h.insertMember m.1 (canonical m.2))

/-- **What stands under a key of the canonical form**: what the last member of the key says. -/
theorem membersOf_canonicalMembers {done : List (String × Json)} (h : InOrder done)
    (members : List (String × Json)) (name : String) :
    membersOf name (canonicalMembers members done) =
      match (membersOf name members).getLast? with
      | some m => [(name, canonical m.2)]
      | none => membersOf name done := by
  induction members generalizing done with
  | nil => rfl
  | cons m rest ih =>
    obtain ⟨key, value⟩ := m
    rw [canonicalMembers, ih (h.insertMember key (canonical value))]
    by_cases hname : key = name
    · subst hname
      have hcons : membersOf key ((key, value) :: rest) = (key, value) :: membersOf key rest := by
        simp [membersOf]
      rw [hcons, List.getLast?_cons]
      cases (membersOf key rest).getLast? with
      | some m => rfl
      | none =>
        rw [membersOf_insertMember h, if_pos rfl]
        rfl
    · have hcons : membersOf name ((key, value) :: rest) = membersOf name rest := by
        simp [membersOf, hname]
      rw [hcons, membersOf_insertMember h, if_neg hname]

/-! ### What stands under a key -/

/-- The value under a key is that of the last member of the key. -/
theorem member?_object (key : String) (members : List (String × Json)) :
    (Json.object members).member? key = ((membersOf key members).getLast?).map Prod.snd := by
  have hlast : (membersOf key members).getLast? = members.reverse.find? fun m => m.1 == key := by
    rw [← List.head?_reverse, membersOf, ← List.filter_reverse, List.head?_filter]
    rfl
  rw [hlast]
  rfl

/-- **Under a key of the canonical form** stands the canonical form of what stood there. -/
theorem member?_canonical (key : String) (value : Json) :
    value.canonical.member? key = (value.member? key).map canonical := by
  cases value with
  | object members =>
    rw [canonical, member?_object, member?_object,
      membersOf_canonicalMembers List.Pairwise.nil members key]
    cases (membersOf key members).getLast? <;> rfl
  | _ => rfl

/-! ### Canonical form, twice -/

/-- A member that comes last is put at the end. -/
theorem insertMember_of_last {members : List (String × Json)} {key : String} (value : Json)
    (h : ∀ m ∈ members, m.1 < key) :
    insertMember key value members = members ++ [(key, value)] := by
  induction members with
  | nil => rfl
  | cons head rest ih =>
    obtain ⟨k, v⟩ := head
    have hk : k < key := h (k, v) List.mem_cons_self
    simp only [insertMember, if_neg hk.asymm, if_neg hk.ne', List.cons_append]
    rw [ih fun m hm => h m (List.mem_cons_of_mem _ hm)]

/-- Members in order whose values are canonical stay as they are. -/
theorem canonicalMembers_of_inOrder {members done : List (String × Json)}
    (h : InOrder (done ++ members)) (hvalues : ∀ m ∈ members, canonical m.2 = m.2) :
    canonicalMembers members done = done ++ members := by
  induction members generalizing done with
  | nil => rw [canonicalMembers, List.append_nil]
  | cons m rest ih =>
    obtain ⟨key, value⟩ := m
    have hlast : ∀ m ∈ done, m.1 < key :=
      fun m hm => (List.pairwise_append.mp h).2.2 m hm (key, value) List.mem_cons_self
    have hsplit : done ++ (key, value) :: rest = (done ++ [(key, value)]) ++ rest := by simp
    rw [canonicalMembers, hvalues (key, value) List.mem_cons_self, insertMember_of_last value hlast,
      hsplit]
    exact ih (hsplit ▸ h) fun m hm => hvalues m (List.mem_cons_of_mem _ hm)

mutual

/-- **Canonical form is brought about once**: what is in it stays as it is. -/
theorem canonical_canonical : ∀ value : Json, canonical (canonical value) = canonical value
  | .null => rfl
  | .bool _ => rfl
  | .number _ => rfl
  | .string _ => rfl
  | .array items => by
    simp only [canonical]
    exact congrArg Json.array (canonicalItems_canonicalItems items)
  | .object members => by
    simp only [canonical]
    have hkept : canonicalMembers (canonicalMembers members []) [] = canonicalMembers members [] :=
      canonicalMembers_of_inOrder (InOrder.canonicalMembers List.Pairwise.nil members)
      (canonical_of_mem members (by simp))
    exact congrArg Json.object hkept

theorem canonicalItems_canonicalItems : ∀ items : List Json,
    canonicalItems (canonicalItems items) = canonicalItems items
  | [] => rfl
  | item :: rest => by
    simp only [canonicalItems]
    rw [canonical_canonical item, canonicalItems_canonicalItems rest]

theorem canonical_of_mem : ∀ (members : List (String × Json)) {done : List (String × Json)},
    (∀ m ∈ done, canonical m.2 = m.2) →
      ∀ m ∈ canonicalMembers members done, canonical m.2 = m.2
  | [], _, hdone => hdone
  | (key, value) :: rest, done, hdone => by
    refine canonical_of_mem rest fun m hm => ?_
    rcases key_of_mem_insertMember hm with rfl | hm
    · exact canonical_canonical value
    · exact hdone m hm

end

theorem canonicalItems_eq_map (items : List Json) : canonicalItems items = items.map canonical := by
  induction items with
  | nil => rfl
  | cons item items ih => rw [canonicalItems, ih, List.map_cons]

end Json

end TaskDaemon
