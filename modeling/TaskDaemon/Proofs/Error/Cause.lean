import Mathlib.Logic.Relation
import TaskDaemon.Proofs.Error.Alike
import TaskDaemon.Rest.Service
import TaskDaemon.Rpc.Service

/-!
# What an error is about

An error is about one of its leaves: below a context it is about the source, and of several errors
it is about the first (`TaskDaemon.Error.Leads`). So every error leads to one leaf
(`TaskDaemon.Error.exists_leaf`, `TaskDaemon.Error.leaf_unique`), which is a cause, or nothing at
all where a set of errors is empty.

The kind of an error is that of the leaf (`TaskDaemon.Error.kind_eq_of_leads`), and all that the
protocols tell of an error but its words is taken from the kind. So contexts around an error
(`TaskDaemon.Error.within`) change nothing but the words, and to these they only add in front
(`TaskDaemon.Error.text_within`).
-/

namespace TaskDaemon

open Relation

namespace Error

/-- **What an error is about, one level down.** -/
inductive Leads : Error → Error → Prop where
  /-- A context is about its source. -/
  | context (operation : String) (source : Error) : Leads (context operation source) source
  /-- Several errors are about the first. -/
  | multiple (error : Error) (errors : List Error) : Leads (multiple (error :: errors)) error

/-- **A leaf**: a cause, or an empty set. -/
def IsLeaf (error : Error) : Prop :=
  error.isCause = true ∨ error = multiple []

section Leads

variable {error other leaf leaf' : Error}

theorem IsLeaf.not_leads (h : error.IsLeaf) : ¬Leads error other := by
  rintro (_ | _) <;> rcases h with h | h <;> cases h

theorem Leads.unique {other' : Error} (h : Leads error other) (h' : Leads error other') :
    other = other' := by
  cases h <;> cases h' <;> rfl

theorem Leads.kind_eq (h : Leads error other) : error.kind = other.kind := by
  cases h <;> rfl

/-- **The kind of an error** is that of whatever it is about. -/
theorem kind_eq_of_leads (h : ReflTransGen Leads error other) : error.kind = other.kind := by
  induction h with
  | refl => rfl
  | tail _ hstep ih => exact ih.trans hstep.kind_eq

/-- **Every error leads to a leaf.** -/
theorem exists_leaf : ∀ error : Error, ∃ leaf, ReflTransGen Leads error leaf ∧ leaf.IsLeaf
  | .context operation source => by
    obtain ⟨leaf, hleads, hleaf⟩ := exists_leaf source
    exact ⟨leaf, hleads.head (.context operation source), hleaf⟩
  | .multiple (error :: errors) => by
    obtain ⟨leaf, hleads, hleaf⟩ := exists_leaf error
    exact ⟨leaf, hleads.head (.multiple error errors), hleaf⟩
  | .multiple [] => ⟨_, .refl, .inr rfl⟩
  | .invalidArgument _ | .taskNotFound _ | .alreadyRunning _ | .internal _ | .fileSystem _ _ _
  | .json _ | .configuration _ | .network _ _ | .rpc _ _ | .timeout _ _ => ⟨_, .refl, .inl rfl⟩

/-- **An error leads to one leaf only**, since on the way there is no choice. -/
theorem leaf_unique (h : ReflTransGen Leads error leaf) (hleaf : leaf.IsLeaf)
    (h' : ReflTransGen Leads error leaf') (hleaf' : leaf'.IsLeaf) : leaf = leaf' := by
  induction h using ReflTransGen.head_induction_on with
  | refl =>
    obtain rfl | ⟨next, hnext, -⟩ := h'.cases_head
    · rfl
    · exact absurd hnext hleaf.not_leads
  | head hfirst _ ih =>
    obtain rfl | ⟨next, hnext, hrest⟩ := h'.cases_head
    · exact absurd hfirst hleaf'.not_leads
    · exact ih (hfirst.unique hnext ▸ hrest)

end Leads

/-! ### Contexts -/

/-- **An error within operations**, the outermost first. -/
def within (operations : List String) (error : Error) : Error :=
  operations.foldr context error

/-- What is said in front of an error for the operations it is within. -/
def lead (operations : List String) : String :=
  String.join (operations.map (· ++ ": "))

theorem kind_within (operations : List String) (error : Error) :
    (within operations error).kind = error.kind := by
  induction operations with
  | nil => rfl
  | cons operation operations ih => exact ih

/-- **Contexts are words in front.** -/
theorem text_within (operations : List String) (error : Error) :
    (within operations error).text = lead operations ++ error.text := by
  induction operations with
  | nil => simp [within, lead]
  | cons operation operations ih =>
    have hjoin : lead (operation :: operations) = operation ++ ": " ++ lead operations := by
      simp [lead]
    change operation ++ ": " ++ (within operations error).text = _
    rw [ih, hjoin]
    simp only [String.append_assoc]

/-- **Contexts do not show in the code** of an error over RPC. -/
theorem code_within (operations : List String) (error : Error) :
    (Rpc.Failure.ofError (within operations error)).code = (Rpc.Failure.ofError error).code :=
  congrArg ErrorKind.rpcCode (kind_within operations error)

/-- The status of an error depends on its kind only. -/
theorem status_congr {error other : Error} (h : error.kind = other.kind) :
    (Rest.Response.ofError error).status = (Rest.Response.ofError other).status := by
  change (Rest.statusOf error).1 = (Rest.statusOf other).1
  unfold Rest.statusOf
  rw [h]
  cases other.kind <;> rfl

end Error

end TaskDaemon
