import TaskDaemon.Error.Basic

/-!
# Errors that differ in what is nobody's business outside

A caller may be told what was wrong with the request, and nothing about the daemon itself. So two
errors are alike if they are the same trees, with the same operations along the way, and differ at
most in causes that do not concern the caller; what a caller sees of alike errors is to be the same.

* `TaskDaemon.ErrorKind.concernsCaller`: the kinds of error that concern the caller;
* `TaskDaemon.Error.Alike`: two errors differ at most in other causes than these;
* `TaskDaemon.Error.secrets`: the number of such other causes, and
  `TaskDaemon.Error.Alike.eq_of_secrets`: without any, an error is alike to itself only;
* `TaskDaemon.Error.Alike.concernsCaller_eq` and `TaskDaemon.Error.Alike.kind_eq`: whether an error
  concerns the caller does not depend on them;
* `TaskDaemon.Error.fill`: an error with other causes in their place, all with one message. It is
  alike (`TaskDaemon.Error.alike_fill`), and its wording grows with the message as often as there is
  a cause to be hidden (`TaskDaemon.Error.length_text_fill`).
-/

namespace TaskDaemon

/-- **A kind of error that concerns the caller**: it is about what was asked for. -/
def ErrorKind.concernsCaller : ErrorKind → Bool
  | invalidArgument => true
  | notFound => true
  | alreadyRunning => false
  | unavailable => false
  | internal => false

namespace Error

/-! ### The wording, node by node -/

theorem text_internal (message : String) :
    (Error.internal message).text = "internal error: " ++ message := rfl

theorem text_context (operation : String) (source : Error) :
    (Error.context operation source).text = operation ++ ": " ++ source.text := rfl

theorem text_multiple (errors : List Error) : (Error.multiple errors).text = joinTexts errors := rfl

theorem joinTexts_nil : joinTexts [] = "" := rfl

theorem joinTexts_singleton (error : Error) : joinTexts [error] = error.text := rfl

theorem joinTexts_cons_cons (error next : Error) (errors : List Error) :
    joinTexts (error :: next :: errors) = error.text ++ "; " ++ joinTexts (next :: errors) := rfl

/-! ### Alike errors -/

/-- **A cause**: a leaf of the tree. -/
def isCause : Error → Bool
  | context _ _ => false
  | multiple _ => false
  | _ => true

mutual

/-- **Two errors differ at most in causes that do not concern the caller.** -/
inductive Alike : Error → Error → Prop where
  /-- A cause that concerns the caller is the same in both. -/
  | told {cause : Error} (hcause : cause.isCause = true)
    (hkind : cause.kind.concernsCaller = true) : Alike cause cause
  /-- Any two other causes may stand in one place. -/
  | hidden {cause other : Error} (hcause : cause.isCause = true)
    (hkind : cause.kind.concernsCaller = false) (hother : other.isCause = true)
    (hkind' : other.kind.concernsCaller = false) : Alike cause other
  /-- What was being done is the same in both. -/
  | context (operation : String) {source other : Error} (hsource : Alike source other) :
    Alike (context operation source) (context operation other)
  /-- There are as many errors in both, alike one by one. -/
  | multiple {errors others : List Error} (herrors : AlikeAll errors others) :
    Alike (multiple errors) (multiple others)

/-- The same of lists of errors. -/
inductive AlikeAll : List Error → List Error → Prop where
  /-- There are no errors. -/
  | nil : AlikeAll [] []
  /-- The first ones are alike, and the others are. -/
  | cons {error other : Error} {errors others : List Error} (hfirst : Alike error other)
    (hrest : AlikeAll errors others) : AlikeAll (error :: errors) (other :: others)

end

mutual

/-- **The number of causes that do not concern the caller.** -/
def secrets : Error → Nat
  | context _ source => source.secrets
  | multiple errors => secretsAll errors
  | cause => if cause.kind.concernsCaller then 0 else 1

/-- The same of some errors. -/
def secretsAll : List Error → Nat
  | [] => 0
  | error :: errors => error.secrets + secretsAll errors

end

mutual

/-- **An error with other causes** where they do not concern the caller: internal ones of this
message. -/
def fill (message : String) : Error → Error
  | context operation source => context operation (source.fill message)
  | multiple errors => multiple (fillAll message errors)
  | cause => if cause.kind.concernsCaller then cause else internal message

/-- The same of some errors. -/
def fillAll (message : String) : List Error → List Error
  | [] => []
  | error :: errors => error.fill message :: fillAll message errors

end

section Cause

variable {cause : Error} (h : cause.isCause = true)
include h

theorem secrets_of_isCause :
    cause.secrets = if cause.kind.concernsCaller then 0 else 1 := by
  cases cause <;> first | rfl | cases h

theorem fill_of_isCause (message : String) :
    cause.fill message = if cause.kind.concernsCaller then cause else internal message := by
  cases cause <;> first | rfl | cases h

theorem alike_fill_of_isCause (message : String) : cause.Alike (cause.fill message) := by
  rw [fill_of_isCause h]
  by_cases hkind : cause.kind.concernsCaller = true
  · rw [if_pos hkind]
    exact .told h hkind
  · rw [if_neg hkind]
    exact .hidden h (eq_false_of_ne_true hkind) rfl rfl

theorem length_text_fill_of_isCause (message : String) :
    (cause.fill message).text.length =
      (cause.fill "").text.length + cause.secrets * message.length := by
  rw [fill_of_isCause h, fill_of_isCause h, secrets_of_isCause h]
  by_cases hkind : cause.kind.concernsCaller = true
  · simp only [if_pos hkind, Nat.zero_mul, Nat.add_zero]
  · simp only [if_neg hkind, text_internal, String.append_empty, String.length_append, Nat.one_mul]

end Cause

/-! ### What alike errors have in common -/

mutual

/-- **Alike errors concern the caller both or neither.** -/
theorem Alike.concernsCaller_eq : ∀ {error other : Error}, error.Alike other →
    error.kind.concernsCaller = other.kind.concernsCaller
  | _, _, .told _ _ => rfl
  | _, _, .hidden _ hkind _ hkind' => hkind.trans hkind'.symm
  | _, _, .context _ hsource => hsource.concernsCaller_eq
  | _, _, .multiple herrors => herrors.concernsCaller_eq

theorem AlikeAll.concernsCaller_eq : ∀ {errors others : List Error}, AlikeAll errors others →
    (Error.multiple errors).kind.concernsCaller = (Error.multiple others).kind.concernsCaller
  | _, _, .nil => rfl
  | _, _, .cons hfirst _ => hfirst.concernsCaller_eq

end

mutual

/-- **Alike errors that concern the caller** are of one kind. -/
theorem Alike.kind_eq : ∀ {error other : Error}, error.Alike other →
    error.kind.concernsCaller = true → error.kind = other.kind
  | _, _, .told _ _, _ => rfl
  | _, _, .hidden _ hkind _ _, h => absurd (hkind.symm.trans h) Bool.false_ne_true
  | _, _, .context _ hsource, h => hsource.kind_eq h
  | _, _, .multiple herrors, h => herrors.kind_eq h

theorem AlikeAll.kind_eq : ∀ {errors others : List Error}, AlikeAll errors others →
    (Error.multiple errors).kind.concernsCaller = true →
      (Error.multiple errors).kind = (Error.multiple others).kind
  | _, _, .nil, _ => rfl
  | _, _, .cons hfirst _, h => hfirst.kind_eq h

end

mutual

/-- **An error without secrets** is alike to itself only. -/
theorem Alike.eq_of_secrets : ∀ {error other : Error}, error.Alike other → error.secrets = 0 →
    error = other
  | _, _, .told _ _, _ => rfl
  | _, _, .hidden hcause hkind _ _, h => by
    rw [secrets_of_isCause hcause, hkind] at h
    cases h
  | _, _, .context operation hsource, h =>
    congrArg (Error.context operation) (hsource.eq_of_secrets h)
  | _, _, .multiple herrors, h => congrArg Error.multiple (herrors.eq_of_secrets h)

theorem AlikeAll.eq_of_secrets : ∀ {errors others : List Error}, AlikeAll errors others →
    secretsAll errors = 0 → errors = others
  | _, _, .nil, _ => rfl
  | _, _, .cons hfirst hrest, h => by
    obtain ⟨hzero, hzeros⟩ := Nat.add_eq_zero_iff.mp h
    rw [hfirst.eq_of_secrets hzero, hrest.eq_of_secrets hzeros]

end

/-! ### Other causes in the place of the hidden ones -/

mutual

/-- **An error is alike to what it becomes with other causes.** -/
theorem alike_fill (message : String) : ∀ error : Error, error.Alike (error.fill message)
  | .context operation source => .context operation (alike_fill message source)
  | .multiple errors => .multiple (alikeAll_fillAll message errors)
  | .invalidArgument _ | .taskNotFound _ | .alreadyRunning _ | .internal _ | .fileSystem _ _ _
  | .json _ | .configuration _ | .network _ _ | .rpc _ _ | .timeout _ _ =>
    alike_fill_of_isCause rfl message

theorem alikeAll_fillAll (message : String) : ∀ errors : List Error,
    AlikeAll errors (fillAll message errors)
  | [] => .nil
  | error :: errors => .cons (alike_fill message error) (alikeAll_fillAll message errors)

end

mutual

/-- **The wording of an error grows with the message** as often as a cause does not concern the
caller. -/
theorem length_text_fill (message : String) : ∀ error : Error, (error.fill message).text.length =
    (error.fill "").text.length + error.secrets * message.length
  | .context operation source => by
    have hsource := length_text_fill message source
    simp only [fill, text_context, secrets, String.length_append]
    omega
  | .multiple errors => by
    simp only [fill, text_multiple, secrets]
    exact length_joinTexts_fillAll message errors
  | .invalidArgument _ | .taskNotFound _ | .alreadyRunning _ | .internal _ | .fileSystem _ _ _
  | .json _ | .configuration _ | .network _ _ | .rpc _ _ | .timeout _ _ =>
    length_text_fill_of_isCause rfl message

theorem length_joinTexts_fillAll (message : String) : ∀ errors : List Error,
    (joinTexts (fillAll message errors)).length =
      (joinTexts (fillAll "" errors)).length + secretsAll errors * message.length
  | [] => by simp only [fillAll, joinTexts_nil, secretsAll, Nat.zero_mul, Nat.add_zero]
  | [error] => by
    have hfirst := length_text_fill message error
    simp only [fillAll, joinTexts_singleton, secretsAll, Nat.add_zero]
    exact hfirst
  | error :: next :: errors => by
    have hfirst := length_text_fill message error
    have hrest := length_joinTexts_fillAll message (next :: errors)
    simp only [fillAll, joinTexts_cons_cons, secretsAll, String.length_append, Nat.add_mul]
      at hrest ⊢
    omega

end

end Error

end TaskDaemon
