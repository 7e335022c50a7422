import Mathlib.Data.List.Induction
import Mathlib.Order.Nat
import TaskDaemon.Daemon.Lifecycle

/-!
# A server lives once

Calls of `serve`, stops, ends of accept loops and the dropping of a call may come in any order. What
others see of the server goes one way all the same, and the addresses are there from the moment at
which it listens.

* the order of `TaskDaemon.ServerState`, in which states follow one another;
* `TaskDaemon.Lifecycle.Move`: the six ways in which a life goes on, one of which every event takes
  (`TaskDaemon.Lifecycle.move_step`);
* `TaskDaemon.Lifecycle.Orderly`: how the state, the addresses and the stop signals hang on how far
  the first call of `serve` is, in every life of a new server (`TaskDaemon.Lifecycle.orderly_run`);
* `TaskDaemon.Lifecycle.Opens`: the server begins to listen, and `TaskDaemon.Lifecycle.opens_iff`:
  when it does.

The main result is `TaskDaemon.Lifecycle.lives_once`.
-/

namespace TaskDaemon

namespace ServerState

/-- **How far a state is** in the life of a server. -/
def rank : ServerState → Nat
  | created => 0
  | listening => 1
  | draining => 2
  | stopped => 3

/-- **The order of the states**: created, listening, draining, stopped. -/
instance : Preorder ServerState := Preorder.lift rank

theorem le_iff {state other : ServerState} : state ≤ other ↔ state.rank ≤ other.rank :=
  Iff.rfl

theorem le_stopped (state : ServerState) : state ≤ stopped := by
  rw [le_iff]
  cases state <;> decide

/-- Nothing comes after the end. -/
theorem eq_stopped_of_le {state : ServerState} (h : stopped ≤ state) : state = stopped := by
  rw [le_iff] at h
  cases state <;> first | rfl | exact absurd h (by decide)

end ServerState

namespace Lifecycle

/-! ### One event -/

/-- **How a life goes on** when an event happens. -/
inductive Move (life : Lifecycle) : Event → Lifecycle → Prop where
  /-- Nothing changes. -/
  | rest {event : Event} : Move life event life
  /-- The first call of `serve` is made. -/
  | call (phase : life.phase = .notCalled) : Move life .serve { life with phase := .binding }
  /-- Both listeners are bound, and nobody has asked to stop. -/
  | listen {listeners : Listeners} (phase : life.phase = .binding) (state : life.state = .created) :
    Move life (.bind (.ok listeners))
      { life with state := .listening, phase := .serving, bound := some listeners }
  /-- The first call of `serve` comes to its end. -/
  | exit {event : Event} (phase : life.phase = .binding ∨ life.phase = .serving) :
    Move life event life.exit
  /-- Someone asks to stop. -/
  | ask {event : Event} {flags : StopFlags} (asks : event = .gracefulStop ∨ event = .stop)
    (asked : flags = life.flags.drain ∨ flags = life.flags.abort) :
    Move life event { life with state := beginStop life.state, flags := flags }
  /-- An accept loop ends. -/
  | wane (phase : life.phase = .serving ∨ life.phase = .over) :
    Move life .loopEnd { life with state := beginDraining life.state, flags := life.flags.drain }

/-- **Every event is a move.** -/
theorem move_step (life : Lifecycle) (event : Event) : Move life event (life.step event) := by
  -- An event that cannot happen at the time is a rest.
  have hguard : ∀ {p : Prop} [Decidable p] {event : Event} {after : Lifecycle},
      (p → Move life event after) → Move life event (if p then after else life) := by
    intro p _ event after hafter
    by_cases hp : p
    · rw [if_pos hp]
      exact hafter hp
    · rw [if_neg hp]
      exact .rest
  cases event with
  | serve => exact hguard fun hphase => .call hphase
  | bind outcome =>
    refine hguard fun hphase => ?_
    cases outcome with
    | error error => exact .exit (Or.inl hphase)
    | ok listeners =>
      dsimp only
      split
      · next hstate => exact .listen hphase hstate
      · exact .exit (Or.inl hphase)
  | gracefulStop => exact .ask (Or.inl rfl) (Or.inl rfl)
  | stop => exact .ask (Or.inr rfl) (Or.inr rfl)
  | loopEnd => exact hguard fun hphase => .wane hphase
  | finish => exact hguard fun hphase => .exit (Or.inr hphase)
  | cancel => exact hguard fun hphase => .exit hphase

theorem le_beginStop (state : ServerState) : state ≤ beginStop state := by
  rw [ServerState.le_iff]
  cases state <;> decide

theorem le_beginDraining (state : ServerState) : state ≤ beginDraining state := by
  rw [ServerState.le_iff]
  cases state <;> decide

/-- **A life moves forward.** -/
theorem Move.le {life after : Lifecycle} {event : Event} (h : Move life event after) :
    life.state ≤ after.state := by
  cases h with
  | rest => exact le_rfl
  | call => exact le_rfl
  | listen phase state =>
    rw [state]
    exact (by decide : ServerState.created.rank ≤ ServerState.listening.rank)
  | exit => exact ServerState.le_stopped life.state
  | ask => exact le_beginStop life.state
  | wane => exact le_beginDraining life.state

/-- **What holds at every moment of a server's life**, by how far its first call of `serve` is. -/
structure Orderly (life : Lifecycle) : Prop where
  /-- Before it serves there are no addresses, and it may already have been stopped. -/
  early : life.phase = .notCalled ∨ life.phase = .binding →
    life.bound = none ∧ (life.state = .created ∨ life.state = .stopped)
  /-- While it serves there are addresses, and it listens or drains. -/
  serving : life.phase = .serving →
    life.bound.isSome ∧ (life.state = .listening ∨ life.state = .draining)
  /-- When it has served, it is stopped, and both kinds of stop have been asked for. -/
  ended : life.phase = .over → life.state = .stopped ∧ life.flags = ⟨true, true⟩

theorem Orderly.move {life after : Lifecycle} {event : Event} (h : Orderly life)
    (hmove : Move life event after) : Orderly after := by
  cases hmove with
  | rest => exact h
  | call phase => exact ⟨fun _ => h.early (Or.inl phase), nofun, nofun⟩
  | listen phase state =>
    refine ⟨fun hphase => ?_, fun _ => ⟨rfl, Or.inl rfl⟩, nofun⟩
    rcases hphase with hphase | hphase <;> cases hphase
  | exit phase =>
    refine ⟨fun hphase => ?_, nofun, fun _ => ⟨rfl, rfl⟩⟩
    rcases hphase with hphase | hphase <;> cases hphase
  | ask asks asked =>
    refine ⟨fun hphase => ?_, fun hphase => ?_, fun hphase => ?_⟩
    · obtain ⟨hbound, hstate | hstate⟩ := h.early hphase <;>
        exact ⟨hbound, Or.inr (by simp only [hstate, beginStop])⟩
    · obtain ⟨hbound, hstate | hstate⟩ := h.serving hphase <;>
        exact ⟨hbound, Or.inr (by simp only [hstate, beginStop])⟩
    · obtain ⟨hstate, hflags⟩ := h.ended hphase
      refine ⟨by simp only [hstate, beginStop], ?_⟩
      rcases asked with rfl | rfl
      · exact congrArg StopFlags.drain hflags
      · rfl
  | wane phase =>
    refine ⟨fun hphase => ?_, fun hphase => ?_, fun hphase => ?_⟩
    · rcases hphase with hphase | hphase <;> rw [hphase] at phase <;>
        rcases phase with h | h <;> cases h
    · obtain ⟨hbound, hstate | hstate⟩ := h.serving hphase <;>
        exact ⟨hbound, Or.inr (by simp only [hstate, beginDraining])⟩
    · obtain ⟨hstate, hflags⟩ := h.ended hphase
      exact ⟨by simp only [hstate, beginDraining], congrArg StopFlags.drain hflags⟩

/-- A server that has not come to anything has no addresses. -/
theorem Orderly.bound_of_created {life : Lifecycle} (h : Orderly life)
    (hstate : life.state = .created) : life.bound = none := by
  cases hphase : life.phase with
  | notCalled => exact (h.early (Or.inl hphase)).1
  | binding => exact (h.early (Or.inr hphase)).1
  | serving =>
    rcases (h.serving hphase).2 with hother | hother <;> rw [hstate] at hother <;> cases hother
  | «over» =>
    have hother := (h.ended hphase).1
    rw [hstate] at hother
    cases hother

/-- **Addresses come with the first thing that others see**, and not later. -/
theorem Move.bound_eq {life after : Lifecycle} {event : Event} (h : Move life event after)
    (hstate : life.state ≠ .created) : after.bound = life.bound := by
  cases h with
  | listen phase state => exact absurd state hstate
  | rest => rfl
  | call => rfl
  | exit => rfl
  | ask => rfl
  | wane => rfl

/-! ### A whole life -/

theorem run_append (life : Lifecycle) (past later : List Event) :
    life.run (past ++ later) = (life.run past).run later :=
  List.foldl_append

theorem run_concat (life : Lifecycle) (past : List Event) (event : Event) :
    life.run (past ++ [event]) = (life.run past).step event :=
  run_append life past [event]

theorem le_run (life : Lifecycle) (events : List Event) : life.state ≤ (life.run events).state := by
  induction events generalizing life with
  | nil => exact le_rfl
  | cons event events ih => exact (move_step life event).le.trans (ih (life.step event))

theorem Orderly.run {life : Lifecycle} (h : Orderly life) (events : List Event) :
    Orderly (life.run events) := by
  induction events generalizing life with
  | nil => exact h
  | cons event events ih => exact ih (h.move (move_step life event))

theorem orderly_new : Orderly {} where
  early _ := ⟨rfl, Or.inl rfl⟩
  serving h := by cases h
  ended h := by cases h

/-- **The life of a new server is orderly.** -/
theorem orderly_run (events : List Event) : Orderly (run {} events) :=
  orderly_new.run events

/-- A server that others have seen in another state is never new again. -/
theorem ne_created_run {life : Lifecycle} (h : life.state ≠ .created) (events : List Event) :
    (life.run events).state ≠ .created := by
  have hle := le_run life events
  intro hcreated
  rw [hcreated, ServerState.le_iff] at hle
  cases hstate : life.state <;> rw [hstate] at hle h <;>
    first | exact h rfl | exact absurd hle (by decide)

theorem bound_run {life : Lifecycle} (h : life.state ≠ .created) (events : List Event) :
    (life.run events).bound = life.bound := by
  induction events generalizing life with
  | nil => rfl
  | cons event events ih =>
    have hstep : (life.step event).state ≠ .created := ne_created_run h [event]
    exact (ih hstep).trans ((move_step life event).bound_eq h)

/-- **Who has asked to stop** is seen to have asked. -/
theorem ne_created_of_asked {past : List Event} {event : Event} (hmem : event ∈ past)
    (hasks : event = .gracefulStop ∨ event = .stop) : (run {} past).state ≠ .created := by
  obtain ⟨before, later, rfl⟩ := List.append_of_mem hmem
  rw [List.append_cons, run_append, run_concat]
  refine ne_created_run ?_ later
  rcases hasks with rfl | rfl <;>
    exact fun h => by cases hstate : (run {} before).state <;> simp [step, hstate, beginStop] at h

/-- **A move makes the first call of `serve`**, or leaves it made or not as it was. -/
theorem Move.phase_eq_iff {life after : Lifecycle} {event : Event} (h : Move life event after)
    (hevent : event ≠ .serve) : after.phase = .notCalled ↔ life.phase = .notCalled := by
  cases h with
  | rest => exact Iff.rfl
  | call => exact absurd rfl hevent
  | listen phase state =>
    rw [phase]
    constructor <;> intro h <;> cases h
  | exit phase =>
    constructor
    · intro h
      cases h
    · intro h
      rw [h] at phase
      rcases phase with h | h <;> cases h
  | ask => exact Iff.rfl
  | wane => exact Iff.rfl

/-- **The first call of `serve` is the first one there is.** -/
theorem phase_run_eq_iff (past : List Event) :
    (run {} past).phase = .notCalled ↔ Event.serve ∉ past := by
  induction past using List.reverseRecOn with
  | nil => exact ⟨fun _ => List.not_mem_nil, fun _ => rfl⟩
  | append_singleton past event ih =>
    rw [run_concat, List.mem_append, List.mem_singleton, not_or]
    by_cases hevent : event = .serve
    · subst hevent
      refine ⟨fun h => ?_, fun h => absurd rfl h.2⟩
      simp only [step] at h
      split at h
      · cases h
      · next hphase => exact absurd h hphase
    · rw [(move_step _ event).phase_eq_iff hevent, ih]
      exact ⟨fun h => ⟨h, Ne.symm hevent⟩, fun h => h.1⟩

/-! ### Listening -/

/-- **The server begins to listen** at an event. -/
def Opens (past : List Event) (event : Event) : Prop :=
  (run {} past).state ≠ .listening ∧ (run {} (past ++ [event])).state = .listening

/-- **When a server begins to listen**: the first call of `serve` has bound both listeners, and
nobody has come before. -/
theorem opens_iff {past : List Event} {event : Event} :
    Opens past event ↔ ∃ listeners, event = .bind (.ok listeners) ∧
      (run {} past).phase = .binding ∧ (run {} past).state = .created := by
  rw [Opens]
  rw [run_concat]
  constructor
  · rintro ⟨hbefore, hafter⟩
    have hmove := move_step (run {} past) event
    generalize (run {} past).step event = after at hmove hafter
    cases hmove with
    | rest => exact absurd hafter hbefore
    | call => exact absurd hafter hbefore
    | listen phase state => exact ⟨_, rfl, phase, state⟩
    | exit => cases hafter
    | ask =>
      cases hstate : (run {} past).state <;> simp only [hstate, beginStop] at hafter <;>
        cases hafter
    | wane =>
      cases hstate : (run {} past).state <;> simp only [hstate, beginDraining] at hafter <;>
        cases hafter
  · rintro ⟨listeners, rfl, hphase, hstate⟩
    refine ⟨by rw [hstate]; nofun, ?_⟩
    simp only [step, if_pos hphase, if_pos hstate]

/-- **The addresses are those of the listeners that were bound** when the server began to
listen. -/
theorem Opens.bound {past : List Event} {listeners : Listeners}
    (h : Opens past (.bind (.ok listeners))) (later : List Event) :
    (run {} (past ++ .bind (.ok listeners) :: later)).bound = some listeners := by
  obtain ⟨_, -, hphase, hstate⟩ := opens_iff.mp h
  rw [List.append_cons, run_append, run_concat]
  have hstep : (run {} past).step (.bind (.ok listeners)) =
      { run {} past with state := .listening, phase := .serving, bound := some listeners } := by
    simp only [step, if_pos hphase, if_pos hstate]
  rw [hstep]
  exact bound_run (fun hnew => by cases hnew) later

/-- **Addresses change only when the server begins to listen.** -/
theorem bound_ne_iff (past : List Event) (event : Event) :
    (run {} (past ++ [event])).bound ≠ (run {} past).bound ↔ Opens past event := by
  constructor
  · intro hbound
    rw [run_concat] at hbound
    have hmove := move_step (run {} past) event
    generalize (run {} past).step event = after at hmove hbound
    cases hmove with
    | listen phase state => exact opens_iff.mpr ⟨_, rfl, phase, state⟩
    | rest => exact absurd rfl hbound
    | call => exact absurd rfl hbound
    | exit => exact absurd rfl hbound
    | ask => exact absurd rfl hbound
    | wane => exact absurd rfl hbound
  · intro hopens
    obtain ⟨listeners, rfl, -, hstate⟩ := opens_iff.mp hopens
    rw [hopens.bound [], (orderly_run past).bound_of_created hstate]
    nofun

/-- **Where there are addresses, the server began to listen.** -/
theorem exists_opens {past : List Event} {listeners : Listeners}
    (h : (run {} past).bound = some listeners) :
    ∃ before later, past = before ++ .bind (.ok listeners) :: later ∧
      Opens before (.bind (.ok listeners)) := by
  induction past using List.reverseRecOn with
  | nil => cases h
  | append_singleton past event ih =>
    by_cases hopens : Opens past event
    · obtain ⟨others, rfl, -⟩ := opens_iff.mp hopens
      rw [hopens.bound []] at h
      obtain rfl := Option.some.inj h
      exact ⟨past, [], rfl, hopens⟩
    · have hsame := not_not.mp (mt (bound_ne_iff past event).mp hopens)
      obtain ⟨before, later, rfl, hbefore⟩ := ih (hsame ▸ h)
      exact ⟨before, later ++ [event], by simp, hbefore⟩

/-- **Those who wait are told the addresses**, if the server ever began to listen. -/
theorem listening_eq_ok_iff {past : List Event} {listeners : Listeners} :
    (run {} past).listening = some (.ok listeners) ↔
      ∃ before later, past = before ++ .bind (.ok listeners) :: later ∧
        Opens before (.bind (.ok listeners)) := by
  constructor
  · intro h
    rw [listening] at h
    split at h
    · cases h
    · split at h
      · next other hbound =>
        obtain rfl : other = listeners := Except.ok.inj (Option.some.inj h)
        exact exists_opens hbound
      · cases h
  · rintro ⟨before, later, rfl, hopens⟩
    have hbound := hopens.bound later
    have hstate : (run {} (before ++ .bind (.ok listeners) :: later)).state ≠ .created := by
      rw [List.append_cons, run_append]
      exact ne_created_run (by rw [hopens.2]; nofun) later
    rw [listening]
    rw [if_neg hstate, hbound]

/-- **What those who wait are told** is the same for all time. -/
theorem listening_run {past : List Event} {told : Outcome Listeners}
    (h : (run {} past).listening = some told) (later : List Event) :
    (run {} (past ++ later)).listening = some told := by
  have hstate : (run {} past).state ≠ .created := by
    intro hcreated
    rw [listening] at h
    rw [if_pos hcreated] at h
    cases h
  rw [listening] at h ⊢
  rw [if_neg hstate] at h
  rw [run_append, if_neg (ne_created_run hstate later), bound_run hstate later]
  exact h

/-- **A server lives once.** -/
theorem lives_once :
    -- The state moves forward, in this order, and the last one is final.
    (ServerState.created < .listening ∧ ServerState.listening < .draining ∧
      ServerState.draining < .stopped) ∧
    (∀ past later : List Event, (run {} past).state ≤ (run {} (past ++ later)).state) ∧
    (∀ past later : List Event, (run {} past).state = .stopped →
      (run {} (past ++ later)).state = .stopped) ∧
    -- The server begins to listen when its first call of `serve` has bound both listeners, if
    -- nobody has asked to stop before, and it does so once.
    (∀ (past : List Event) (event : Event), Opens past event →
      (∃ listeners, event = .bind (.ok listeners) ∧
        (run {} (past ++ [event])).bound = some listeners) ∧
      Event.serve ∈ past ∧ (run {} past).phase = .binding ∧
      Event.gracefulStop ∉ past ∧ Event.stop ∉ past ∧
      ∀ (later : List Event) (other : Event), ¬Opens (past ++ event :: later) other) ∧
    -- The addresses are set at that moment and at no other, and those who wait are told them.
    (∀ (past : List Event) (event : Event),
      (run {} (past ++ [event])).bound ≠ (run {} past).bound ↔ Opens past event) ∧
    (∀ (past later : List Event) (listeners : Listeners), (run {} past).bound = some listeners →
      (run {} (past ++ later)).bound = some listeners) ∧
    (∀ past : List Event, (run {} past).listening = none ↔ (run {} past).state = .created) ∧
    (∀ (past : List Event) (listeners : Listeners),
      (run {} past).listening = some (.ok listeners) ↔
        ∃ before later, past = before ++ .bind (.ok listeners) :: later ∧
          Opens before (.bind (.ok listeners))) ∧
    (∀ (past later : List Event) (told : Outcome Listeners), (run {} past).listening = some told →
      (run {} (past ++ later)).listening = some told) ∧
    -- Every call of `serve` but the first is refused and changes nothing.
    (∀ past : List Event, Event.serve ∉ past → (run {} past).refusal = none) ∧
    (∀ past : List Event, Event.serve ∈ past →
      (run {} past).refusal = some alreadyStarted ∧ (run {} past).step .serve = run {} past) ∧
    -- Where the first call has returned or was dropped, the server is stopped, and so is its work.
    (∀ past : List Event, (run {} past).phase = .over →
      (run {} past).state = .stopped ∧ (run {} past).flags = ⟨true, true⟩) ∧
    (∀ past : List Event, Event.serve ∈ past → (run {} (past ++ [.cancel])).phase = .over) := by
  have hforward : ∀ past later : List Event,
      (run {} past).state ≤ (run {} (past ++ later)).state := by
    intro past later
    rw [run_append]
    exact le_run _ later
  have hphase : ∀ past : List Event, Event.serve ∈ past → (run {} past).phase ≠ .notCalled := by
    intro past hmem h
    exact (phase_run_eq_iff past).mp h hmem
  refine ⟨⟨by decide, by decide, by decide⟩, hforward, ?_, ?_, bound_ne_iff, ?_, ?_,
    fun past listeners => listening_eq_ok_iff, fun past later told => (listening_run · later), ?_,
    ?_, fun past => (orderly_run past).ended, ?_⟩
  · intro past later hstopped
    exact ServerState.eq_stopped_of_le (hstopped ▸ hforward past later)
  · intro past event hopens
    obtain ⟨listeners, rfl, hbinding, hcreated⟩ := opens_iff.mp hopens
    refine ⟨⟨listeners, rfl, hopens.bound []⟩, ?_, hbinding,
      fun hmem => ne_created_of_asked hmem (Or.inl rfl) hcreated,
      fun hmem => ne_created_of_asked hmem (Or.inr rfl) hcreated, ?_⟩
    · by_contra hmem
      rw [(phase_run_eq_iff past).mpr hmem] at hbinding
      cases hbinding
    · intro later other hagain
      obtain ⟨-, -, -, hnew⟩ := opens_iff.mp hagain
      rw [List.append_cons, run_append] at hnew
      exact ne_created_run (by rw [hopens.2]; nofun) later hnew
  · intro past later listeners hbound
    have hstate : (run {} past).state ≠ .created := by
      intro hcreated
      rw [(orderly_run past).bound_of_created hcreated] at hbound
      cases hbound
    rw [run_append, bound_run hstate, hbound]
  · intro past
    refine ⟨fun htold => ?_, fun hstate => if_pos hstate⟩
    by_contra hstate
    rw [listening] at htold
    rw [if_neg hstate] at htold
    split at htold <;> cases htold
  · intro past hmem
    rw [refusal]
    rw [if_pos ((phase_run_eq_iff past).mpr hmem)]
  · intro past hmem
    rw [refusal]
    refine ⟨if_neg (hphase past hmem), ?_⟩
    simp only [step, if_neg (hphase past hmem)]
  · intro past hmem
    rw [run_concat]
    cases hcase : (run {} past).phase with
    | notCalled => exact absurd hcase (hphase past hmem)
    | binding => simp [step, hcase, exit]
    | serving => simp [step, hcase, exit]
    | «over» => simp [step, hcase]

end Lifecycle

end TaskDaemon
