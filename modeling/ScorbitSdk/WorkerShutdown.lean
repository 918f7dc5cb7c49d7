import ScorbitSdk.StoppingWork
import Mathlib.Tactic.FinCases

/-!
# Joining the threads of the worker

Some handlers start themselves again, or lead to others that do, without looking
at `m_stop`.  Where none of them is left when `Worker::stop` begins, there is
none later, and the threads run out of work; where one is left, it may go on for
ever after all timers have been cancelled.
-/

namespace ScorbitSdk

/-- The handlers that start themselves again or lead to others that do. -/
def WorkerHandler.Restless {Client : Type} (machine : WorkerMachine Client) :
    WorkerHandler Client → Prop
  | heartbeat => True
  | nfcCheckTag => True
  | nfcBootReason => machine.isNfcCapable = true
  | request .requestPairMachine => True
  | request .createNfcNonces => machine.isNfcCapable = true
  | _ => False

def WorkerEffect.Restless {Client : Type} (machine : WorkerMachine Client) :
    WorkerEffect Client → Prop
  | post handler => handler.Restless machine
  | startTimer _ handler => handler.Restless machine
  | stopTimer _ => False

structure StoppingWorker.Quiet {Client : Type} (machine : WorkerMachine Client)
    (worker : StoppingWorker Client) : Prop where
  ready : ∀ handler ∈ worker.ready, ¬ handler.Restless machine
  armed : ∀ timer handler, worker.armed timer = some handler →
    ¬ handler.Restless machine
  remaining : ∀ thread, ∀ effect ∈ worker.remaining thread,
    ¬ effect.Restless machine

/-- Whenever `stopAllTimers` has returned, only finitely many handlers are
still run, and when there is nothing to do any more, `join_all` returns. -/
def StoppingWorker.Joins {Client : Type} (machine : WorkerMachine Client)
    (worker : StoppingWorker Client) : Prop :=
  ∀ actions reached,
    Transition.run (step machine) worker.stop actions = some reached →
    reached.remaining none = [] →
      (∀ choices, Transition.Ends (step machine) reached choices) ∧
        ((∀ action, step machine reached action = none) → reached.Joined)

/-! ## Quiet workers -/

namespace WorkerMachine

variable {Client : Type} {machine : WorkerMachine Client}
  {reply : HandlerReply Client} {handler : WorkerHandler Client}

theorem not_restless_of_mem_runCallback {http : WorkerRequest}
    (calm : ¬ (WorkerHandler.request http).Restless machine)
    {effect : WorkerEffect Client}
    (member : effect ∈ machine.runCallback reply http) :
    ¬ effect.Restless machine := by
  cases http with
  | requestPairMachine => exact absurd trivial calm
  | createNfcNonces =>
      have noRequest : machine.createNfcNonces = [] := if_neg calm
      simp only [runCallback, consumeNonce, noRequest] at member
      grind
  | _ =>
      simp only [runCallback, parseScorbitronObject,
        processScoresAndPlayersProfiles] at member
      grind [WorkerHandler.Restless, WorkerEffect.Restless]

/-- A handler that is not restless itself leads to none that is. -/
theorem not_restless_of_mem_effects (calm : ¬ handler.Restless machine)
    {effect : WorkerEffect Client}
    (member : effect ∈ machine.effects reply handler) :
    ¬ effect.Restless machine := by
  cases handler with
  | heartbeat => exact absurd trivial calm
  | nfcCheckTag => exact absurd trivial calm
  | nfcBootReason =>
      have noEffect : machine.effects reply .nfcBootReason = [] := if_neg calm
      rw [noEffect] at member
      exact nomatch member
  | request http =>
      rcases List.mem_append.mp member with stopped | called
      · rw [List.eq_of_mem_replicate stopped]
        exact id
      · split at called
        · exact not_restless_of_mem_runCallback calm called
        · exact nomatch called
  | _ =>
      simp only [effects, stopTokenRefreshTimer] at member
      grind [WorkerHandler.Restless, WorkerEffect.Restless]

/-- A restless handler may lead to another one. -/
theorem exists_restless_effect (restless : handler.Restless machine) :
    ∃ reply, ∃ effect ∈ machine.effects reply handler,
      effect.Restless machine := by
  cases handler with
  | heartbeat => exact ⟨{}, _, List.mem_cons_self, trivial⟩
  | nfcCheckTag => exact ⟨{}, _, List.mem_cons_self, trivial⟩
  | nfcBootReason =>
      have capable : machine.isNfcCapable = true := restless
      refine ⟨{}, .startTimer .nfcBootReason .nfcBootReason, ?_, restless⟩
      simp [effects, capable]
  | request http =>
      cases http with
      | requestPairMachine =>
          refine ⟨{ success := true }, .startTimer .heartbeat .heartbeat, ?_,
            trivial⟩
          simp [effects, runCallback, initializeConnectionState]
      | createNfcNonces =>
          -- A reply with ten nonces, of which the tag takes the first one.
          have capable : machine.isNfcCapable = true := restless
          refine ⟨{ success := true, nonces := some 10 },
            .post (.request .createNfcNonces), ?_, restless⟩
          simp [effects, runCallback, consumeNonce, createNfcNonces, capable]
      | _ => exact restless.elim
  | _ => exact restless.elim

theorem restless_of_rearms (rearms : handler.Rearms machine reply) :
    handler.Restless machine := by
  cases handler with
  | heartbeat => trivial
  | nfcCheckTag => trivial
  | nfcBootReason => exact rearms
  | request http =>
      cases http with
      | createNfcNonces => exact rearms.1
      | _ => exact rearms.elim
  | _ => exact rearms.elim

end WorkerMachine

namespace StoppingWorker

variable {Client : Type} {machine : WorkerMachine Client}
  {worker next : StoppingWorker Client} {action : StopAction Client}
  {effect : WorkerEffect Client} {handler : WorkerHandler Client}

theorem cancel_eq (worker : StoppingWorker Client) (timer : WorkerTimer) :
    ∃ aborted : List (WorkerHandler Client),
      (∀ handler ∈ aborted, handler = .aborted) ∧
        worker.cancel timer = { worker with
          armed := Function.update worker.armed timer none
          ready := worker.ready ++ aborted } := by
  cases isArmed : worker.armed timer with
  | none =>
      refine ⟨[], fun _ member => absurd member List.not_mem_nil, ?_⟩
      rw [List.append_nil, ← isArmed, Function.update_eq_self]
      simp only [cancel, isArmed]
  | some handler =>
      refine ⟨[.aborted], fun other member => List.mem_singleton.mp member, ?_⟩
      simp only [cancel, isArmed]

@[simp]
theorem runEffect_remaining :
    (worker.runEffect effect).remaining = worker.remaining := by
  have cancelled (timer : WorkerTimer) :
      (worker.cancel timer).remaining = worker.remaining := by
    obtain ⟨aborted, -, isCancelled⟩ := cancel_eq worker timer
    rw [isCancelled]
  cases effect with
  | post handler => rfl
  | startTimer timer handler => exact cancelled timer
  | stopTimer timer => exact cancelled timer

theorem mem_ready_runEffect (member : handler ∈ worker.ready) :
    handler ∈ (worker.runEffect effect).ready := by
  have cancelled (timer : WorkerTimer) :
      handler ∈ (worker.cancel timer).ready := by
    obtain ⟨aborted, -, isCancelled⟩ := cancel_eq worker timer
    rw [isCancelled]
    exact List.mem_append_left _ member
  cases effect with
  | post handler => exact List.mem_append_left _ member
  | startTimer timer handler => exact cancelled timer
  | stopTimer timer => exact cancelled timer

namespace Quiet

theorem post (quiet : worker.Quiet machine)
    (calm : ¬ handler.Restless machine) :
    Quiet machine { worker with ready := worker.ready ++ [handler] } where
  ready := by
    intro other member
    rcases List.mem_append.mp member with earlier | new
    · exact quiet.ready other earlier
    · rwa [List.mem_singleton.mp new]
  armed := quiet.armed
  remaining := quiet.remaining

theorem setArmed (quiet : worker.Quiet machine) (timer : WorkerTimer)
    (slot : Option (WorkerHandler Client))
    (calm : ∀ handler, slot = some handler → ¬ handler.Restless machine) :
    Quiet machine { worker with
      armed := Function.update worker.armed timer slot } where
  ready := quiet.ready
  armed := by
    intro other handler isArmed
    dsimp only at isArmed
    rcases eq_or_ne other timer with rfl | different
    · rw [Function.update_self] at isArmed
      exact calm handler isArmed
    · rw [Function.update_of_ne different] at isArmed
      exact quiet.armed other handler isArmed
  remaining := quiet.remaining

theorem setRemaining (quiet : worker.Quiet machine)
    {thread : Option (Fin numOfThreads)} {effects : List (WorkerEffect Client)}
    (calm : ∀ effect ∈ effects, ¬ effect.Restless machine) :
    Quiet machine { worker with
      remaining := Function.update worker.remaining thread effects } where
  ready := quiet.ready
  armed := quiet.armed
  remaining := by
    intro other effect member
    dsimp only at member
    rcases eq_or_ne other thread with rfl | different
    · rw [Function.update_self] at member
      exact calm effect member
    · rw [Function.update_of_ne different] at member
      exact quiet.remaining other effect member

theorem cancel (quiet : worker.Quiet machine) (timer : WorkerTimer) :
    (worker.cancel timer).Quiet machine := by
  unfold StoppingWorker.cancel
  split
  · exact quiet
  · exact (quiet.setArmed timer none nofun).post id

theorem runEffect (quiet : worker.Quiet machine)
    (calm : ¬ effect.Restless machine) :
    (worker.runEffect effect).Quiet machine := by
  cases effect with
  | post handler => exact quiet.post calm
  | startTimer timer handler =>
      exact (quiet.cancel timer).setArmed timer handler fun other same =>
        Option.some.inj same ▸ calm
  | stopTimer timer => exact quiet.cancel timer

theorem step (quiet : worker.Quiet machine)
    (taken : StoppingWorker.step machine worker action = some next) :
    next.Quiet machine := by
  cases action with
  | timerExpires timer =>
      obtain ⟨handler, isArmed, rfl⟩ := step_timerExpires.mp taken
      exact (quiet.setArmed timer none nofun).post
        (quiet.armed timer handler isArmed)
  | takeHandler thread index reply =>
      obtain ⟨-, handler, found, rfl⟩ := step_takeHandler.mp taken
      have calm : ¬ handler.Restless machine :=
        quiet.ready handler (List.mem_of_getElem? found)
      have dequeued : Quiet machine
          { worker with ready := worker.ready.eraseIdx index } :=
        { quiet with
          ready := fun other member =>
            quiet.ready other (List.mem_of_mem_eraseIdx member) }
      exact dequeued.setRemaining fun effect member =>
        machine.not_restless_of_mem_effects calm member
  | runEffect thread =>
      obtain ⟨effect, rest, isRemaining, rfl⟩ := step_runEffect.mp taken
      have calm := quiet.remaining thread
      rw [isRemaining] at calm
      exact (quiet.setRemaining fun other member =>
        calm other (List.mem_cons_of_mem _ member)).runEffect
          (calm effect List.mem_cons_self)

theorem not_rearms (quiet : worker.Quiet machine) :
    ¬ worker.Rearms machine action := by
  cases action with
  | takeHandler thread index reply =>
      rintro ⟨handler, found, rearms⟩
      exact quiet.ready handler (List.mem_of_getElem? found)
        (machine.restless_of_rearms rearms)
  | timerExpires timer => exact id
  | runEffect thread => exact id

theorem ends (quiet : worker.Quiet machine) (clientsEnd : machine.ClientsEnd)
    (choices : ℕ → StopAction Client) :
    Transition.Ends (StoppingWorker.step machine) worker choices :=
  (ends_iff_rearms clientsEnd worker choices).mpr
    ⟨0, fun _ _ _ isReached => (Transition.after_invariant
      (fun _ _ _ quiet taken => quiet.step taken) quiet isReached).not_rearms⟩

end Quiet

/-! ## Restless workers -/

theorem not_quiet_of_ready (member : handler ∈ worker.ready)
    (restless : handler.Restless machine) : ¬ worker.Quiet machine :=
  fun quiet => quiet.ready handler member restless

theorem not_quiet_of_remaining (thread : Option (Fin numOfThreads))
    (member : effect ∈ worker.remaining thread)
    (restless : effect.Restless machine) : ¬ worker.Quiet machine :=
  fun quiet => quiet.remaining thread effect member restless

theorem not_quiet_runEffect (restless : effect.Restless machine) :
    ¬ (worker.runEffect effect).Quiet machine := by
  cases effect with
  | post handler =>
      exact not_quiet_of_ready
        (List.mem_append_right _ List.mem_cons_self) restless
  | startTimer timer handler =>
      exact fun quiet =>
        quiet.armed timer handler (Function.update_self _ _ _) restless
  | stopTimer timer => exact restless.elim

/-- A restless handler waits, or a thread is going to start or post one. -/
def Awake (machine : WorkerMachine Client) (worker : StoppingWorker Client) :
    Prop :=
  (∃ handler ∈ worker.ready, handler.Restless machine) ∨
    ∃ thread, ∃ effect ∈ worker.remaining (some thread),
      effect.Restless machine

theorem Awake.not_quiet (awake : worker.Awake machine) :
    ¬ worker.Quiet machine := by
  rcases awake with ⟨handler, member, restless⟩ |
    ⟨thread, effect, member, restless⟩
  · exact not_quiet_of_ready member restless
  · exact not_quiet_of_remaining thread member restless

theorem exists_of_not_quiet (loud : ¬ worker.Quiet machine) :
    (∃ handler ∈ worker.ready, handler.Restless machine) ∨
      (∃ timer handler, worker.armed timer = some handler ∧
        handler.Restless machine) ∨
      ∃ thread, ∃ effect ∈ worker.remaining thread,
        effect.Restless machine := by
  by_contra nowhere
  push Not at nowhere
  exact loud ⟨nowhere.1, nowhere.2.1, nowhere.2.2⟩

/-- A worker that is not quiet can go on. -/
theorem goes_on (loud : ¬ worker.Quiet machine) :
    ∃ action next, step machine worker action = some next ∧
      ¬ next.Quiet machine := by
  rcases exists_of_not_quiet loud with ⟨handler, member, restless⟩ |
    ⟨timer, handler, isArmed, restless⟩ | ⟨thread, effect, member, restless⟩
  · cases isRemaining : worker.remaining (some 0) with
    | nil =>
        obtain ⟨index, found⟩ := List.mem_iff_getElem?.mp member
        obtain ⟨reply, effect, isEffect, again⟩ :=
          machine.exists_restless_effect restless
        refine ⟨.takeHandler 0 index reply, _,
          step_takeHandler.mpr ⟨isRemaining, handler, found, rfl⟩, ?_⟩
        refine not_quiet_of_remaining (some 0) ?_ again
        dsimp only
        rwa [Function.update_self]
    | cons effect rest =>
        exact ⟨.runEffect (some 0), _,
          step_runEffect.mpr ⟨effect, rest, isRemaining, rfl⟩,
          not_quiet_of_ready (mem_ready_runEffect member) restless⟩
  · exact ⟨.timerExpires timer, _,
      step_timerExpires.mpr ⟨handler, isArmed, rfl⟩,
      not_quiet_of_ready (List.mem_append_right _ List.mem_cons_self) restless⟩
  · cases isRemaining : worker.remaining thread with
    | nil => rw [isRemaining] at member; exact nomatch member
    | cons first rest =>
        refine ⟨.runEffect thread, _,
          step_runEffect.mpr ⟨first, rest, isRemaining, rfl⟩, ?_⟩
        rw [isRemaining] at member
        rcases List.mem_cons.mp member with rfl | later
        · exact not_quiet_runEffect restless
        · refine not_quiet_of_remaining thread ?_ restless
          rw [runEffect_remaining]
          dsimp only
          rwa [Function.update_self]

/-- Whatever `stopAllTimers` cancels, the worker stays awake. -/
theorem Awake.runEffect_none (awake : worker.Awake machine)
    (effect : WorkerEffect Client) (rest : List (WorkerEffect Client)) :
    Awake machine ({ worker with
      remaining := Function.update worker.remaining none rest
        }.runEffect effect) := by
  rcases awake with ⟨handler, member, restless⟩ |
    ⟨thread, other, member, restless⟩
  · exact Or.inl ⟨handler, mem_ready_runEffect member, restless⟩
  · refine Or.inr ⟨thread, other, ?_, restless⟩
    rw [runEffect_remaining]
    dsimp only
    rwa [Function.update_of_ne (Option.some_ne_none thread)]

theorem Awake.exists_run (awake : worker.Awake machine) :
    ∃ actions reached,
      Transition.run (step machine) worker actions = some reached ∧
        reached.remaining none = [] ∧ ¬ reached.Quiet machine := by
  generalize isRemaining : worker.remaining none = effects
  induction effects generalizing worker with
  | nil => exact ⟨[], worker, rfl, isRemaining, awake.not_quiet⟩
  | cons effect rest ih =>
      have left : (StoppingWorker.runEffect { worker with
          remaining := Function.update worker.remaining none rest }
          effect).remaining none = rest := by
        rw [runEffect_remaining]
        exact Function.update_self none rest worker.remaining
      obtain ⟨actions, reached, ran, stopped, loud⟩ :=
        ih (awake.runEffect_none effect rest) left
      exact ⟨.runEffect none :: actions, reached,
        Transition.run_cons.mpr ⟨_,
          step_runEffect.mpr ⟨effect, rest, isRemaining, rfl⟩, ran⟩,
        stopped, loud⟩

/-- A timer may expire before it is cancelled. -/
theorem exists_run_of_not_quiet (loud : ¬ worker.stop.Quiet machine) :
    ∃ actions reached,
      Transition.run (step machine) worker.stop actions = some reached ∧
        reached.remaining none = [] ∧ ¬ reached.Quiet machine := by
  rcases exists_of_not_quiet loud with ready |
    ⟨timer, handler, isArmed, restless⟩ | ⟨thread, effect, member, restless⟩
  · exact Awake.exists_run (Or.inl ready)
  · have awake : Awake machine { worker.stop with
        armed := Function.update worker.armed timer none
        ready := worker.ready ++ [handler] } :=
      Or.inl ⟨handler, List.mem_append_right _ List.mem_cons_self, restless⟩
    obtain ⟨actions, reached, ran, stopped, loud⟩ := awake.exists_run
    exact ⟨.timerExpires timer :: actions, reached,
      Transition.run_cons.mpr ⟨_,
        step_timerExpires.mpr ⟨handler, isArmed, rfl⟩, ran⟩, stopped, loud⟩
  · cases thread with
    | none =>
        have stops : worker.stop.remaining none = stopAllTimers :=
          Function.update_self none _ worker.remaining
        rw [stops] at member
        simp only [stopAllTimers, List.mem_cons, List.not_mem_nil] at member
        grind [WorkerEffect.Restless]
    | some thread =>
        exact Awake.exists_run (Or.inr ⟨thread, effect, member, restless⟩)

theorem not_joins_of_not_quiet (loud : ¬ worker.stop.Quiet machine) :
    ¬ worker.Joins machine := by
  intro joins
  obtain ⟨actions, reached, ran, stopped, loud⟩ := exists_run_of_not_quiet loud
  obtain ⟨choices, endless⟩ :=
    Transition.exists_not_ends (fun worker loud => goes_on loud) loud
  exact endless ((joins actions reached ran stopped).1 choices)

/-- The threads can be joined exactly when no handler that waits, or that a
thread is in the middle of starting, is one of those that start themselves
again or one of those that may start them. -/
theorem joins_iff_quiet (clientsEnd : machine.ClientsEnd)
    (worker : StoppingWorker Client) :
    worker.Joins machine ↔ worker.stop.Quiet machine := by
  constructor
  · intro joins
    by_contra loud
    exact not_joins_of_not_quiet loud joins
  · intro quiet actions reached ran _
    have reachedQuiet : reached.Quiet machine := Transition.run_invariant
      (fun _ _ _ quiet taken => quiet.step taken) ran quiet
    exact ⟨reachedQuiet.ends clientsEnd, joined_of_idle⟩

/-- A library whose handlers count down. -/
theorem countdown_clientsEnd :
    WorkerMachine.ClientsEnd
      ⟨true, true, fun handler _ => List.range handler⟩ :=
  Subrelation.wf (fun ⟨_, member⟩ => List.mem_range.mp member) Nat.lt_wfRel.wf

/-- A token refresh waits, the game data are about to be sent, and the client
is still closing. -/
theorem joins_tokenRefresh :
    StoppingWorker.Joins
      ⟨true, true, fun handler _ => List.range handler⟩
      { armed := Function.update (fun _ => none) .gameData (some .gameData)
        ready := [.tokenRefresh, .client 3]
        remaining := Function.update (fun _ => []) (some 1)
          [.stopTimer .gameData, .post .sendLatestGameData] } := by
  refine (joins_iff_quiet countdown_clientsEnd _).mpr ⟨?_, ?_, ?_⟩
  · intro handler member
    simp only [stop, List.mem_cons, List.not_mem_nil] at member
    grind [WorkerHandler.Restless]
  · intro timer handler isArmed
    cases timer <;> cases isArmed
    exact id
  · intro thread
    fin_cases thread <;>
      simp [stop, stopAllTimers, Function.update, WorkerEffect.Restless,
        WorkerHandler.Restless]

/-- The timer of the heartbeat has expired when the worker is stopped. -/
theorem not_joins_heartbeat :
    ¬ StoppingWorker.Joins (⟨false, false, nofun⟩ : WorkerMachine Empty)
      { ready := [.heartbeat] } :=
  not_joins_of_not_quiet (not_quiet_of_ready List.mem_cons_self trivial)

end StoppingWorker

end ScorbitSdk
