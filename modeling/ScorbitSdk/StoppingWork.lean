import ScorbitSdk.EndlessRuns
import ScorbitSdk.StoppingWorkers
import Mathlib.Data.Fintype.Option
import Mathlib.Tactic.Abel

/-!
# The work that a stopping worker has left

Unless a handler starts itself again, every step does away with an item of work
and leaves finitely many smaller ones.  What is smaller is ruled by the rank of
the handler, for those of the centrifugo library by how they follow each other,
and then by how far the handler is from being run.
-/

namespace ScorbitSdk

/-- The handlers of the library do not follow each other for ever. -/
def WorkerMachine.ClientsEnd {Client : Type} (machine : WorkerMachine Client) :
    Prop :=
  WellFounded fun later earlier =>
    ∃ choice, later ∈ machine.clientRuns earlier choice

/-- A handler that waits, a timer that is armed, or something that a thread is
going to do. -/
inductive WorkItem (Client : Type)
  | ready (handler : WorkerHandler Client)
  | armed (handler : WorkerHandler Client)
  | effect (effect : WorkerEffect Client)

namespace WorkerRequest

def rank : WorkerRequest → ℕ
  | sendScorbitronObject => 2
  | patchScorbitron => 2
  | requestUnpair => 2
  | requestPairMachine => 3
  | requestReleaseTrackInfo => 2
  | requestSessionData => 2
  | sessionCreate => 2
  | sessionUpdate => 2
  | createNfcNonces => 2
  | _ => 1

end WorkerRequest

namespace WorkerHandler

variable {Client : Type}

/-- Unless it starts itself again, a handler only leads to handlers of lower
rank, or to others of the library. -/
def rank : WorkerHandler Client → ℕ
  | aborted => 0
  | tokenRefresh => 2
  | gameData => 2
  | setupCentrifugo => 2
  | leaderboardDeferred deferAttempt => 2 * (topScoresDeferLimit - deferAttempt) + 2
  | request http => http.rank
  | submitGameData => 2
  | requestTopScores deferAttempt =>
      2 * (topScoresDeferLimit + 1 - deferAttempt) + 1
  | _ => 1

def client? : WorkerHandler Client → Option Client
  | client handler => some handler
  | _ => none

end WorkerHandler

namespace WorkItem

variable {Client : Type}

/-- Compared first by the rank of the handler, then by the handler of the
library, then by how much comes before the handler runs. -/
def key : WorkItem Client → ℕ × Option Client × ℕ
  | ready handler => (handler.rank, handler.client?, 0)
  | armed handler => (handler.rank, handler.client?, 1)
  | effect (.post handler) => (handler.rank, handler.client?, 1)
  | effect (.startTimer _ handler) => (handler.rank, handler.client?, 2)
  | effect (.stopTimer _) => (0, none, 1)

/-- One handler of the library follows the other. -/
def ClientFollows (machine : WorkerMachine Client) :
    Option Client → Option Client → Prop
  | some later, some earlier =>
      ∃ choice, later ∈ machine.clientRuns earlier choice
  | _, _ => False

def Smaller (machine : WorkerMachine Client) :
    WorkItem Client → WorkItem Client → Prop :=
  InvImage
    (Prod.Lex (· < ·) (Prod.Lex (ClientFollows machine) (· < ·))) key

variable {machine : WorkerMachine Client}

theorem wellFounded_clientFollows (clientsEnd : machine.ClientsEnd) :
    WellFounded (ClientFollows machine) := by
  have noneFollows : Acc (ClientFollows machine) none :=
    Acc.intro none fun later follows => by cases later <;> exact follows.elim
  refine ⟨fun client => ?_⟩
  cases client with
  | none => exact noneFollows
  | some client =>
      induction client using clientsEnd.induction with
      | _ client ih =>
          refine Acc.intro _ fun later follows => ?_
          cases later with
          | none => exact noneFollows
          | some later => exact ih later follows

theorem wellFounded_smaller (clientsEnd : machine.ClientsEnd) :
    WellFounded (Smaller machine) :=
  InvImage.wf key (Nat.lt_wfRel.wf.prod_lex
    ((wellFounded_clientFollows clientsEnd).prod_lex Nat.lt_wfRel.wf))

theorem smaller_of_rank {first second : WorkItem Client}
    (less : first.key.1 < second.key.1) : Smaller machine first second :=
  Prod.Lex.left _ _ less

theorem smaller_of_stage {first second : WorkItem Client}
    (rank : first.key.1 = second.key.1)
    (client : first.key.2.1 = second.key.2.1)
    (less : first.key.2.2 < second.key.2.2) : Smaller machine first second := by
  unfold Smaller InvImage
  rw [← Prod.mk.eta (p := first.key), ← Prod.mk.eta (p := second.key), rank]
  apply Prod.Lex.right _
  rw [← Prod.mk.eta (p := first.key.2), ← Prod.mk.eta (p := second.key.2), client]
  exact Prod.Lex.right _ less

end WorkItem

/-- What a thread is going to do is less than a handler of this rank. -/
def Below {Client : Type} (rank : ℕ) (effects : List (WorkerEffect Client)) :
    Prop :=
  ∀ effect ∈ effects, (WorkItem.effect effect).key.1 < rank

namespace Below

variable {Client : Type} {rank : ℕ} {effect : WorkerEffect Client}
  {first second : List (WorkerEffect Client)}

theorem nil : Below rank ([] : List (WorkerEffect Client)) :=
  fun _ member => absurd member List.not_mem_nil

theorem cons (head : (WorkItem.effect effect).key.1 < rank)
    (tail : Below rank first) : Below rank (effect :: first) :=
  List.forall_mem_cons.mpr ⟨head, tail⟩

theorem append (before : Below rank first) (behind : Below rank second) :
    Below rank (first ++ second) := by
  intro effect member
  rcases List.mem_append.mp member with earlier | later
  · exact before effect earlier
  · exact behind effect later

theorem replicate {count : ℕ} (each : (WorkItem.effect effect).key.1 < rank) :
    Below rank (List.replicate count effect) := by
  intro other member
  rw [List.eq_of_mem_replicate member]
  exact each

theorem ite {condition : Prop} [Decidable condition]
    (holds : condition → Below rank first)
    (fails : ¬ condition → Below rank second) :
    Below rank (if condition then first else second) := by
  split
  · exact holds ‹_›
  · exact fails ‹_›

theorem clients {posts : List Client} (less : 1 < rank) :
    Below rank (posts.map fun handler =>
      WorkerEffect.post (.client handler)) := by
  intro effect member
  obtain ⟨handler, -, rfl⟩ := List.mem_map.mp member
  exact less

end Below

namespace WorkerMachine

variable {Client : Type} {machine : WorkerMachine Client}
  {reply : HandlerReply Client} {rank : ℕ}

theorem below_stopTokenRefreshTimer (positive : 0 < rank) :
    Below rank (stopTokenRefreshTimer reply) :=
  .replicate positive

theorem below_createNfcNonces (less : 2 < rank) :
    Below rank machine.createNfcNonces :=
  .ite (fun _ => .cons less .nil) fun _ => .nil

theorem below_parseScorbitronObject (less : 1 < rank) :
    Below rank (parseScorbitronObject reply) :=
  .ite (fun _ => .cons less .nil) fun _ => .nil

theorem below_initializeConnectionState (less : 2 < rank) :
    Below rank (machine.initializeConnectionState reply) := by
  have one : 1 < rank := Nat.lt_of_succ_lt less
  have requests : Below rank ([.post (.request .sendScorbitronObject),
      .post (.request .requestReleaseTrackInfo),
      .post (.request .getConfig)] : List (WorkerEffect Client)) :=
    .cons less (.cons less (.cons one .nil))
  have firmwares : Below rank machine.requestFirmwaresList :=
    .ite (fun _ => .cons one .nil) fun _ => .nil
  have timer : Below rank ([.startTimer .heartbeat .heartbeat] :
      List (WorkerEffect Client)) := .cons one .nil
  have centrifugo : Below rank (restartCentrifugo reply) :=
    .cons (Nat.zero_lt_of_lt less) (.clients one)
  exact (((requests.append firmwares).append timer).append centrifugo).append
    (below_createNfcNonces less)

theorem below_runCallback {http : WorkerRequest}
    (once : http = .createNfcNonces → machine.consumeNonce reply.nonces = []) :
    Below http.rank (machine.runCallback reply http) := by
  cases http with
  | sendScorbitronObject => exact below_parseScorbitronObject (by decide)
  | patchScorbitron => exact below_parseScorbitronObject (by decide)
  | requestUnpair => exact below_parseScorbitronObject (by decide)
  | requestPairMachine =>
      exact (below_parseScorbitronObject (by decide)).append
        (below_initializeConnectionState (by decide))
  | requestReleaseTrackInfo =>
      exact .ite (fun _ => .cons Nat.one_lt_two .nil) fun _ => .nil
  | createNfcNonces =>
      change Below _ (machine.consumeNonce reply.nonces)
      rw [once rfl]
      exact .nil
  | requestSessionData => exact .replicate Nat.one_lt_two
  | sessionCreate => exact .replicate Nat.one_lt_two
  | sessionUpdate => exact .replicate Nat.one_lt_two
  | _ => exact .nil

/-- A reply that leaves enough nonces asks for no others. -/
theorem consumeNonce_of_not_rearms
    (once : ¬ (WorkerHandler.request .createNfcNonces).Rearms machine reply)
    (success : reply.success = true) :
    machine.consumeNonce reply.nonces = [] := by
  cases isNonces : reply.nonces with
  | none => rfl
  | some nonces =>
      have enough : machine.isNfcCapable = true →
          ¬ (nonces = 10 ∨ nonces ≤ 5) := fun capable few =>
        once ⟨capable, success, nonces, isNonces, few⟩
      simp only [consumeNonce, createNfcNonces]
      split
      · rename_i empty
        exact if_neg fun capable => enough capable (Or.inr (by omega))
      split
      · rename_i few
        exact if_neg fun capable => enough capable few
      · rfl

/-- A handler that does not start itself again leads to less work. -/
theorem smaller_of_mem_effects {handler : WorkerHandler Client}
    (once : ¬ handler.Rearms machine reply) {effect : WorkerEffect Client}
    (member : effect ∈ machine.effects reply handler) :
    WorkItem.Smaller machine (.effect effect) (.ready handler) := by
  have below (lower : Below handler.rank (machine.effects reply handler)) :
      WorkItem.Smaller machine (.effect effect) (.ready handler) :=
    WorkItem.smaller_of_rank (lower effect member)
  cases handler with
  | heartbeat => exact absurd trivial once
  | nfcCheckTag => exact absurd trivial once
  | nfcBootReason =>
      have incapable : ¬ machine.isNfcCapable = true := once
      exact below (.ite (fun capable => absurd capable incapable) fun _ => .nil)
  | tokenRefresh => exact below (.cons Nat.one_lt_two .nil)
  | gameData => exact below (.cons Nat.one_lt_two .nil)
  | setupCentrifugo => exact below (.clients Nat.one_lt_two)
  | leaderboardDeferred deferAttempt =>
      refine below (.cons ?_ .nil)
      simp only [WorkItem.key, WorkerHandler.rank]
      omega
  | authenticate => exact below (below_stopTokenRefreshTimer Nat.one_pos)
  | request http =>
      have positive : 0 < http.rank := by cases http <;> decide
      refine below ((below_stopTokenRefreshTimer positive).append
        (.ite (fun success => below_runCallback ?_) fun _ => .nil))
      rintro rfl
      exact consumeNonce_of_not_rearms once success
  | submitGameData =>
      exact below (.ite (fun _ => .cons Nat.one_lt_two .nil) fun _ => .nil)
  | sendLatestGameData => exact below (.cons Nat.one_pos .nil)
  | requestTopScores deferAttempt =>
      refine below (.ite (fun _ => ?_) fun _ => .ite (fun _ => .nil) fun more => ?_)
      · exact below_stopTokenRefreshTimer (Nat.succ_pos _)
      · refine .cons ?_ .nil
        simp only [WorkItem.key, WorkerHandler.rank]
        omega
  | uploadDiagnostics => exact below (below_stopTokenRefreshTimer Nat.one_pos)
  | client client =>
      obtain ⟨later, follows, rfl⟩ := List.mem_map.mp member
      exact Prod.Lex.right _ (Prod.Lex.left _ _ ⟨_, follows⟩)
  | _ => exact below .nil

end WorkerMachine

namespace StoppingWorker

open Relation

variable {Client : Type} {machine : WorkerMachine Client}
  {worker next : StoppingWorker Client} {action : StopAction Client}

/-- What a timer holds. -/
def armedWork : Option (WorkerHandler Client) → Multiset (WorkItem Client)
  | none => 0
  | some handler => {.armed handler}

def readyWork (handlers : List (WorkerHandler Client)) :
    Multiset (WorkItem Client) :=
  ↑(handlers.map WorkItem.ready)

def effectWork (effects : List (WorkerEffect Client)) :
    Multiset (WorkItem Client) :=
  ↑(effects.map WorkItem.effect)

/-- All that is left to do. -/
def work (worker : StoppingWorker Client) : Multiset (WorkItem Client) :=
  readyWork worker.ready + ∑ timer, armedWork (worker.armed timer) +
    ∑ thread, effectWork (worker.remaining thread)

theorem work_ready (worker : StoppingWorker Client)
    (handlers : List (WorkerHandler Client)) :
    work { worker with ready := handlers } + readyWork worker.ready =
      work worker + readyWork handlers := by
  unfold work
  abel

theorem work_armed (worker : StoppingWorker Client) (timer : WorkerTimer)
    (slot : Option (WorkerHandler Client)) :
    work { worker with armed := Function.update worker.armed timer slot } +
        armedWork (worker.armed timer) =
      work worker + armedWork slot := by
  have updated := sum_update_add (fun timer => armedWork (worker.armed timer))
    timer (armedWork slot)
  have same : (fun other => armedWork
      (Function.update worker.armed timer slot other)) =
      Function.update (fun timer => armedWork (worker.armed timer)) timer
        (armedWork slot) :=
    funext fun other => Function.apply_update (fun _ => armedWork) _ _ _ other
  unfold work
  dsimp only
  rw [same, add_right_comm, add_assoc (readyWork worker.ready), updated]
  abel

theorem work_remaining (worker : StoppingWorker Client)
    (thread : Option (Fin numOfThreads))
    (effects : List (WorkerEffect Client)) :
    work { worker with
        remaining := Function.update worker.remaining thread effects } +
        effectWork (worker.remaining thread) =
      work worker + effectWork effects := by
  have updated := sum_update_add
    (fun thread => effectWork (worker.remaining thread)) thread
    (effectWork effects)
  have same : (fun other => effectWork
      (Function.update worker.remaining thread effects other)) =
      Function.update (fun thread => effectWork (worker.remaining thread))
        thread (effectWork effects) :=
    funext fun other => Function.apply_update (fun _ => effectWork) _ _ _ other
  unfold work
  dsimp only
  rw [same, add_assoc, updated]
  abel

theorem work_post (worker : StoppingWorker Client)
    (handler : WorkerHandler Client) :
    work { worker with ready := worker.ready ++ [handler] } =
      work worker + {.ready handler} := by
  have posted : readyWork (worker.ready ++ [handler]) =
      readyWork worker.ready + {.ready handler} := by
    simp [readyWork]
    rfl
  have moved := work_ready worker (worker.ready ++ [handler])
  rw [posted, ← add_assoc, add_right_comm] at moved
  exact add_right_cancel moved

theorem effectWork_cons (effect : WorkerEffect Client)
    (rest : List (WorkerEffect Client)) :
    effectWork (effect :: rest) = {.effect effect} + effectWork rest :=
  rfl

theorem readyWork_eraseIdx {handlers : List (WorkerHandler Client)} {index : ℕ}
    {handler : WorkerHandler Client} (found : handlers[index]? = some handler) :
    readyWork handlers = readyWork (handlers.eraseIdx index) + {.ready handler} := by
  obtain ⟨less, rfl⟩ := List.getElem?_eq_some_iff.mp found
  have permuted := (List.getElem_cons_eraseIdx_perm less).map WorkItem.ready
  calc readyWork handlers
      = readyWork (handlers[index] :: handlers.eraseIdx index) :=
        (Multiset.coe_eq_coe.mpr permuted).symm
    _ = {.ready handlers[index]} + readyWork (handlers.eraseIdx index) := rfl
    _ = _ := add_comm _ _

/-! ## What a step does to it -/

@[simp]
theorem cancel_armed_self (timer : WorkerTimer) :
    (worker.cancel timer).armed timer = none := by
  unfold cancel
  cases isArmed : worker.armed timer with
  | none => exact isArmed
  | some handler => exact Function.update_self _ _ _

theorem smaller_aborted (handler : WorkerHandler Client) :
    WorkItem.Smaller machine (.ready .aborted) (.armed handler) := by
  rcases Nat.eq_zero_or_pos handler.rank with zero | positive
  · refine WorkItem.smaller_of_stage zero.symm ?_ Nat.one_pos
    cases handler with
    | client => exact nomatch zero
    | _ => rfl
  · exact WorkItem.smaller_of_rank positive

/-- A handler goes from its timer into the queue, or its wait is cancelled. -/
theorem lessWork_disarm {timer : WorkerTimer}
    {handler later : WorkerHandler Client}
    (isArmed : worker.armed timer = some handler)
    (smaller : WorkItem.Smaller machine (.ready later) (.armed handler)) :
    LessWork (WorkItem.Smaller machine)
      (work { worker with
        armed := Function.update worker.armed timer none
        ready := worker.ready ++ [later] })
      worker.work := by
  let disarmed : StoppingWorker Client :=
    { worker with armed := Function.update worker.armed timer none }
  have taken : disarmed.work + {.armed handler} = worker.work + 0 := by
    have updated := work_armed worker timer none
    rwa [isArmed] at updated
  have all : ∀ other ∈ ({.ready later} : Multiset (WorkItem Client)),
      WorkItem.Smaller machine other (.armed handler) :=
    fun other member => Multiset.mem_singleton.mp member ▸ smaller
  apply lessWork_of_add_eq all
  calc work { disarmed with ready := disarmed.ready ++ [later] } +
        {.armed handler}
      = disarmed.work + {.ready later} + {.armed handler} :=
        congrArg (· + _) (work_post disarmed later)
    _ = disarmed.work + {.armed handler} + {.ready later} :=
        add_right_comm _ _ _
    _ = worker.work + {.ready later} := by rw [taken, add_zero]

theorem lessWork_cancel (machine : WorkerMachine Client)
    (worker : StoppingWorker Client) (timer : WorkerTimer) :
    worker.cancel timer = worker ∨
      LessWork (WorkItem.Smaller machine) (worker.cancel timer).work
        worker.work := by
  cases isArmed : worker.armed timer with
  | none =>
      left
      simp only [cancel, isArmed]
  | some handler =>
      right
      simp only [cancel, isArmed]
      exact lessWork_disarm isArmed (smaller_aborted handler)

/-- A cancellation, and smaller items in place of another one. -/
theorem lessWork_cancel_add {timer : WorkerTimer}
    {item : WorkItem Client} {spawned : Multiset (WorkItem Client)}
    (all : ∀ other ∈ spawned, WorkItem.Smaller machine other item) :
    LessWork (WorkItem.Smaller machine) ((worker.cancel timer).work + spawned)
      (worker.work + {item}) := by
  have replaced : LessWork (WorkItem.Smaller machine)
      ((worker.cancel timer).work + spawned)
      ((worker.cancel timer).work + {item}) :=
    lessWork_of_add_eq all (add_right_comm _ _ _)
  rcases lessWork_cancel machine worker timer with same | less
  · rw [same] at replaced ⊢
    exact replaced
  · exact replaced.trans (lessWork_add_right _ less)

theorem lessWork_runEffect (effect : WorkerEffect Client) :
    LessWork (WorkItem.Smaller machine) (worker.runEffect effect).work
      (worker.work + {.effect effect}) := by
  cases effect with
  | post handler =>
      have smaller : WorkItem.Smaller machine (.ready handler)
          (.effect (.post handler)) :=
        WorkItem.smaller_of_stage rfl rfl Nat.one_pos
      have posted : (worker.runEffect (.post handler)).work =
          worker.work + {.ready handler} := work_post worker handler
      rw [posted]
      exact lessWork_of_add_eq
        (fun other member => Multiset.mem_singleton.mp member ▸ smaller)
        (add_right_comm _ _ _)
  | startTimer timer handler =>
      have smaller : WorkItem.Smaller machine (.armed handler)
          (.effect (.startTimer timer handler)) :=
        WorkItem.smaller_of_stage rfl rfl Nat.one_lt_two
      have armed := work_armed (worker.cancel timer) timer (some handler)
      rw [cancel_armed_self] at armed
      have isArmed : (worker.runEffect (.startTimer timer handler)).work =
          (worker.cancel timer).work + {.armed handler} :=
        (add_zero _).symm.trans armed
      rw [isArmed]
      exact lessWork_cancel_add fun other member =>
        Multiset.mem_singleton.mp member ▸ smaller
  | stopTimer timer =>
      rw [runEffect, ← add_zero (work _)]
      exact lessWork_cancel_add fun other member =>
        absurd member (Multiset.notMem_zero other)

/-- Unless a handler starts itself again, every step leaves less work. -/
theorem lessWork_of_step (taken : step machine worker action = some next)
    (once : ¬ worker.Rearms machine action) :
    LessWork (WorkItem.Smaller machine) next.work worker.work := by
  cases action with
  | timerExpires timer =>
      obtain ⟨handler, isArmed, rfl⟩ := step_timerExpires.mp taken
      exact lessWork_disarm isArmed
        (WorkItem.smaller_of_stage rfl rfl Nat.one_pos)
  | takeHandler thread index reply =>
      obtain ⟨free, handler, found, rfl⟩ := step_takeHandler.mp taken
      let dequeued : StoppingWorker Client :=
        { worker with ready := worker.ready.eraseIdx index }
      have left : dequeued.work + {.ready handler} = worker.work := by
        have erased := work_ready worker (worker.ready.eraseIdx index)
        rw [readyWork_eraseIdx found, ← add_assoc, add_right_comm] at erased
        exact add_right_cancel erased
      have begun := work_remaining dequeued (some thread)
        (machine.effects reply handler)
      rw [show dequeued.remaining (some thread) = [] from free] at begun
      have all : ∀ other ∈ effectWork (machine.effects reply handler),
          WorkItem.Smaller machine other (.ready handler) := by
        intro other member
        obtain ⟨effect, isEffect, rfl⟩ :=
          List.mem_map.mp (Multiset.mem_coe.mp member)
        exact machine.smaller_of_mem_effects
          (fun rearms => once ⟨handler, found, rearms⟩) isEffect
      apply lessWork_of_add_eq all
      calc _ = dequeued.work + effectWork (machine.effects reply handler) +
            {.ready handler} := congrArg (· + _) ((add_zero _).symm.trans begun)
        _ = dequeued.work + {.ready handler} +
            effectWork (machine.effects reply handler) := add_right_comm _ _ _
        _ = worker.work + effectWork (machine.effects reply handler) :=
          congrArg (· + _) left
  | runEffect thread =>
      obtain ⟨effect, rest, isRemaining, rfl⟩ := step_runEffect.mp taken
      have left := work_remaining worker thread rest
      rw [isRemaining, effectWork_cons, ← add_assoc] at left
      rw [← add_right_cancel left]
      exact lessWork_runEffect effect

theorem wellFounded_step (clientsEnd : machine.ClientsEnd) :
    WellFounded fun next worker =>
      ∃ action, step machine worker action = some next ∧
        ¬ worker.Rearms machine action := by
  have less := InvImage.wf (work : StoppingWorker Client → _)
    (wellFounded_lessWork (WorkItem.wellFounded_smaller clientsEnd))
  refine Subrelation.wf ?_ less
  rintro next worker ⟨action, taken, once⟩
  exact lessWork_of_step taken once

/-- A worker that goes on for ever does so by handlers that start themselves
again. -/
theorem ends_iff_rearms (clientsEnd : machine.ClientsEnd)
    (worker : StoppingWorker Client) (choices : ℕ → StopAction Client) :
    Transition.Ends (step machine) worker choices ↔
      ∃ count, ∀ more, count ≤ more → ∀ reached,
        Transition.after (step machine) worker choices more = some reached →
          ¬ reached.Rearms machine (choices more) :=
  Transition.ends_iff (wellFounded_step clientsEnd) worker choices

end StoppingWorker

end ScorbitSdk
