import ScorbitSdk.TransitionRuns
import ScorbitSdk.WorkerTasks

/-!
# The task of one request

What a closure of `createHttpRequestTask` does, one comparison with `m_status`
at a time.  Between any two of its steps other threads may set the status, or
`m_stop`.  Under `m_authMutex` they do not set it to `NotAuthenticated` or
`Authenticating`: both assignments are made with the mutex locked.
-/

namespace ScorbitSdk

/-- One of the comparisons that make up the predicate of a wait. -/
inductive WaitTest
  | status (status : AuthStatus)
  | stop
  deriving DecidableEq

inductive HttpTaskStage
  /-- With the tests of the predicate that are still to be made. -/
  | waiting (tests : List WaitTest)
  | settingUp
  /-- With the allowed statuses that `m_status` is still to be compared with. -/
  | checking (left : List AuthStatus)
  | refused
  | sending
  /-- The reply was 401; `m_authMutex` is to be locked. -/
  | locking
  | comparing (left : List AuthStatus)
  | resetting
  | stoppingTimer
  | authenticating
  /-- The loop is over and the callback is to be called. -/
  | replying
  | done
  deriving DecidableEq

/-- What a task has found and done, with the status that it saw. -/
inductive HttpEvent
  | allowed (status : AuthStatus)
  | refused (status : AuthStatus)
  /-- A request has been sent and answered. -/
  | sent (status_code : Int) (text : List Char)
  /-- The last of the comparisons before a new authentication. -/
  | compared (status : AuthStatus)
  | authenticates
  deriving DecidableEq

/-- The arguments of `createHttpRequestTask`. -/
structure HttpTaskArguments where
  allowedStatuses : List AuthStatus
  /-- Whether a callback has been given. -/
  callback : Bool := true

/-- The fields from `log` on record what happened, the latest first. -/
structure HttpTask where
  m_status : AuthStatus := .notAuthenticated
  m_stop : Bool := false
  stage : HttpTaskStage
  attempt : Nat := 0
  error : Error := .apiError
  reply : List Char := []
  log : List HttpEvent := []
  calledBack : List (Error × List Char) := []
  deriving DecidableEq

inductive HttpTaskAction
  /-- Another thread sets `m_status`. -/
  | others (status : AuthStatus)
  | stops
  /-- The task makes its next step. -/
  | goesOn
  /-- The task sends its request and is answered; 0 stands for no answer. -/
  | replied (status_code : Int) (text : List Char)
  /-- The task evaluates the predicate of its wait again. -/
  | wakesUp
  deriving DecidableEq

namespace HttpTaskArguments

variable (task : HttpTaskArguments)

/-- The predicate's comparisons, `isAuthenticated` first. -/
def waitTests : List WaitTest :=
  [.status .authenticatedPaired, .status .authenticatedUnpaired,
    .status .authenticationFailed, .stop] ++
    task.allowedStatuses.map .status

/-- The statuses in which there is no need for a new authentication. -/
def settled : List AuthStatus :=
  [.notAuthenticated, .authenticating, .authenticationFailed]

/-- The task as it starts on a thread. -/
def createHttpRequestTask (m_status : AuthStatus) (m_stop : Bool) : HttpTask where
  m_status := m_status
  m_stop := m_stop
  stage := .waiting task.waitTests

end HttpTaskArguments

namespace HttpTask

open HttpTaskArguments

def holdsAuthMutex (state : HttpTask) : Bool :=
  match state.stage with
  | .comparing _ => true
  | .resetting => true
  | _ => false

def meets (state : HttpTask) : WaitTest → Bool
  | .status status => state.m_status = status
  | .stop => state.m_stop

def isOk (status_code : Int) : Bool :=
  200 ≤ status_code && status_code < 300

section Steps

variable (task : HttpTaskArguments) (state : HttpTask)

/-- `continue`: the next attempt, if there is one left. -/
def nextAttempt : HttpTask :=
  if state.attempt + 1 < numRetries then
    { state with
      attempt := state.attempt + 1
      stage := .waiting task.waitTests }
  else { state with stage := .replying }

/-- What the task does with the reply to its request. -/
def received (status_code : Int) (text : List Char) : HttpTask :=
  let state :=
    { state with reply := text, log := .sent status_code text :: state.log }
  if isOk status_code then { state with error := .success, stage := .replying }
  else if status_code = 0 then state.nextAttempt task
  else if status_code ≠ 401 then { state with stage := .replying }
  else { state with stage := .locking }

/-- The next step of the task, where it is neither waiting nor sending. -/
def goOn : Option HttpTask :=
  match state.stage with
  | .waiting [] => none
  | .waiting (test :: tests) =>
      if state.meets test then some { state with stage := .settingUp }
      else some { state with stage := .waiting tests }
  | .settingUp => some { state with stage := .checking task.allowedStatuses }
  | .checking [] => some { state with stage := .refused }
  | .checking (status :: left) =>
      if state.m_status = status then
        some { state with
          stage := .sending, log := .allowed state.m_status :: state.log }
      else some { state with stage := .checking left }
  | .refused =>
      some { state with
        error := if state.m_status = .authenticationFailed then .authFailed
          else .notPaired
        stage := .replying
        log := .refused state.m_status :: state.log }
  | .sending => none
  | .locking => some { state with stage := .comparing settled }
  | .comparing [] => none
  | .comparing (status :: left) =>
      if state.m_status = status then some (state.nextAttempt task)
      else if left = [] then
        some { state with
          stage := .resetting, log := .compared state.m_status :: state.log }
      else some { state with stage := .comparing left }
  | .resetting =>
      some { state with m_status := .notAuthenticated, stage := .stoppingTimer }
  | .stoppingTimer =>
      some { state with
        stage := .authenticating, log := .authenticates :: state.log }
  | .authenticating => some (state.nextAttempt task)
  | .replying =>
      some { state with
        stage := .done
        calledBack :=
          if task.callback then (state.error, state.reply) :: state.calledBack
          else state.calledBack }
  | .done => none

def step : HttpTaskAction → Option HttpTask
  | .others status =>
      if state.holdsAuthMutex ∧
          (status = .notAuthenticated ∨ status = .authenticating) then none
      else some { state with m_status := status }
  | .stops => some { state with m_stop := true }
  | .goesOn => state.goOn task
  | .replied status_code text =>
      if state.stage = .sending then some (state.received task status_code text)
      else none
  | .wakesUp =>
      if state.stage = .waiting [] then
        some { state with stage := .waiting task.waitTests }
      else none

end Steps

/-! ## The law of a task -/

def isSent : HttpEvent → Bool
  | .sent _ _ => true
  | _ => false

/-- The reply to the last request that was sent. -/
def lastSent : List HttpEvent → Option (Int × List Char)
  | [] => none
  | .sent status_code text :: _ => some (status_code, text)
  | _ :: before => lastSent before

/-- A request is sent after a check has found an allowed status; a new
authentication begins after the reply was 401 and a status was seen in which
there is need for one. -/
def JustifiedBy (allowedStatuses : List AuthStatus) :
    HttpEvent → List HttpEvent → Prop
  | .sent _ _, before =>
      ∃ status ∈ allowedStatuses, before.head? = some (.allowed status)
  | .authenticates, before => ∃ status text rest,
      before = .compared status :: .sent 401 text :: rest ∧ status ∉ settled
  | _, _ => True

def Justified (allowedStatuses : List AuthStatus) : List HttpEvent → Prop
  | [] => True
  | event :: before =>
      JustifiedBy allowedStatuses event before ∧ Justified allowedStatuses before

def LastSentOk (log : List HttpEvent) : Prop :=
  ∃ status_code text, lastSent log = some (status_code, text) ∧
    isOk status_code = true

/-- The task has stopped because its check found no allowed status. -/
def StoppedByRefusal (log : List HttpEvent) (status : AuthStatus) : Prop :=
  log.head? = some (.refused status)

/-- The error and the reply are those of the last event. -/
structure Reports (log : List HttpEvent) (error : Error) (reply : List Char) :
    Prop where
  success : error = .success ↔ LastSentOk log
  authFailed : error = .authFailed ↔ StoppedByRefusal log .authenticationFailed
  notPaired : error = .notPaired ↔
    ∃ status, status ≠ .authenticationFailed ∧ StoppedByRefusal log status
  apiError : error = .apiError ↔
    ¬ LastSentOk log ∧ ∀ status, ¬ StoppedByRefusal log status
  reply : reply = ((lastSent log).map Prod.snd).getD []

structure Lawful (allowedStatuses : List AuthStatus) (state : HttpTask) :
    Prop where
  atMostThree : state.log.countP isSent ≤ 3
  justified : Justified allowedStatuses state.log
  calledBackOnce : state.stage = .done → ∃ error reply,
    state.calledBack = [(error, reply)] ∧ Reports state.log error reply
  notCalledBack : state.stage ≠ .done → state.calledBack = []

/-! ## What every step keeps -/

/-- The task has neither succeeded nor been refused. -/
structure Pending (error : Error) (log : List HttpEvent)
    (calledBack : List (Error × List Char)) : Prop where
  error : error = .apiError
  notOk : ¬ LastSentOk log
  notRefused : ∀ status, ¬ StoppedByRefusal log status
  calledBack : calledBack = []

/-- Which comparisons have been made, under the mutex; only the status that is
compared last may still be set by others. -/
def ComparedWith (status : AuthStatus) (left : List AuthStatus) : Prop :=
  left = settled ∨
  (left = [.authenticating, .authenticationFailed] ∧
    status ≠ .notAuthenticated) ∨
  (left = [.authenticationFailed] ∧ status ≠ .notAuthenticated ∧
    status ≠ .authenticating)

def Unauthorized (log : List HttpEvent) : Prop :=
  ∃ text rest, log = .sent 401 text :: rest

/-- A new authentication is justified. -/
def NeedsAuthentication (log : List HttpEvent) : Prop :=
  ∃ status text rest, log = .compared status :: .sent 401 text :: rest ∧
    status ∉ settled

/-- A request can be sent in this attempt. -/
def canSend : HttpTaskStage → Bool
  | .waiting _ => true
  | .settingUp => true
  | .checking _ => true
  | .sending => true
  | _ => false

def StageKept (allowedStatuses : List AuthStatus) (state : HttpTask) : Prop :=
  let pending := Pending state.error state.log state.calledBack
  match state.stage with
  | .sending => pending ∧
      ∃ status ∈ allowedStatuses, state.log.head? = some (.allowed status)
  | .checking left => pending ∧ left ⊆ allowedStatuses
  | .locking => pending ∧ Unauthorized state.log
  | .comparing left => pending ∧ Unauthorized state.log ∧
      ComparedWith state.m_status left
  | .resetting => pending ∧ NeedsAuthentication state.log
  | .stoppingTimer => pending ∧ NeedsAuthentication state.log
  | .replying => Reports state.log state.error state.reply ∧
      state.calledBack = []
  | .done => Reports state.log state.error state.reply ∧
      state.calledBack = [(state.error, state.reply)]
  | _ => pending

structure Kept (allowedStatuses : List AuthStatus) (state : HttpTask) :
    Prop where
  attempt : state.attempt < numRetries
  sent : state.log.countP isSent ≤
    state.attempt + if canSend state.stage then 0 else 1
  justified : Justified allowedStatuses state.log
  reply : state.reply = ((lastSent state.log).map Prod.snd).getD []
  stage : StageKept allowedStatuses state

section Preservation

variable {task : HttpTaskArguments} {allowedStatuses : List AuthStatus}
  {state : HttpTask}

theorem Pending.reports {error : Error} {log : List HttpEvent}
    {calledBack : List (Error × List Char)} {reply : List Char}
    (pending : Pending error log calledBack)
    (isReply : reply = ((lastSent log).map Prod.snd).getD []) :
    Reports log error reply where
  success := iff_of_false (by rw [pending.error]; decide) pending.notOk
  authFailed := iff_of_false (by rw [pending.error]; decide)
    (pending.notRefused _)
  notPaired := iff_of_false (by rw [pending.error]; decide)
    fun ⟨status, _, refused⟩ => pending.notRefused status refused
  apiError := iff_of_true pending.error ⟨pending.notOk, pending.notRefused⟩
  reply := isReply

/-- Other events than requests and refusals change nothing that is pending. -/
theorem Pending.event {error : Error} {log : List HttpEvent}
    {calledBack : List (Error × List Char)}
    (pending : Pending error log calledBack) {event : HttpEvent}
    (notSent : isSent event = false)
    (notRefused : ∀ status, event ≠ .refused status) :
    Pending error (event :: log) calledBack where
  error := pending.error
  notOk := by
    cases event with
    | sent => exact nomatch notSent
    | _ => exact pending.notOk
  notRefused := by
    intro status refused
    rw [StoppedByRefusal, List.head?_cons, Option.some.injEq] at refused
    exact notRefused status refused
  calledBack := pending.calledBack

/-- A refusal is what a task without a success reports. -/
theorem reports_refused {calledBack : List (Error × List Char)}
    {log : List HttpEvent} {error : Error} {reply : List Char}
    {status : AuthStatus} (pending : Pending error log calledBack)
    (isReply : reply = ((lastSent log).map Prod.snd).getD []) :
    Reports (.refused status :: log)
      (if status = .authenticationFailed then .authFailed else .notPaired)
      reply := by
  have stopped : ∀ other,
      StoppedByRefusal (.refused status :: log) other ↔ status = other := by
    simp [StoppedByRefusal]
  have notOk : ¬ LastSentOk (.refused status :: log) := pending.notOk
  split_ifs with failed
  · refine ⟨iff_of_false nofun notOk, ?_, ?_, ?_, isReply⟩ <;>
      simp only [stopped]
    · exact iff_of_true trivial failed
    · exact iff_of_false nofun fun ⟨_, differs, same⟩ => differs (same ▸ failed)
    · exact iff_of_false nofun fun holds => holds.2 status rfl
  · refine ⟨iff_of_false nofun notOk, ?_, ?_, ?_, isReply⟩ <;>
      simp only [stopped]
    · exact iff_of_false nofun failed
    · exact iff_of_true trivial ⟨status, failed, rfl⟩
    · exact iff_of_false nofun fun holds => holds.2 status rfl

theorem kept_nextAttempt
    (pending : Pending state.error state.log state.calledBack)
    (attempt : state.attempt < numRetries)
    (sent : state.log.countP isSent ≤ state.attempt + 1)
    (justified : Justified allowedStatuses state.log)
    (reply : state.reply = ((lastSent state.log).map Prod.snd).getD []) :
    (state.nextAttempt task).Kept allowedStatuses := by
  unfold nextAttempt
  split_ifs with more
  · exact ⟨more, by simpa [canSend] using sent, justified, reply, pending⟩
  · exact ⟨attempt, sent, justified, reply,
      pending.reports reply, pending.calledBack⟩

/-- What the task does with a reply. -/
theorem kept_received (kept : state.Kept allowedStatuses)
    (sending : state.stage = .sending) (status_code : Int) (text : List Char) :
    (state.received task status_code text).Kept allowedStatuses := by
  obtain ⟨pending, status, isAllowed, isFound⟩ :
      Pending state.error state.log state.calledBack ∧
        ∃ status ∈ allowedStatuses,
          state.log.head? = some (.allowed status) := by
    have stage := kept.stage
    rwa [StageKept, sending] at stage
  have sent : state.log.countP isSent + 1 ≤ state.attempt + 1 := by
    have sent := kept.sent
    simp only [sending, canSend, if_true] at sent
    omega
  have justified : Justified allowedStatuses
      (.sent status_code text :: state.log) :=
    ⟨⟨status, isAllowed, isFound⟩, kept.justified⟩
  have counted : (HttpEvent.sent status_code text :: state.log).countP isSent =
      state.log.countP isSent + 1 :=
    List.countP_cons_of_pos rfl
  have isLast : lastSent (.sent status_code text :: state.log) =
      some (status_code, text) := rfl
  unfold received
  split_ifs with ok noReply other
  · refine ⟨kept.attempt, counted.trans_le sent, justified, rfl, ?_,
      pending.calledBack⟩
    exact ⟨iff_of_true rfl ⟨_, _, isLast, ok⟩, iff_of_false nofun nofun,
      iff_of_false nofun nofun, iff_of_false nofun
        fun holds => holds.1 ⟨_, _, isLast, ok⟩, rfl⟩
  all_goals
    have notOk : ¬ LastSentOk (.sent status_code text :: state.log) := by
      rintro ⟨code, body, isSame, isOkCode⟩
      rw [isLast, Option.some.injEq, Prod.mk.injEq] at isSame
      rw [← isSame.1] at isOkCode
      exact ok isOkCode
    have pendingNow : Pending state.error
        (.sent status_code text :: state.log) state.calledBack :=
      ⟨pending.error, notOk, nofun, pending.calledBack⟩
  · exact kept_nextAttempt pendingNow kept.attempt (counted.trans_le sent)
      justified rfl
  · exact ⟨kept.attempt, counted.trans_le sent, justified, rfl,
      pendingNow.reports rfl, pending.calledBack⟩
  · obtain rfl := not_not.mp other
    exact ⟨kept.attempt, counted.trans_le sent, justified, rfl,
      pendingNow, text, state.log, rfl⟩

/-- Another thread sets the status. -/
theorem kept_others (kept : state.Kept allowedStatuses) {status : AuthStatus}
    (free : ¬ (state.holdsAuthMutex ∧
      (status = .notAuthenticated ∨ status = .authenticating))) :
    Kept allowedStatuses { state with m_status := status } := by
  refine ⟨kept.attempt, kept.sent, kept.justified, kept.reply, ?_⟩
  have stage := kept.stage
  unfold StageKept at stage ⊢
  cases isStage : state.stage with
  | comparing left =>
      simp only [isStage] at stage ⊢
      obtain ⟨pending, unauthorized, compared⟩ := stage
      refine ⟨pending, unauthorized, ?_⟩
      have holds : state.holdsAuthMutex = true := by
        simp [holdsAuthMutex, isStage]
      have others : status ≠ .notAuthenticated ∧ status ≠ .authenticating := by
        simpa [holds, not_or] using free
      rcases compared with all | ⟨two, -⟩ | ⟨one, -⟩
      · exact Or.inl all
      · exact Or.inr (Or.inl ⟨two, others.1⟩)
      · exact Or.inr (Or.inr ⟨one, others⟩)
  | _ =>
      simp only [isStage] at stage ⊢
      exact stage

/-- The comparisons are made in the order of the settled statuses. -/
theorem ComparedWith.next {status compared : AuthStatus} {left : List AuthStatus}
    (comparedWith : ComparedWith status (compared :: left))
    (differs : status ≠ compared) :
    (left ≠ [] ∧ ComparedWith status left) ∨ (left = [] ∧ status ∉ settled) := by
  rcases comparedWith with all | ⟨two, first⟩ | ⟨one, first, second⟩
  · obtain ⟨rfl, rfl⟩ := List.cons.inj all
    exact Or.inl ⟨by simp, Or.inr (Or.inl ⟨rfl, differs⟩)⟩
  · obtain ⟨rfl, rfl⟩ := List.cons.inj two
    exact Or.inl ⟨by simp, Or.inr (Or.inr ⟨rfl, first, differs⟩)⟩
  · obtain ⟨rfl, rfl⟩ := List.cons.inj one
    exact Or.inr ⟨rfl, by simp [settled, first, second, differs]⟩

/-- Every step that the task makes by itself. -/
theorem kept_goOn {next : HttpTask} (callback : task.callback = true)
    (kept : state.Kept task.allowedStatuses)
    (taken : state.goOn task = some next) :
    next.Kept task.allowedStatuses := by
  obtain ⟨attempt, sent, justified, reply, stage⟩ := kept
  unfold StageKept at stage
  unfold goOn at taken
  cases isStage : state.stage with
  | waiting tests =>
      simp only [isStage, canSend] at taken stage sent
      cases tests with
      | nil => exact nomatch taken
      | cons test tests =>
          dsimp only at taken
          split at taken <;> obtain rfl := Option.some.inj taken
          · exact ⟨attempt, sent, justified, reply, stage⟩
          · exact ⟨attempt, sent, justified, reply, stage⟩
  | settingUp =>
      simp only [isStage, canSend] at taken stage sent
      obtain rfl := Option.some.inj taken
      exact ⟨attempt, sent, justified, reply, stage, List.Subset.refl _⟩
  | checking left =>
      simp only [isStage, canSend] at taken stage sent
      cases left with
      | nil =>
          obtain rfl := Option.some.inj taken
          exact ⟨attempt, Nat.le_succ_of_le sent, justified, reply, stage.1⟩
      | cons status left =>
          obtain ⟨isAllowed, subset⟩ := List.cons_subset.mp stage.2
          dsimp only at taken
          split at taken <;> obtain rfl := Option.some.inj taken
          · next same =>
              exact ⟨attempt, sent, ⟨trivial, justified⟩, reply,
                stage.1.event rfl nofun, status, isAllowed, by simp [same]⟩
          · exact ⟨attempt, sent, justified, reply, stage.1, subset⟩
  | refused =>
      simp only [isStage, canSend] at taken stage sent
      obtain rfl := Option.some.inj taken
      refine ⟨attempt, sent, ⟨trivial, justified⟩, reply, ?_, stage.calledBack⟩
      exact reports_refused stage reply
  | sending => simp [isStage] at taken
  | locking =>
      simp only [isStage, canSend] at taken stage sent
      obtain rfl := Option.some.inj taken
      exact ⟨attempt, sent, justified, reply, stage.1, stage.2, Or.inl rfl⟩
  | comparing left =>
      simp only [isStage, canSend] at taken stage sent
      obtain ⟨pending, unauthorized, compared⟩ := stage
      cases left with
      | nil => exact nomatch taken
      | cons status left =>
          dsimp only at taken
          split at taken
          · obtain rfl := Option.some.inj taken
            exact kept_nextAttempt pending attempt sent justified reply
          · next differs =>
              rcases compared.next differs with ⟨more, later⟩ | ⟨rfl, notSettled⟩
              · rw [if_neg more] at taken
                obtain rfl := Option.some.inj taken
                exact ⟨attempt, sent, justified, reply, pending, unauthorized,
                  later⟩
              · rw [if_pos rfl] at taken
                obtain rfl := Option.some.inj taken
                obtain ⟨text, rest, isLog⟩ := unauthorized
                exact ⟨attempt, sent, ⟨trivial, justified⟩, reply,
                  pending.event rfl nofun, state.m_status, text, rest,
                  by rw [isLog], notSettled⟩
  | resetting =>
      simp only [isStage, canSend] at taken stage sent
      obtain rfl := Option.some.inj taken
      exact ⟨attempt, sent, justified, reply, stage⟩
  | stoppingTimer =>
      simp only [isStage, canSend] at taken stage sent
      obtain rfl := Option.some.inj taken
      exact ⟨attempt, sent, ⟨stage.2, justified⟩, reply,
        stage.1.event rfl nofun⟩
  | authenticating =>
      simp only [isStage, canSend] at taken stage sent
      obtain rfl := Option.some.inj taken
      exact kept_nextAttempt stage attempt sent justified reply
  | replying =>
      simp only [isStage, canSend, callback, if_true] at taken stage sent
      obtain rfl := Option.some.inj taken
      exact ⟨attempt, sent, justified, reply, stage.1, by simp [stage.2]⟩
  | done => simp [isStage] at taken

/-- One step of the task, or of another thread. -/
theorem kept_step {next : HttpTask} {action : HttpTaskAction}
    (callback : task.callback = true) (kept : state.Kept task.allowedStatuses)
    (taken : state.step task action = some next) :
    next.Kept task.allowedStatuses := by
  cases action with
  | others status =>
      simp only [step] at taken
      split at taken
      · exact nomatch taken
      · next free =>
          obtain rfl := Option.some.inj taken
          exact kept_others kept free
  | stops =>
      obtain rfl := Option.some.inj taken
      exact ⟨kept.attempt, kept.sent, kept.justified, kept.reply, kept.stage⟩
  | goesOn => exact kept_goOn callback kept taken
  | replied status_code text =>
      simp only [step] at taken
      split at taken
      · next sending =>
          obtain rfl := Option.some.inj taken
          exact kept_received kept sending status_code text
      · exact nomatch taken
  | wakesUp =>
      simp only [step] at taken
      split at taken
      · next waits =>
          obtain rfl := Option.some.inj taken
          obtain ⟨attempt, sent, justified, reply, stage⟩ := kept
          simp only [StageKept, waits, canSend] at stage sent
          exact ⟨attempt, sent, justified, reply, stage⟩
      · exact nomatch taken

theorem Kept.lawful (kept : state.Kept allowedStatuses) :
    state.Lawful allowedStatuses := by
  obtain ⟨attempt, sent, justified, -, stage⟩ := kept
  refine ⟨?_, justified, fun isDone => ?_, fun notDone => ?_⟩
  · rw [numRetries] at attempt
    split at sent <;> omega
  · simp only [StageKept, isDone] at stage
    exact ⟨_, _, stage.2, stage.1⟩
  · unfold StageKept at stage
    cases isStage : state.stage with
    | done => exact absurd isStage notDone
    | waiting => simp only [isStage] at stage; exact stage.calledBack
    | settingUp => simp only [isStage] at stage; exact stage.calledBack
    | refused => simp only [isStage] at stage; exact stage.calledBack
    | authenticating => simp only [isStage] at stage; exact stage.calledBack
    | replying => simp only [isStage] at stage; exact stage.2
    | _ => simp only [isStage] at stage; exact stage.1.calledBack

end Preservation

/-! ## The end of a task -/

section Ending

variable (task : HttpTaskArguments)

/-- How many steps are left of an attempt, at most. -/
def stageSteps : HttpTaskStage → Nat
  | .waiting tests => 12 + task.allowedStatuses.length + tests.length
  | .settingUp => 11 + task.allowedStatuses.length
  | .checking left => 10 + left.length
  | .sending => 9
  | .locking => 8
  | .comparing left => 4 + left.length
  | .resetting => 4
  | .stoppingTimer => 3
  | .authenticating => 2
  | .refused => 2
  | .replying => 1
  | .done => 0

/-- How many steps an attempt has, if its wait ends at once. -/
def attemptSteps : Nat :=
  stageSteps task (.waiting task.waitTests)

/-- How many steps are left of the task, at most. -/
def stepsLeft (state : HttpTask) : Nat :=
  (numRetries - 1 - state.attempt) * attemptSteps task + stageSteps task state.stage

/-- The steps of the task itself. -/
def isOwn : HttpTaskAction → Bool
  | .goesOn => true
  | .replied _ _ => true
  | _ => false

variable {task} {state next : HttpTask}

theorem stepsLeft_nextAttempt
    (positive : 2 ≤ stageSteps task state.stage) :
    (state.nextAttempt task).stepsLeft task < state.stepsLeft task := by
  unfold nextAttempt stepsLeft
  split_ifs with more
  · have fewer : numRetries - 1 - state.attempt =
        numRetries - 1 - (state.attempt + 1) + 1 := by omega
    rw [fewer, Nat.succ_mul]
    change _ * _ + attemptSteps task < _
    dsimp only
    omega
  · exact Nat.add_lt_add_left positive _

/-- Within an attempt the steps that are left get fewer. -/
theorem stepsLeft_stage (attempt : next.attempt = state.attempt)
    (fewer : stageSteps task next.stage < stageSteps task state.stage) :
    next.stepsLeft task < state.stepsLeft task := by
  unfold stepsLeft
  rw [attempt]
  exact Nat.add_lt_add_left fewer _

theorem stepsLeft_goOn (taken : state.goOn task = some next) :
    next.stepsLeft task < state.stepsLeft task := by
  unfold goOn at taken
  cases isStage : state.stage with
  | waiting tests =>
      cases tests with
      | nil => simp [isStage] at taken
      | cons test tests =>
          simp only [isStage] at taken
          split at taken <;> obtain rfl := Option.some.inj taken <;>
            refine stepsLeft_stage rfl ?_ <;> simp [isStage, stageSteps]
          omega
  | checking left =>
      cases left with
      | nil =>
          simp only [isStage] at taken
          obtain rfl := Option.some.inj taken
          exact stepsLeft_stage rfl (by simp [isStage, stageSteps])
      | cons status left =>
          simp only [isStage] at taken
          split at taken <;> obtain rfl := Option.some.inj taken <;>
            refine stepsLeft_stage rfl ?_ <;> simp [isStage, stageSteps]
          omega
  | comparing left =>
      cases left with
      | nil => simp [isStage] at taken
      | cons status left =>
          simp only [isStage] at taken
          split at taken
          · obtain rfl := Option.some.inj taken
            exact stepsLeft_nextAttempt (by simp [isStage, stageSteps]; omega)
          · split at taken <;> obtain rfl := Option.some.inj taken <;>
              exact stepsLeft_stage rfl (by simp [isStage, stageSteps])
  | authenticating =>
      simp only [isStage] at taken
      obtain rfl := Option.some.inj taken
      exact stepsLeft_nextAttempt (by simp [isStage, stageSteps])
  | sending => simp [isStage] at taken
  | done => simp [isStage] at taken
  | settingUp =>
      simp only [isStage] at taken
      obtain rfl := Option.some.inj taken
      refine stepsLeft_stage rfl ?_
      simp only [isStage, stageSteps]
      omega
  | _ =>
      simp only [isStage] at taken
      obtain rfl := Option.some.inj taken
      exact stepsLeft_stage rfl (by simp [isStage, stageSteps, settled])

theorem stepsLeft_received (sending : state.stage = .sending)
    (status_code : Int) (text : List Char) :
    (state.received task status_code text).stepsLeft task <
      state.stepsLeft task := by
  unfold received
  split_ifs
  · exact stepsLeft_stage rfl (by simp [sending, stageSteps])
  · exact stepsLeft_nextAttempt (by simp [sending, stageSteps])
  · exact stepsLeft_stage rfl (by simp [sending, stageSteps])
  · exact stepsLeft_stage rfl (by simp [sending, stageSteps])

/-- What a step takes from the steps that are left, and a wait adds to them. -/
theorem stepsLeft_step {action : HttpTaskAction}
    (taken : state.step task action = some next) :
    [action].countP isOwn + next.stepsLeft task ≤
      state.stepsLeft task + [action].count .wakesUp * task.waitTests.length := by
  cases action with
  | others status =>
      simp only [step] at taken
      split at taken
      · exact nomatch taken
      · obtain rfl := Option.some.inj taken
        simp [isOwn, stepsLeft]
  | stops =>
      obtain rfl := Option.some.inj taken
      simp [isOwn, stepsLeft]
  | goesOn =>
      have fewer := stepsLeft_goOn taken
      simp [isOwn]
      omega
  | replied status_code text =>
      simp only [step] at taken
      split at taken
      · next sending =>
          obtain rfl := Option.some.inj taken
          have fewer : (state.received task status_code text).stepsLeft task <
              state.stepsLeft task :=
            stepsLeft_received sending status_code text
          simp [isOwn]
          omega
      · exact nomatch taken
  | wakesUp =>
      simp only [step] at taken
      split at taken
      · next waits =>
          obtain rfl := Option.some.inj taken
          simp [isOwn, stepsLeft, waits, stageSteps]
          omega
      · exact nomatch taken

theorem stepsLeft_run {actions : List HttpTaskAction} {final : HttpTask}
    (reached : Transition.run (step task) state actions = some final) :
    actions.countP isOwn + final.stepsLeft task ≤
      state.stepsLeft task +
        actions.count .wakesUp * task.waitTests.length := by
  induction actions generalizing state with
  | nil =>
      obtain rfl := Option.some.inj reached
      simp
  | cons action actions ih =>
      obtain ⟨next, taken, later⟩ := Transition.run_cons.mp reached
      have first := stepsLeft_step taken
      have rest := ih later
      rw [← List.singleton_append, List.countP_append, List.count_append,
        Nat.add_mul]
      omega

/-- A task that is not done can go on, after a wait that is over or a reply. -/
theorem canGoOn_of_not_done (kept : state.Kept task.allowedStatuses)
    (notDone : state.stage ≠ .done) :
    state.stage = .waiting [] ∨ state.stage = .sending ∨
      (state.step task .goesOn).isSome = true := by
  unfold step goOn
  cases isStage : state.stage with
  | waiting tests =>
      cases tests with
      | nil => exact Or.inl rfl
      | cons test tests => right; right; dsimp only; split <;> rfl
  | checking left =>
      cases left with
      | nil => exact Or.inr (Or.inr rfl)
      | cons status left => right; right; dsimp only; split <;> rfl
  | comparing left =>
      have stage := kept.stage
      simp only [StageKept, isStage] at stage
      cases left with
      | nil =>
          rcases stage.2.2 with all | ⟨two, -⟩ | ⟨one, -⟩
          · exact nomatch all
          · exact nomatch two
          · exact nomatch one
      | cons status left =>
          right; right; dsimp only
          split
          · rfl
          · split <;> rfl
  | sending => exact Or.inr (Or.inl rfl)
  | done => exact absurd isStage notDone
  | _ => exact Or.inr (Or.inr rfl)

end Ending

/-! ## Runs of tasks -/

variable (allowedStatuses : List AuthStatus) in
/-- Along every run, whatever the replies are and whatever the other threads set,
a task keeps its law, and it ends unless it waits for ever: it can go on until it
is done, and the number of its steps is bounded by how often it has woken up. -/
theorem lawful_of_run (m_status : AuthStatus) (m_stop : Bool)
    (actions : List HttpTaskAction) (final : HttpTask)
    (reached : Transition.run (step (.mk allowedStatuses true))
      ((HttpTaskArguments.mk allowedStatuses true).createHttpRequestTask
        m_status m_stop) actions = some final) :
    final.Lawful allowedStatuses ∧
    (final.stage ≠ .done → final.stage = .waiting [] ∨ final.stage = .sending ∨
      (final.step (.mk allowedStatuses true) .goesOn).isSome = true) ∧
    actions.countP isOwn ≤
      3 * attemptSteps (.mk allowedStatuses true) +
        actions.count .wakesUp * (4 + allowedStatuses.length) := by
  have initially : Kept allowedStatuses
      ((HttpTaskArguments.mk allowedStatuses true).createHttpRequestTask
        m_status m_stop) :=
    ⟨(by decide : 0 < numRetries), Nat.zero_le _, trivial, rfl, rfl, nofun, nofun,
      rfl⟩
  have kept : final.Kept allowedStatuses :=
    Transition.run_invariant
      (fun state action next holds taken => kept_step rfl holds taken) reached
      initially
  refine ⟨kept.lawful, canGoOn_of_not_done kept, ?_⟩
  have bounded := stepsLeft_run reached
  have start : ((HttpTaskArguments.mk allowedStatuses true).createHttpRequestTask
      m_status m_stop).stepsLeft (.mk allowedStatuses true) =
        3 * attemptSteps (.mk allowedStatuses true) := by
    change (numRetries - 1) * attemptSteps _ + attemptSteps _ = _
    rw [numRetries]
    omega
  have tests : (HttpTaskArguments.mk allowedStatuses true).waitTests.length =
      4 + allowedStatuses.length := by
    simp [waitTests]
    omega
  rw [start, tests] at bounded
  omega

namespace Sample

/-- The token has expired: the first request is answered with 401, the task
authenticates anew, and its second request succeeds. -/
def expiredToken : List HttpTaskAction :=
  [.goesOn, .goesOn, .goesOn, .replied 401 [], .goesOn, .goesOn, .goesOn,
    .goesOn, .goesOn, .goesOn, .others .authenticating,
    .others .authenticatedCheckingPairing, .goesOn, .goesOn, .goesOn, .goesOn,
    .goesOn, .goesOn, .others .authenticatedPaired, .wakesUp, .goesOn, .goesOn,
    .goesOn, .replied 200 ['o', 'k'], .goesOn]

end Sample

theorem lawful_expiredToken : ∃ final,
    Transition.run (step (.mk [.authenticatedPaired] true))
      ((HttpTaskArguments.mk [.authenticatedPaired] true).createHttpRequestTask
        .authenticatedPaired false) Sample.expiredToken = some final ∧
    final.calledBack = [(.success, ['o', 'k'])] ∧
    final.Lawful [.authenticatedPaired] := by
  have evaluated : ((Transition.run (step (.mk [.authenticatedPaired] true))
      ((HttpTaskArguments.mk [.authenticatedPaired] true).createHttpRequestTask
        .authenticatedPaired false) Sample.expiredToken).any fun final =>
          final.calledBack = [(.success, ['o', 'k'])]) = true := by
    decide +kernel
  obtain ⟨final, reached, calledBack⟩ := (Option.any_eq_true _ _).mp evaluated
  exact ⟨final, reached, of_decide_eq_true calledBack,
    (lawful_of_run _ _ _ _ final reached).1⟩

end HttpTask

end ScorbitSdk
