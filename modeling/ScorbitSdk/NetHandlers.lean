import ScorbitSdk.WorkerTasks

/-!
# Handlers of the authentication status

The authenticate tasks, the requests that wait for the status, the callbacks
that parse the scorbitron object and the signals of the control channel, each
as the list of the statements it has left to run.  A step runs one statement of
one handler, and between any two of them every other handler may run.

Any number of handlers runs at once, and requests are posted at any time; what
else the handlers do is left out.  Only the signals wait for each other: they
are the work of the strand of the channel's client.
-/

namespace ScorbitSdk

deriving instance DecidableEq for ScorbitronObject

/-- The lists of allowed statuses that the requests are made with. -/
inductive AllowedStatuses
  | paired
  | unpairedOrPaired
  | checkingUnpairedOrPaired
  deriving DecidableEq

def AllowedStatuses.statuses : AllowedStatuses → List AuthStatus
  | paired => [.authenticatedPaired]
  | unpairedOrPaired => [.authenticatedUnpaired, .authenticatedPaired]
  | checkingUnpairedOrPaired =>
      [.authenticatedCheckingPairing, .authenticatedUnpaired,
        .authenticatedPaired]

structure HandlerRequest where
  allowedStatuses : AllowedStatuses := .paired
  callback : RequestCallback := .other
  deriving DecidableEq

namespace HandlerRequest

def sendScorbitronObject : HandlerRequest where
  allowedStatuses := .checkingUnpairedOrPaired
  callback := .sendScorbitronObject

def setCapabilities : HandlerRequest where
  allowedStatuses := .unpairedOrPaired
  callback := .patchScorbitron

def requestUnpair : HandlerRequest where
  callback := .requestUnpair

def requestPairMachine : HandlerRequest where
  allowedStatuses := .unpairedOrPaired
  callback := .requestPairMachine

def getConfig : HandlerRequest where
  allowedStatuses := .unpairedOrPaired

def requestMachineObject : HandlerRequest := {}

def setCreditsDropped : HandlerRequest := {}

end HandlerRequest

/-- The statements of the handlers.  A statement that decides something or
calls a function is replaced by what it leads to. -/
inductive Statement
  /-- `createAuthenticateTask()()` reads `m_isRefreshingToken`. -/
  | authenticate
  | lockAuthMutex
  | unlockAuthMutex
  | checkNotAuthenticated
  | assignStatus (status : AuthStatus)
  | resetLastEmittedPairingState
  | setRefreshingToken (value : Bool)
  /-- The rest of the authentication up to the reply with the token. -/
  | requestToken (normalAuthentication : Bool)
  | startTokenRefreshTimer (expiresTooSoon : Bool)
  | cancelTokenRefreshTimer
  | notifyAll
  /-- A normal authentication that has a token sets the status. -/
  | authenticated
  /-- Posts an authenticate task. -/
  | postAuthenticate
  /-- An attempt of `createHttpRequestTask` begins. -/
  | request (request : HandlerRequest) (attempt : Nat)
  | waitPredicate (request : HandlerRequest) (attempt : Nat)
  /-- The predicate was false: the mutex is released and the thread blocked. -/
  | wait (request : HandlerRequest) (attempt : Nat)
  | asleep (request : HandlerRequest) (attempt : Nat)
  | checkAllowedStatuses (request : HandlerRequest) (attempt : Nat)
  | refuse (request : HandlerRequest)
  | send (request : HandlerRequest) (attempt : Nat)
  | checkUnauthorized (request : HandlerRequest) (attempt : Nat)
  | callback (request : HandlerRequest) (error : Error)
      (reply : Option ScorbitronObject)
  /-- `if (m_status != status)` in `parseScorbitronObject`. -/
  | compareStatus (isPaired : Bool)
  /-- `emitPairingStatusEventIfChanged` reads the state emitted last. -/
  | emitPairingStatusEventIfChanged (isPaired : Bool)
  | setLastEmittedPairingState (isPaired : Bool)
  | pushPairingStatusChanged (isPaired : Bool)
  deriving DecidableEq

abbrev Handler := List Statement

/-- `m_status` of a machine that is paired or unpaired. -/
def pairingStatus (isPaired : Bool) : AuthStatus :=
  if isPaired then .authenticatedPaired else .authenticatedUnpaired

namespace Handler

/-- `m_isRefreshingToken` is cleared after its timer. -/
def stopTokenRefreshTimer : Handler :=
  [.cancelTokenRefreshTimer, .setRefreshingToken false]

/-- An authentication that fails. -/
def authenticationFailed (stopsTimer : Handler) : Handler :=
  [.assignStatus .authenticationFailed] ++ stopsTimer ++ [.notifyAll]

/-- The loop goes on, or the callback is called with the error it began
with. -/
def nextAttempt (request : HandlerRequest) (attempt : Nat) : Handler :=
  if attempt + 1 < numRetries then [.request request (attempt + 1)]
  else [.callback request .apiError none]

def parseScorbitronObject : Error → Option ScorbitronObject → Handler
  | .success, some object => [.compareStatus object.isPaired]
  | _, _ => []

/-- What the callbacks do after they have parsed the reply. -/
def runCallback (error : Error) : RequestCallback → Handler
  | .requestUnpair =>
      if error = .success ∨ error = .notPaired then
        [.assignStatus .authenticatedUnpaired]
      else []
  | _ => []

def onPaired : Handler :=
  [.assignStatus .authenticatedPaired, .emitPairingStatusEventIfChanged true]

def onUnpaired : Handler :=
  [.assignStatus .authenticatedUnpaired, .notifyAll,
    .emitPairingStatusEventIfChanged false]

/-- The handler of the timer that refreshes the token. -/
def refreshToken : Handler :=
  [.setRefreshingToken true, .postAuthenticate]

/-- The destructor after it has set `m_stop`. -/
def destroy : Handler :=
  stopTokenRefreshTimer ++ [.notifyAll]

/-- A handler that sleeps goes on to lock the mutex again. -/
def wake : Handler → Handler
  | .asleep request attempt :: rest =>
      .lockAuthMutex :: .waitPredicate request attempt :: rest
  | handler => handler

end Handler

/-- The first handler is that of the signals, the second the first
authentication.  The events are those pushed since the last normal
authentication. -/
structure NetHandlers where
  stop : Bool := false
  status : AuthStatus := .notAuthenticated
  isRefreshingToken : Bool := false
  tokenRefreshTimer : Bool := false
  lastEmittedPairingState : Option Bool := none
  /-- The handler that holds `m_authMutex`. -/
  authMutex : Option Nat := none
  handlers : List Handler := [[], [.authenticate]]
  events : List Bool := []

inductive HandlerAction
  | call (request : HandlerRequest)
  | paired
  | unpaired
  | tokenRefreshTimerExpires
  | destroy
  /-- The next statement of a handler. -/
  | run (handler : Nat) (reply : WorkerReply)
  /-- A spurious wake-up. -/
  | wake (handler : Nat)

namespace NetHandlers

def isAuthenticated (state : NetHandlers) : Bool :=
  state.status = .authenticatedPaired || state.status = .authenticatedUnpaired

def checkAllowedStatuses (state : NetHandlers) (request : HandlerRequest) :
    Bool :=
  state.status ∈ request.allowedStatuses.statuses

/-- What a request waits for on `m_authCV`. -/
def canGoOn (state : NetHandlers) (request : HandlerRequest) : Bool :=
  state.isAuthenticated || state.status = .authenticationFailed ||
    state.stop || state.checkAllowedStatuses request

/-- What follows the reply with the token, or the lack of one. -/
def requestToken (state : NetHandlers) (normalAuthentication : Bool) :
    AuthReply → Handler
  | .noSigner => Handler.authenticationFailed []
  | .noSignature =>
      Handler.authenticationFailed Handler.stopTokenRefreshTimer
  | .noToken =>
      if state.stop then
        Handler.authenticationFailed [.setRefreshingToken false]
      else Handler.authenticationFailed Handler.stopTokenRefreshTimer
  | .token expiresTooSoon =>
      if state.stop then
        Handler.authenticationFailed [.setRefreshingToken false]
      else
        [.startTokenRefreshTimer expiresTooSoon, .notifyAll] ++
          if normalAuthentication then [.authenticated] else []

/-- What a statement leaves in its place, or none while it waits. -/
def left (state : NetHandlers) (reply : WorkerReply) :
    Statement → Option Handler
  | .authenticate =>
      some (if state.isRefreshingToken then
        [.setRefreshingToken true, .requestToken false]
      else [.lockAuthMutex, .checkNotAuthenticated])
  | .lockAuthMutex => if state.authMutex = none then some [] else none
  | .checkNotAuthenticated =>
      some (if state.status = .notAuthenticated then
        [.assignStatus .authenticating, .resetLastEmittedPairingState,
          .setRefreshingToken true, .requestToken true]
      else [.unlockAuthMutex])
  | .requestToken normalAuthentication =>
      some (state.requestToken normalAuthentication reply.auth ++
        if normalAuthentication then [.unlockAuthMutex] else [])
  | .request request attempt =>
      some [.lockAuthMutex, .waitPredicate request attempt]
  | .waitPredicate request attempt =>
      some (if state.canGoOn request then
        [.unlockAuthMutex, .checkAllowedStatuses request attempt]
      else [.wait request attempt])
  | .wait request attempt => some [.asleep request attempt]
  | .asleep _ _ => none
  | .checkAllowedStatuses request attempt =>
      some (if state.checkAllowedStatuses request then [.send request attempt]
      else [.refuse request])
  | .refuse request =>
      let error := if state.status = .authenticationFailed then
        Error.authFailed else Error.notPaired
      some [.callback request error none]
  | .send request attempt =>
      some <| match reply.http with
        | .ok object => [.callback request .success object]
        | .noResponse => Handler.nextAttempt request attempt
        | .unauthorized =>
            [.lockAuthMutex, .checkUnauthorized request attempt]
        | .failed => [.callback request .apiError none]
  | .checkUnauthorized request attempt =>
      some (if state.status = .notAuthenticated ∨
          state.status = .authenticating ∨
          state.status = .authenticationFailed then
        .unlockAuthMutex :: Handler.nextAttempt request attempt
      else
        [.assignStatus .notAuthenticated, .unlockAuthMutex] ++
          Handler.stopTokenRefreshTimer ++ [.authenticate] ++
          Handler.nextAttempt request attempt)
  | .callback request error object =>
      some (if request.callback = .other then []
      else Handler.parseScorbitronObject error object ++
        Handler.runCallback error request.callback)
  | .compareStatus isPaired =>
      some (if state.status = pairingStatus isPaired then []
      else
        [.assignStatus (pairingStatus isPaired), .notifyAll,
          .emitPairingStatusEventIfChanged isPaired])
  | .emitPairingStatusEventIfChanged isPaired =>
      some (if state.lastEmittedPairingState = some isPaired then []
      else
        [.setLastEmittedPairingState isPaired,
          .pushPairingStatusChanged isPaired])
  | _ => some []

/-- What a statement of a handler does to what the handlers share. -/
def execute (state : NetHandlers) (handler : Nat) : Statement → NetHandlers
  | .lockAuthMutex => { state with authMutex := some handler }
  | .unlockAuthMutex => { state with authMutex := none }
  | .wait _ _ => { state with authMutex := none }
  | .assignStatus status => { state with status := status }
  | .authenticated =>
      { state with status := .authenticatedCheckingPairing }
  | .resetLastEmittedPairingState =>
      { state with lastEmittedPairingState := none, events := [] }
  | .setRefreshingToken value => { state with isRefreshingToken := value }
  | .startTokenRefreshTimer expiresTooSoon =>
      { state with
        tokenRefreshTimer := state.tokenRefreshTimer || !expiresTooSoon }
  | .cancelTokenRefreshTimer => { state with tokenRefreshTimer := false }
  | .notifyAll => { state with handlers := state.handlers.map Handler.wake }
  | .postAuthenticate =>
      { state with handlers := state.handlers ++ [[.authenticate]] }
  | .setLastEmittedPairingState isPaired =>
      { state with lastEmittedPairingState := some isPaired }
  | .pushPairingStatusChanged isPaired =>
      { state with events := state.events ++ [isPaired] }
  | _ => state

/-- Run the next statement of a handler. -/
def runHandler (state : NetHandlers) (handler : Nat) (reply : WorkerReply) :
    Option NetHandlers :=
  match state.handlers[handler]? with
  | some (statement :: rest) =>
      (state.left reply statement).map fun left =>
        { state with
          handlers := state.handlers.set handler (left ++ rest) }.execute
            handler statement
  | _ => none

/-- The signals are handled one after the other, and no more once the library
stops. -/
def signal (state : NetHandlers) (handler : Handler) : Option NetHandlers :=
  if state.stop = false ∧ state.handlers[0]? = some [] then
    some { state with handlers := state.handlers.set 0 handler }
  else none

def step (state : NetHandlers) : HandlerAction → Option NetHandlers
  | .call request =>
      some { state with handlers := state.handlers ++ [[.request request 0]] }
  | .paired => state.signal Handler.onPaired
  | .unpaired => state.signal Handler.onUnpaired
  | .tokenRefreshTimerExpires =>
      if state.tokenRefreshTimer then
        some { state with
          tokenRefreshTimer := false
          handlers := state.handlers ++ [Handler.refreshToken] }
      else none
  | .destroy =>
      if state.stop then none
      else
        some { state with
          stop := true, handlers := state.handlers ++ [Handler.destroy] }
  | .run handler reply => state.runHandler handler reply
  | .wake handler =>
      match state.handlers[handler]? with
      | some (.asleep request attempt :: rest) =>
          some { state with
            handlers := state.handlers.set handler
              (Handler.wake (.asleep request attempt :: rest)) }
      | _ => none

/-- What a step can do: start a handler, run a statement of one, or wake one. -/
inductive Step (state : NetHandlers) : HandlerAction → NetHandlers → Prop
  | call {request : HandlerRequest} :
      Step state (.call request)
        { state with handlers := state.handlers ++ [[.request request 0]] }
  | paired (notStopped : state.stop = false)
      (idle : state.handlers[0]? = some []) :
      Step state .paired
        { state with handlers := state.handlers.set 0 Handler.onPaired }
  | unpaired (notStopped : state.stop = false)
      (idle : state.handlers[0]? = some []) :
      Step state .unpaired
        { state with handlers := state.handlers.set 0 Handler.onUnpaired }
  | tokenRefreshTimerExpires (armed : state.tokenRefreshTimer = true) :
      Step state .tokenRefreshTimerExpires
        { state with
          tokenRefreshTimer := false
          handlers := state.handlers ++ [Handler.refreshToken] }
  | destroy (notStopped : state.stop = false) :
      Step state .destroy
        { state with
          stop := true, handlers := state.handlers ++ [Handler.destroy] }
  | run {handler : Nat} {reply : WorkerReply} {statement : Statement}
      {rest left : Handler}
      (next : state.handlers[handler]? = some (statement :: rest))
      (isLeft : state.left reply statement = some left) :
      Step state (.run handler reply)
        ({ state with
            handlers := state.handlers.set handler (left ++ rest) }.execute
          handler statement)
  | wake {handler : Nat} {request : HandlerRequest} {attempt : Nat}
      {rest : Handler}
      (asleep : state.handlers[handler]? =
        some (.asleep request attempt :: rest)) :
      Step state (.wake handler)
        { state with
          handlers := state.handlers.set handler
            (.lockAuthMutex :: .waitPredicate request attempt :: rest) }

theorem step_cases {state next : NetHandlers} {action : HandlerAction}
    (taken : state.step action = some next) : Step state action next := by
  cases action with
  | call request =>
      cases taken
      exact .call
  | paired =>
      simp only [step, signal, Option.ite_none_right_eq_some,
        Option.some.injEq] at taken
      obtain ⟨⟨notStopped, idle⟩, rfl⟩ := taken
      exact .paired notStopped idle
  | unpaired =>
      simp only [step, signal, Option.ite_none_right_eq_some,
        Option.some.injEq] at taken
      obtain ⟨⟨notStopped, idle⟩, rfl⟩ := taken
      exact .unpaired notStopped idle
  | tokenRefreshTimerExpires =>
      simp only [step, Option.ite_none_right_eq_some,
        Option.some.injEq] at taken
      obtain ⟨armed, rfl⟩ := taken
      exact .tokenRefreshTimerExpires armed
  | destroy =>
      simp only [step, Option.ite_none_left_eq_some, Bool.not_eq_true,
        Option.some.injEq] at taken
      obtain ⟨notStopped, rfl⟩ := taken
      exact .destroy notStopped
  | run handler reply =>
      simp only [step, runHandler] at taken
      split at taken
      · obtain ⟨left, isLeft, rfl⟩ := Option.map_eq_some_iff.mp taken
        exact .run ‹_› isLeft
      · cases taken
  | wake handler =>
      simp only [step] at taken
      split at taken <;> cases taken
      exact .wake ‹_›

/-- The state when a handler has run a statement and has others left. -/
abbrev ran (state : NetHandlers) (index : Nat) (statement : Statement)
    (handler : Handler) : NetHandlers :=
  { state with handlers := state.handlers.set index handler }.execute index
    statement

theorem getElem?_set_cases {handlers : List Handler} {index other : Nat}
    {new handler : Handler}
    (isHandler : (handlers.set index new)[other]? = some handler) :
    (other = index ∧ handler = new) ∨
      (other ≠ index ∧ handlers[other]? = some handler) := by
  by_cases same : index = other
  · subst same
    obtain ⟨_, rfl⟩ := List.getElem?_eq_some_iff.mp isHandler
    exact Or.inl ⟨rfl, List.getElem_set_self _⟩
  · rw [List.getElem?_set_ne same] at isHandler
    exact Or.inr ⟨Ne.symm same, isHandler⟩

theorem getElem?_concat_cases {handlers : List Handler} {other : Nat}
    {new handler : Handler}
    (isHandler : (handlers ++ [new])[other]? = some handler) :
    handlers[other]? = some handler ∨
      (other = handlers.length ∧ handler = new) := by
  by_cases isOld : other < handlers.length
  · rw [List.getElem?_append_left isOld] at isHandler
    exact Or.inl isHandler
  · obtain ⟨isShort, rfl⟩ := List.getElem?_eq_some_iff.mp isHandler
    rw [List.length_append, List.length_singleton] at isShort
    have isLast : other = handlers.length := by omega
    subst isLast
    exact Or.inr ⟨rfl, by simp⟩

/-- Where the handlers are after a statement: all of them are awake after a
notification, and a new one may be there. -/
theorem execute_handlers {state : NetHandlers} {index other : Nat}
    {statement : Statement} {handler : Handler}
    (isHandler : (state.execute index statement).handlers[other]? =
      some handler) :
    (∃ before, state.handlers[other]? = some before ∧
      handler = if statement = .notifyAll then before.wake else before) ∨
    (other = state.handlers.length ∧ handler = [.authenticate]) := by
  cases statement with
  | notifyAll =>
      simp only [execute, List.getElem?_map, Option.map_eq_some_iff]
        at isHandler
      obtain ⟨before, isBefore, rfl⟩ := isHandler
      exact Or.inl ⟨before, isBefore, rfl⟩
  | postAuthenticate =>
      obtain isOld | isNew := getElem?_concat_cases isHandler
      · exact Or.inl ⟨handler, isOld, rfl⟩
      · exact Or.inr isNew
  | _ => exact Or.inl ⟨handler, isHandler, rfl⟩

/-- What was a handler before a step of another one is it afterwards, awake
if all are woken. -/
theorem execute_getElem? {state : NetHandlers} {index other : Nat}
    {statement : Statement} {handler : Handler}
    (isHandler : state.handlers[other]? = some handler) :
    (state.execute index statement).handlers[other]? =
      some (if statement = .notifyAll then handler.wake else handler) := by
  cases statement with
  | notifyAll => simp [execute, isHandler]
  | postAuthenticate =>
      have isOld := (List.getElem?_eq_some_iff.mp isHandler).1
      simp [execute, List.getElem?_append_left isOld, isHandler]
  | _ => simpa [execute] using isHandler

theorem ran_self {state : NetHandlers} {index : Nat} {statement : Statement}
    {own new : Handler} (isOwn : state.handlers[index]? = some own) :
    (state.ran index statement new).handlers[index]? =
      some (if statement = .notifyAll then new.wake else new) := by
  have isIndex := (List.getElem?_eq_some_iff.mp isOwn).1
  exact execute_getElem? (List.getElem?_set_self isIndex)

theorem ran_other {state : NetHandlers} {index other : Nat}
    {statement : Statement} {new handler : Handler} (isOther : other ≠ index)
    (isHandler : state.handlers[other]? = some handler) :
    (state.ran index statement new).handlers[other]? =
      some (if statement = .notifyAll then handler.wake else handler) := by
  apply execute_getElem?
  rw [List.getElem?_set_ne isOther.symm]
  exact isHandler

/-- Where the handlers of the next state come from, if one runs a statement:
its own rest, the other handlers, and a new task. -/
theorem runHandler_cases {state : NetHandlers} {index other : Nat}
    {statement : Statement} {rest left handler : Handler}
    (isHandler : (state.ran index statement (left ++ rest)).handlers[other]? =
      some handler) :
    (∃ before, handler = (if statement = .notifyAll then before.wake
        else before) ∧
      ((other = index ∧ before = left ++ rest) ∨
        (other ≠ index ∧ state.handlers[other]? = some before))) ∨
    (other = state.handlers.length ∧ handler = [.authenticate]) := by
  obtain ⟨before, isBefore, handlerEq⟩ | ⟨isLast, handlerEq⟩ :=
    execute_handlers isHandler
  · exact Or.inl ⟨before, handlerEq, getElem?_set_cases isBefore⟩
  · rw [List.length_set] at isLast
    exact Or.inr ⟨isLast, handlerEq⟩

/-- A statement that assigns the status. -/
def assigned? : Statement → Option AuthStatus
  | .assignStatus status => some status
  | .authenticated => some .authenticatedCheckingPairing
  | _ => none

end NetHandlers

end ScorbitSdk
