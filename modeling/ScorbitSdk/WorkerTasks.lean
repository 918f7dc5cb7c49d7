import ScorbitSdk.NetSessions

/-!
# Requests on the threads of the worker

The part of `Net` and `Worker` that decides which thread waits for what.  All
requests to the server, and the authentication they depend on, run on the four
threads of the pool, and a request waits on its thread until the machine is
authenticated and its pairing is known.

What a request asks for and what most callbacks do with the reply is left out;
what they post can also be posted by a call, at any time.  The same goes for
the timers, other than the one that refreshes the token.
-/

namespace ScorbitSdk

inductive Error
  | success
  | authFailed
  | notPaired
  | apiError
  deriving DecidableEq

/-- What `parseScorbitronObject` reads in a reply that is JSON. -/
structure ScorbitronObject where
  shortCode : Option String
  isPaired : Bool

/-- The callbacks that change the status; `other` stands for the rest. -/
inductive RequestCallback
  | sendScorbitronObject
  | patchScorbitron
  | requestUnpair
  | requestPairMachine
  | other
  deriving DecidableEq

structure HttpRequest where
  allowedStatuses : List AuthStatus := [.authenticatedPaired]
  callback : RequestCallback := .other

namespace HttpRequest

def sendScorbitronObject : HttpRequest where
  allowedStatuses :=
    [.authenticatedCheckingPairing, .authenticatedUnpaired, .authenticatedPaired]
  callback := .sendScorbitronObject

def requestReleaseTrackInfo : HttpRequest where
  allowedStatuses := [.authenticatedUnpaired, .authenticatedPaired]

def getConfig : HttpRequest where
  allowedStatuses := [.authenticatedUnpaired, .authenticatedPaired]

def createNfcNonces : HttpRequest where
  allowedStatuses := [.authenticatedUnpaired, .authenticatedPaired]

def updateConfig : HttpRequest where
  allowedStatuses := [.authenticatedUnpaired, .authenticatedPaired]

def requestFirmwaresList : HttpRequest := {}

def requestMachineObject : HttpRequest := {}

def requestSessionData : HttpRequest := {}

def sessionCreate : HttpRequest := {}

def sessionUpdate : HttpRequest := {}

def uploadHistory : HttpRequest := {}

def uploadDiagnostics : HttpRequest := {}

def requestTopScores : HttpRequest := {}

def setCreditsDropped : HttpRequest := {}

def postDiagnosticAck : HttpRequest := {}

def patchScorbitron (allowedStatuses : List AuthStatus) : HttpRequest where
  allowedStatuses := allowedStatuses
  callback := .patchScorbitron

def setCapabilities : HttpRequest :=
  patchScorbitron [.authenticatedUnpaired, .authenticatedPaired]

def requestUnpair : HttpRequest where
  callback := .requestUnpair

def requestPairMachine : HttpRequest where
  allowedStatuses := [.authenticatedUnpaired, .authenticatedPaired]
  callback := .requestPairMachine

end HttpRequest

/-- How far the closure of `createAuthenticateTask` has come.  A normal
authentication, one that does not just refresh the token, holds the mutex
`m_authMutex` from its first write on. -/
inductive AuthStage
  | starting
  | locking
  /-- It sets `m_isRefreshingToken`. -/
  | settingFlag (normalAuthentication : Bool)
  | authenticating (normalAuthentication : Bool)
  /-- It has a token. -/
  | authenticated (normalAuthentication : Bool)
  | initializing
  /-- It has failed and stops the timer, then clears the flag. -/
  | stoppingTimer (normalAuthentication : Bool)
  | clearingFlag (normalAuthentication : Bool)
  deriving DecidableEq

def AuthStage.holdsAuthMutex : AuthStage → Bool
  | starting => false
  | locking => false
  | settingFlag normalAuthentication => normalAuthentication
  | authenticating normalAuthentication => normalAuthentication
  | authenticated normalAuthentication => normalAuthentication
  | initializing => true
  | stoppingTimer normalAuthentication => normalAuthentication
  | clearingFlag normalAuthentication => normalAuthentication

/-- How far an attempt of the closure of `createHttpRequestTask` has come. -/
inductive HttpStage
  | waiting
  | checking
  | refused
  | sending
  | unauthorized
  | stoppingTimer
  | clearingFlag
  | authenticating (stage : AuthStage)
  /-- The loop is over and the callback is to be called. -/
  | replied (error : Error) (reply : Option ScorbitronObject)
  /-- The callback has parsed the reply. -/
  | parsed (error : Error)

inductive WorkerTask
  | authenticate (stage : AuthStage)
  /-- The handler of the timer that refreshes the token. -/
  | refreshToken
  /-- The handler after it has set `m_isRefreshingToken`. -/
  | refreshTokenSet
  | request (request : HttpRequest) (attempt : Nat) (stage : HttpStage)
  | requestPairCode
  | requestTopScores
  | uploadDiagnostics
  | onPaired
  /-- `onPaired` after it has set the status. -/
  | onPairedStatus
  | onUnpaired
  /-- A closure that neither waits nor posts. -/
  | closure

inductive WorkerStrand
  | queue
  | session
  | heartbeat
  | centrifugo
  | events
  | commit
  deriving DecidableEq

/-- What is left of a job on the thread pool: a closure, or the closures that
were ready when their strand was posted. -/
structure WorkerJob where
  strand : Option WorkerStrand := none
  task : WorkerTask
  behind : List WorkerTask := []

structure WorkerPost where
  strand : Option WorkerStrand := none
  task : WorkerTask

def createHttpRequestTask (request : HttpRequest) : WorkerTask :=
  .request request 0 .waiting

/-- What the tasks read and write. -/
structure NetStatus where
  status : AuthStatus := .notAuthenticated
  isRefreshingToken : Bool := false
  /-- The timer that refreshes the token is armed. -/
  tokenRefreshTimer : Bool := false
  cachedShortCode : String := ""

/-- At first only the authentication is posted. -/
structure NetWorker where
  stop : Bool := false
  net : NetStatus := {}
  isNfcCapable : Bool
  /-- The provider is one of the two that have firmwares. -/
  hasFirmwares : Bool
  pool : WorkerPool numOfThreads WorkerJob :=
    { queue := [{ task := .authenticate .starting }] }
  /-- The strands that have a job in the pool. -/
  locked : WorkerStrand → Bool := fun _ => false
  /-- What has been posted to a strand since its job was posted. -/
  waiting : WorkerStrand → List WorkerTask := fun _ => []

/-- The reply to `authenticate`.  No request is made without a signer or a
signature; a token that expires too soon is not refreshed. -/
inductive AuthReply
  | token (expiresTooSoon : Bool)
  | noToken
  | noSigner
  | noSignature
  deriving DecidableEq

inductive HttpReply
  | ok (reply : Option ScorbitronObject)
  | noResponse
  | unauthorized
  | failed

/-- What a step of a task depends on: the server's replies, and whether a
closure finds something to send. -/
structure WorkerReply where
  auth : AuthReply := .noToken
  http : HttpReply := .failed
  goesOn : Bool := false

/-- What a step of a task does: it sets what the tasks share, posts tasks in
the given order, and leaves the rest of itself. -/
structure TaskOutcome (Left : Type) where
  net : NetStatus
  posts : List WorkerPost := []
  left : Option Left := none

namespace NetStatus

def isAuthenticated (net : NetStatus) : Bool :=
  net.status = .authenticatedPaired || net.status = .authenticatedUnpaired

def checkAllowedStatuses (net : NetStatus) (request : HttpRequest) : Bool :=
  net.status ∈ request.allowedStatuses

/-- A machine object is requested when the machine is paired. -/
def parseScorbitronObject (net : NetStatus) :
    Error → Option ScorbitronObject → NetStatus × List WorkerPost
  | .success, some object =>
      let cachedShortCode := object.shortCode.getD net.cachedShortCode
      if object.isPaired then
        ({ net with
            status := .authenticatedPaired, cachedShortCode := cachedShortCode },
          [{ task := createHttpRequestTask .requestMachineObject }])
      else
        ({ net with
            status := .authenticatedUnpaired
            cachedShortCode := cachedShortCode }, [])
  | _, _ => (net, [])

end NetStatus

namespace WorkerTask

/-- The stage of the authentication that the task is in. -/
def authStage? : WorkerTask → Option AuthStage
  | authenticate stage => some stage
  | request _ _ (.authenticating stage) => some stage
  | _ => none

def holdsAuthMutex (task : WorkerTask) : Bool :=
  task.authStage?.any AuthStage.holdsAuthMutex

/-- The loop goes on, or it ends with the error it began with. -/
def nextAttempt (request : HttpRequest) (attempt : Nat) : WorkerTask :=
  if attempt + 1 < numRetries then .request request (attempt + 1) .waiting
  else .request request attempt (.replied .apiError none)

end WorkerTask

namespace NetWorker

def requestFirmwaresList (state : NetWorker) : List WorkerPost :=
  if state.hasFirmwares then
    [{ strand := some .queue
       task := createHttpRequestTask .requestFirmwaresList }]
  else []

def createNfcNonces (state : NetWorker) : List WorkerPost :=
  if state.isNfcCapable then
    [{ task := createHttpRequestTask .createNfcNonces }]
  else []

/-- What follows the scorbitron object when a connection is initialized. -/
def requestConnectionState (state : NetWorker) : List WorkerPost :=
  [{ task := createHttpRequestTask .requestReleaseTrackInfo },
    { task := createHttpRequestTask .getConfig }] ++
    state.requestFirmwaresList ++ state.createNfcNonces

def initializeConnectionState (state : NetWorker) : List WorkerPost :=
  { task := createHttpRequestTask .sendScorbitronObject } ::
    state.requestConnectionState

def isAuthMutexFree (state : NetWorker) : Bool :=
  (List.finRange numOfThreads).all fun thread =>
    (state.pool.threads thread).all fun job => !job.task.holdsAuthMutex

/-- What a request waits for on `m_authCV`. -/
def canGoOn (state : NetWorker) (request : HttpRequest) : Bool :=
  state.net.isAuthenticated || state.net.status = .authenticationFailed ||
    state.stop || state.net.checkAllowedStatuses request

/-- One step of an authentication, or none while it waits for the mutex. -/
def createAuthenticateTask (state : NetWorker) (reply : AuthReply) :
    AuthStage → Option (TaskOutcome AuthStage)
  | .starting =>
      some {
        net := state.net
        left := some (if state.net.isRefreshingToken then .settingFlag false
          else .locking) }
  | .locking =>
      if !state.isAuthMutexFree then none
      else if state.net.status = .notAuthenticated then
        some {
          net := { state.net with status := .authenticating }
          left := some (.settingFlag true) }
      else some { net := state.net }
  | .settingFlag normalAuthentication =>
      some {
        net := { state.net with isRefreshingToken := true }
        left := some (.authenticating normalAuthentication) }
  | .authenticating normalAuthentication =>
      let failed := { state.net with status := .authenticationFailed }
      match reply with
      | .noSigner => some { net := failed }
      | .noSignature =>
          some {
            net := failed
            left := some (.stoppingTimer normalAuthentication) }
      | .noToken =>
          if state.stop then
            some {
              net := failed, left := some (.clearingFlag normalAuthentication) }
          else
            some {
              net := failed
              left := some (.stoppingTimer normalAuthentication) }
      | .token expiresTooSoon =>
          if state.stop then
            some {
              net := failed, left := some (.clearingFlag normalAuthentication) }
          else
            some {
              net := { state.net with
                tokenRefreshTimer :=
                  state.net.tokenRefreshTimer || !expiresTooSoon }
              left := some (.authenticated normalAuthentication) }
  | .authenticated normalAuthentication =>
      if normalAuthentication then
        some {
          net := { state.net with status := .authenticatedCheckingPairing }
          left := some .initializing }
      else
        some {
          net := state.net
          posts := [{ task := createHttpRequestTask .requestReleaseTrackInfo }] }
  | .initializing =>
      some { net := state.net, posts := state.initializeConnectionState }
  | .stoppingTimer normalAuthentication =>
      some {
        net := { state.net with tokenRefreshTimer := false }
        left := some (.clearingFlag normalAuthentication) }
  | .clearingFlag _ =>
      some { net := { state.net with isRefreshingToken := false } }

/-- The rest of a callback that has parsed the reply. -/
def runCallback (state : NetWorker) (error : Error) :
    RequestCallback → NetStatus × List WorkerPost
  | .requestUnpair =>
      if error = .success ∨ error = .notPaired then
        ({ state.net with status := .authenticatedUnpaired }, [])
      else (state.net, [])
  | .requestPairMachine =>
      if error = .success then (state.net, state.initializeConnectionState)
      else (state.net, [])
  | _ => (state.net, [])

/-- One step of a request, or none while it waits. -/
def runRequest (state : NetWorker) (reply : WorkerReply)
    (request : HttpRequest) (attempt : Nat) :
    HttpStage → Option (TaskOutcome WorkerTask)
  | .waiting =>
      if state.isAuthMutexFree && state.canGoOn request then
        some {
          net := state.net
          left := some (.request request attempt .checking) }
      else none
  | .checking =>
      some {
        net := state.net
        left := some (.request request attempt
          (if state.net.checkAllowedStatuses request then .sending
            else .refused)) }
  | .refused =>
      let error := if state.net.status = .authenticationFailed then
        Error.authFailed else Error.notPaired
      some {
        net := state.net
        left := some (.request request attempt (.replied error none)) }
  | .sending =>
      some {
        net := state.net
        left := some <| match reply.http with
          | .ok reply => .request request attempt (.replied .success reply)
          | .noResponse => WorkerTask.nextAttempt request attempt
          | .unauthorized => .request request attempt .unauthorized
          | .failed => .request request attempt (.replied .apiError none) }
  | .unauthorized =>
      if !state.isAuthMutexFree then none
      else if state.net.status = .notAuthenticated ∨
          state.net.status = .authenticating ∨
          state.net.status = .authenticationFailed then
        some {
          net := state.net
          left := some (WorkerTask.nextAttempt request attempt) }
      else
        some {
          net := { state.net with status := .notAuthenticated }
          left := some (.request request attempt .stoppingTimer) }
  | .stoppingTimer =>
      some {
        net := { state.net with tokenRefreshTimer := false }
        left := some (.request request attempt .clearingFlag) }
  | .clearingFlag =>
      some {
        net := { state.net with isRefreshingToken := false }
        left := some (.request request attempt (.authenticating .starting)) }
  | .authenticating stage =>
      (state.createAuthenticateTask reply.auth stage).map fun outcome =>
        { net := outcome.net
          posts := outcome.posts
          left := some <| match outcome.left with
            | some stage => .request request attempt (.authenticating stage)
            | none => WorkerTask.nextAttempt request attempt }
  | .replied error reply =>
      if request.callback = .other then some { net := state.net }
      else
        let (net, posts) := state.net.parseScorbitronObject error reply
        some {
          net := net
          posts := posts
          left := some (.request request attempt (.parsed error)) }
  | .parsed error =>
      let (net, posts) := state.runCallback error request.callback
      some { net := net, posts := posts }

/-- One step of a task, or none while it waits. -/
def runTask (state : NetWorker) (reply : WorkerReply) :
    WorkerTask → Option (TaskOutcome WorkerTask)
  | .authenticate stage =>
      (state.createAuthenticateTask reply.auth stage).map fun outcome =>
        { net := outcome.net
          posts := outcome.posts
          left := outcome.left.map .authenticate }
  | .refreshToken =>
      some {
        net := { state.net with isRefreshingToken := true }
        left := some .refreshTokenSet }
  | .refreshTokenSet =>
      some { net := state.net, posts := [{ task := .authenticate .starting }] }
  | .request request attempt stage =>
      state.runRequest reply request attempt stage
  | .requestPairCode =>
      if state.net.cachedShortCode ≠ "" ∨ state.stop = true then
        some { net := state.net }
      else none
  | .requestTopScores =>
      some {
        net := state.net
        left := if reply.goesOn ∧ state.net.status = .authenticatedPaired then
          some (createHttpRequestTask .requestTopScores) else none }
  | .uploadDiagnostics =>
      some {
        net := state.net
        left := if reply.goesOn then
          some (createHttpRequestTask .uploadDiagnostics) else none }
  | .onPaired =>
      some {
        net := { state.net with status := .authenticatedPaired }
        left := some .onPairedStatus }
  | .onPairedStatus =>
      -- the same requests as for a new connection, in the same order
      some { net := state.net, posts := state.initializeConnectionState }
  | .onUnpaired =>
      some { net := { state.net with status := .authenticatedUnpaired } }
  | .closure => some { net := state.net }

/-- A strand that has a job in the pool keeps what is posted to it. -/
def post (state : NetWorker) : WorkerPost → NetWorker
  | { strand := none, task } =>
      { state with pool := state.pool.post { task := task } }
  | { strand := some strand, task } =>
      if state.locked strand then
        { state with
          waiting := Function.update state.waiting strand
            (state.waiting strand ++ [task]) }
      else
        { state with
          locked := Function.update state.locked strand true
          pool := state.pool.post { strand := some strand, task := task } }

def postAll (state : NetWorker) (posts : List WorkerPost) : NetWorker :=
  posts.foldl post state

/-- The end of a strand's job: what was posted meanwhile is its next one. -/
def leaveStrand (state : NetWorker) : Option WorkerStrand → NetWorker
  | none => state
  | some strand =>
      match state.waiting strand with
      | [] =>
          { state with locked := Function.update state.locked strand false }
      | task :: behind =>
          { state with
            waiting := Function.update state.waiting strand []
            pool := state.pool.post
              { strand := some strand, task := task, behind := behind } }

/-- The thread goes on with what a task has left of itself, with the next task
of the job, or without a job. -/
def goOn (state : NetWorker) (thread : Fin numOfThreads) (job : WorkerJob) :
    Option WorkerTask → NetWorker
  | some task =>
      { state with
        pool := state.pool.goOn thread (some { job with task := task }) }
  | none =>
      match job.behind with
      | task :: behind =>
          { state with
            pool := state.pool.goOn thread
              (some { job with task := task, behind := behind }) }
      | [] =>
          { state with
            pool := state.pool.goOn thread none }.leaveStrand job.strand

def runJob (state : NetWorker) (thread : Fin numOfThreads) (job : WorkerJob)
    (reply : WorkerReply) : Option NetWorker :=
  (state.runTask reply job.task).map fun outcome =>
    ({ state with net := outcome.net }.postAll outcome.posts).goOn thread job
      outcome.left

end NetWorker

/-- The calls that post tasks.  Those from `createNfcNonces` on are made by
the callbacks, the sessions and the messages of the machine's channel. -/
inductive WorkerCall
  | setCreditsDropped
  | setCreditsStatus
  | submitGameData
  | sessionCreate
  | sessionUpdate
  | updateConfig
  | uploadDiagnostics
  | requestPairCode
  | requestTopScores
  | requestUnpair
  | requestPairMachine
  | setCapabilities
  | patchScorbitron (allowedStatuses : List AuthStatus)
  | download
  | createNfcNonces
  | requestReleaseTrackInfo
  | getConfig
  | uploadHistory
  | sendLatestGameData
  | requestSessionData
  | handleDiagnosticProbe
  | pushEvent
  | paired
  | unpaired

/-- The tasks that a call posts. -/
def WorkerCall.posts (state : NetWorker) : WorkerCall → List WorkerPost
  | setCreditsDropped => [{ task := createHttpRequestTask .setCreditsDropped }]
  | setCreditsStatus => [{ task := .closure }]
  | submitGameData => [{ task := .closure }]
  | sessionCreate =>
      [{ strand := some .session, task := createHttpRequestTask .sessionCreate }]
  | sessionUpdate =>
      [{ strand := some .session, task := createHttpRequestTask .sessionUpdate }]
  | updateConfig =>
      [{ strand := some .queue, task := createHttpRequestTask .updateConfig }]
  | uploadDiagnostics => [{ task := .uploadDiagnostics }]
  | requestPairCode =>
      if state.net.cachedShortCode = "" then
        [{ strand := some .queue, task := .requestPairCode }]
      else []
  | requestTopScores => [{ strand := some .queue, task := .requestTopScores }]
  | requestUnpair => [{ task := createHttpRequestTask .requestUnpair }]
  | requestPairMachine => [{ task := createHttpRequestTask .requestPairMachine }]
  | setCapabilities =>
      if state.net.isAuthenticated then
        [{ task := createHttpRequestTask .setCapabilities }]
      else []
  | patchScorbitron allowedStatuses =>
      [{ task := createHttpRequestTask (.patchScorbitron allowedStatuses) }]
  | download => [{ strand := some .queue, task := .closure }]
  | createNfcNonces => state.createNfcNonces
  | requestReleaseTrackInfo =>
      [{ task := createHttpRequestTask .requestReleaseTrackInfo }]
  | getConfig => [{ task := createHttpRequestTask .getConfig }]
  | uploadHistory =>
      [{ strand := some .queue, task := createHttpRequestTask .uploadHistory }]
  | sendLatestGameData => [{ strand := some .commit, task := .closure }]
  | requestSessionData =>
      [{ strand := some .session
         task := createHttpRequestTask .requestSessionData }]
  | handleDiagnosticProbe =>
      [{ task := .closure }, { task := createHttpRequestTask .postDiagnosticAck }]
  | pushEvent => [{ strand := some .events, task := .closure }]
  | paired => [{ strand := some .centrifugo, task := .onPaired }]
  | unpaired => [{ strand := some .centrifugo, task := .onUnpaired }]

inductive WorkerAction
  | call (call : WorkerCall)
  | setStop
  | tokenRefreshTimerExpires
  | takeJob (thread : Fin numOfThreads)
  | runJob (thread : Fin numOfThreads) (reply : WorkerReply)

namespace NetWorker

def step (state : NetWorker) : WorkerAction → Option NetWorker
  | .call call => some (state.postAll (call.posts state))
  | .setStop => some { state with stop := true }
  | .tokenRefreshTimerExpires =>
      -- from here on the timer cannot cancel its handler
      if state.net.tokenRefreshTimer then
        some ({ state with
          net := { state.net with tokenRefreshTimer := false } }.post
            { task := .refreshToken })
      else none
  | .takeJob thread =>
      (state.pool.take thread).map fun pool => { state with pool := pool }
  | .runJob thread reply =>
      (state.pool.threads thread).bind fun job =>
        state.runJob thread job reply

end NetWorker

end ScorbitSdk
