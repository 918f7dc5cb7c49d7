import ScorbitSdk.NetSessions
import Mathlib.Data.Fintype.Basic

/-!
# The end of the worker

`Worker::stop` cancels the timers and waits until the threads have run out of
handlers.  By then `m_stop` has been set and the event manager stopped, but
handlers that wait in the queue still run, and a thread may be anywhere in a
handler that looked at `m_stop` before.

A handler is what it does with the queue and the timers.  Whether a request is
sent and what is replied is left open; the strands, which only rule orders of
handlers out, are left out.
-/

namespace ScorbitSdk

inductive WorkerTimer
  | heartbeat
  | tokenRefresh
  | nfcCheckTag
  | gameData
  | sessionUpdate
  | centrifugoReconnect
  | nfcBootReason
  | modeExpiry
  | leaderboardDeferred
  deriving DecidableEq

instance : Fintype WorkerTimer where
  elems :=
    {.heartbeat, .tokenRefresh, .nfcCheckTag, .gameData, .sessionUpdate,
      .centrifugoReconnect, .nfcBootReason, .modeExpiry, .leaderboardDeferred}
  complete := by
    intro timer
    cases timer <;> decide

/-- The requests of `createHttpRequestTask`, by their callbacks. -/
inductive WorkerRequest
  | sendScorbitronObject
  | patchScorbitron
  | requestUnpair
  | requestPairMachine
  | getConfig
  | requestReleaseTrackInfo
  | requestFirmwaresList
  | requestMachineObject
  | requestSessionData
  | createNfcNonces
  | sessionCreate
  | sessionUpdate
  | updateConfig
  | setCreditsDropped
  | postDiagnosticAck
  | uploadHistory
  deriving DecidableEq

/-- The handlers of the worker, those of its timers first.  The handlers of the
centrifugo library are a type of their own. -/
inductive WorkerHandler (Client : Type)
  | heartbeat
  | tokenRefresh
  | nfcCheckTag
  | gameData
  | sessionUpdate
  | rebuildCentrifugo
  | setupCentrifugo
  | nfcBootReason
  | modeExpiry
  | leaderboardDeferred (deferAttempt : ℕ)
  /-- A wait that was cancelled. -/
  | aborted
  | authenticate
  | request (request : WorkerRequest)
  | submitGameData
  | sendLatestGameData
  | requestTopScores (deferAttempt : ℕ)
  | requestPairCode
  | setCreditsStatus
  | publishDiagnosticPacket
  | uploadDiagnostics
  | downloadFile
  | downloadBuffer
  | processEvents
  | client (handler : Client)
  deriving DecidableEq

inductive WorkerEffect (Client : Type)
  | post (handler : WorkerHandler Client)
  | startTimer (timer : WorkerTimer) (handler : WorkerHandler Client)
  | stopTimer (timer : WorkerTimer)
  deriving DecidableEq

/-- What a handler depends on.  `tokenStops` counts the calls of
`stopTokenRefreshTimer` where the server refuses the token or nothing is
signed, `nonces` is the number of nonces there are when one is consumed, and
`clientPosts` is what the library posts when it is called. -/
structure HandlerReply (Client : Type) where
  tokenStops : ℕ := 0
  success : Bool := false
  isPaired : Bool := false
  hasUpdaterLogs : Bool := false
  pictures : ℕ := 0
  nonces : Option ℕ := none
  isDeferred : Bool := false
  sendsLatest : Bool := false
  clientPosts : List Client := []
  clientChoice : ℕ := 0

/-- What does not change: whether the probes can do NFC, whether the provider
has firmwares, and what the library's handlers post. -/
structure WorkerMachine (Client : Type) where
  isNfcCapable : Bool
  hasFirmwares : Bool
  clientRuns : Client → ℕ → List Client

def topScoresDeferLimit : ℕ := 30

namespace WorkerMachine

variable {Client : Type} (machine : WorkerMachine Client)
  (reply : HandlerReply Client)

def createNfcNonces : List (WorkerEffect Client) :=
  if machine.isNfcCapable then [.post (.request .createNfcNonces)] else []

/-- `consumeNonce` of `setNfcTag`. -/
def consumeNonce : Option ℕ → List (WorkerEffect Client)
  | none => []
  | some nonces =>
      if nonces = 0 then machine.createNfcNonces
      else if nonces = 10 ∨ nonces ≤ 5 then machine.createNfcNonces
      else []

/-- The active client is disconnected, or a new one is set up and, as `m_stop`
is set, not connected. -/
def restartCentrifugo : List (WorkerEffect Client) :=
  .stopTimer .centrifugoReconnect ::
    reply.clientPosts.map fun handler => .post (.client handler)

def requestFirmwaresList : List (WorkerEffect Client) :=
  if machine.hasFirmwares then [.post (.request .requestFirmwaresList)] else []

/-- No heartbeat is sent, but its timer is started. -/
def initializeConnectionState : List (WorkerEffect Client) :=
  [.post (.request .sendScorbitronObject),
    .post (.request .requestReleaseTrackInfo), .post (.request .getConfig)] ++
    machine.requestFirmwaresList ++ [.startTimer .heartbeat .heartbeat] ++
    restartCentrifugo reply ++ machine.createNfcNonces

def parseScorbitronObject : List (WorkerEffect Client) :=
  if reply.isPaired then [.post (.request .requestMachineObject)] else []

def processScoresAndPlayersProfiles : List (WorkerEffect Client) :=
  List.replicate reply.pictures (.post .downloadBuffer)

/-- The callback of a request that succeeded. -/
def runCallback : WorkerRequest → List (WorkerEffect Client)
  | .sendScorbitronObject => parseScorbitronObject reply
  | .patchScorbitron => parseScorbitronObject reply
  | .requestUnpair => parseScorbitronObject reply
  | .requestPairMachine =>
      parseScorbitronObject reply ++ machine.initializeConnectionState reply
  | .requestReleaseTrackInfo =>
      if reply.hasUpdaterLogs then [.post (.request .updateConfig)] else []
  | .createNfcNonces => machine.consumeNonce reply.nonces
  | .requestSessionData => processScoresAndPlayersProfiles reply
  | .sessionCreate => processScoresAndPlayersProfiles reply
  | .sessionUpdate => processScoresAndPlayersProfiles reply
  | _ => []

/-- The attempts of a request or of an authentication.  Once `m_stop` is set
none succeeds in authenticating. -/
def stopTokenRefreshTimer : List (WorkerEffect Client) :=
  List.replicate reply.tokenStops (.stopTimer .tokenRefresh)

/-- What a handler does from its beginning, with `m_stop` set. -/
def effects : WorkerHandler Client → List (WorkerEffect Client)
  | .heartbeat => [.startTimer .heartbeat .heartbeat]
  | .tokenRefresh => [.post .authenticate]
  | .nfcCheckTag =>
      .startTimer .nfcCheckTag .nfcCheckTag :: machine.consumeNonce reply.nonces
  | .gameData => [.post .sendLatestGameData]
  | .sessionUpdate => []
  | .rebuildCentrifugo => []
  | .setupCentrifugo =>
      reply.clientPosts.map fun handler => .post (.client handler)
  | .nfcBootReason =>
      if machine.isNfcCapable then
        [.stopTimer .nfcBootReason, .startTimer .nfcBootReason .nfcBootReason]
      else []
  | .modeExpiry => []
  | .leaderboardDeferred deferAttempt =>
      [.post (.requestTopScores (deferAttempt + 1))]
  | .aborted => []
  | .authenticate => stopTokenRefreshTimer reply
  | .request request =>
      stopTokenRefreshTimer reply ++
        if reply.success then machine.runCallback reply request else []
  | .submitGameData =>
      if reply.sendsLatest then [.post .sendLatestGameData] else []
  | .sendLatestGameData => [.stopTimer .gameData]
  | .requestTopScores deferAttempt =>
      if !reply.isDeferred then stopTokenRefreshTimer reply
      else if deferAttempt ≥ topScoresDeferLimit then []
      else
        [.startTimer .leaderboardDeferred (.leaderboardDeferred deferAttempt)]
  | .requestPairCode => []
  | .setCreditsStatus => []
  | .publishDiagnosticPacket => []
  | .uploadDiagnostics => stopTokenRefreshTimer reply
  | .downloadFile => []
  | .downloadBuffer => []
  | .processEvents => []
  | .client handler =>
      (machine.clientRuns handler reply.clientChoice).map fun later =>
        .post (.client later)

end WorkerMachine

/-- `remaining` is what is left to do of the handlers that the threads run;
`none` is the thread that runs `Worker::stop`. -/
structure StoppingWorker (Client : Type) where
  armed : WorkerTimer → Option (WorkerHandler Client) := fun _ => none
  ready : List (WorkerHandler Client) := []
  remaining : Option (Fin numOfThreads) → List (WorkerEffect Client) :=
    fun _ => []

inductive StopAction (Client : Type)
  | timerExpires (timer : WorkerTimer)
  | takeHandler (thread : Fin numOfThreads) (index : ℕ)
      (reply : HandlerReply Client)
  | runEffect (thread : Option (Fin numOfThreads))

namespace StoppingWorker

variable {Client : Type}

/-- The handler of a wait that is cancelled runs too, with an error. -/
def cancel (worker : StoppingWorker Client) (timer : WorkerTimer) :
    StoppingWorker Client :=
  match worker.armed timer with
  | none => worker
  | some _ =>
      { worker with
        armed := Function.update worker.armed timer none
        ready := worker.ready ++ [.aborted] }

def runEffect (worker : StoppingWorker Client) :
    WorkerEffect Client → StoppingWorker Client
  | .post handler => { worker with ready := worker.ready ++ [handler] }
  | .startTimer timer handler =>
      let worker := worker.cancel timer
      { worker with armed := Function.update worker.armed timer (some handler) }
  | .stopTimer timer => worker.cancel timer

def step (machine : WorkerMachine Client) (worker : StoppingWorker Client) :
    StopAction Client → Option (StoppingWorker Client)
  | .timerExpires timer =>
      (worker.armed timer).map fun handler =>
        { worker with
          armed := Function.update worker.armed timer none
          ready := worker.ready ++ [handler] }
  | .takeHandler thread index reply =>
      if worker.remaining (some thread) ≠ [] then none
      else
        (worker.ready[index]?).map fun handler =>
          { worker with
            ready := worker.ready.eraseIdx index
            remaining := Function.update worker.remaining (some thread)
              (machine.effects reply handler) }
  | .runEffect thread =>
      match worker.remaining thread with
      | [] => none
      | effect :: rest =>
          some ({ worker with
            remaining := Function.update worker.remaining thread rest
              }.runEffect effect)

def stopAllTimers : List (WorkerEffect Client) :=
  [.stopTimer .heartbeat, .stopTimer .tokenRefresh, .stopTimer .nfcCheckTag,
    .stopTimer .gameData, .stopTimer .sessionUpdate,
    .stopTimer .centrifugoReconnect, .stopTimer .nfcBootReason,
    .stopTimer .modeExpiry, .stopTimer .leaderboardDeferred]

/-- `Worker::stop` begins, whatever the threads are at. -/
def stop (worker : StoppingWorker Client) : StoppingWorker Client :=
  { worker with
    remaining := Function.update worker.remaining none stopAllTimers }

/-- The threads have run out of handlers, and `join_all` returns. -/
def Joined (worker : StoppingWorker Client) : Prop :=
  worker.ready = [] ∧ (∀ timer, worker.armed timer = none) ∧
    ∀ thread, worker.remaining thread = []

section Steps

variable {machine : WorkerMachine Client} {worker next : StoppingWorker Client}

theorem step_timerExpires {timer : WorkerTimer} :
    step machine worker (.timerExpires timer) = some next ↔
      ∃ handler, worker.armed timer = some handler ∧
        { worker with
          armed := Function.update worker.armed timer none
          ready := worker.ready ++ [handler] } = next :=
  Option.map_eq_some_iff

theorem step_takeHandler {thread : Fin numOfThreads} {index : ℕ}
    {reply : HandlerReply Client} :
    step machine worker (.takeHandler thread index reply) = some next ↔
      worker.remaining (some thread) = [] ∧
        ∃ handler, worker.ready[index]? = some handler ∧
          { worker with
            ready := worker.ready.eraseIdx index
            remaining := Function.update worker.remaining (some thread)
              (machine.effects reply handler) } = next := by
  rw [step, Option.ite_none_left_eq_some, not_not, Option.map_eq_some_iff]

theorem step_runEffect {thread : Option (Fin numOfThreads)} :
    step machine worker (.runEffect thread) = some next ↔
      ∃ effect rest, worker.remaining thread = effect :: rest ∧
        { worker with
          remaining := Function.update worker.remaining thread rest
            }.runEffect effect = next := by
  rw [step]
  cases worker.remaining thread with
  | nil => simp
  | cons effect rest => simp

theorem joined_of_idle (idle : ∀ action, step machine worker action = none) :
    worker.Joined := by
  have free (thread : Option (Fin numOfThreads)) :
      worker.remaining thread = [] := by
    have stuck := idle (.runEffect thread)
    cases isRemaining : worker.remaining thread with
    | nil => rfl
    | cons effect rest =>
        rw [step_runEffect.mpr ⟨effect, rest, isRemaining, rfl⟩] at stuck
        exact nomatch stuck
  refine ⟨?_, ?_, free⟩
  · have stuck := idle (.takeHandler 0 0 {})
    cases isReady : worker.ready with
    | nil => rfl
    | cons handler handlers =>
        have found : worker.ready[0]? = some handler := by rw [isReady]; rfl
        rw [step_takeHandler.mpr ⟨free _, handler, found, rfl⟩] at stuck
        exact nomatch stuck
  · intro timer
    have stuck := idle (.timerExpires timer)
    cases isArmed : worker.armed timer with
    | none => rfl
    | some handler =>
        rw [step_timerExpires.mpr ⟨handler, isArmed, rfl⟩] at stuck
        exact nomatch stuck

end Steps

end StoppingWorker

/-- The handlers that start themselves again, whether `m_stop` is set or not. -/
def WorkerHandler.Rearms {Client : Type} (machine : WorkerMachine Client)
    (reply : HandlerReply Client) : WorkerHandler Client → Prop
  | heartbeat => True
  | nfcCheckTag => True
  | nfcBootReason => machine.isNfcCapable = true
  | request .createNfcNonces =>
      machine.isNfcCapable = true ∧ reply.success = true ∧
        ∃ nonces, reply.nonces = some nonces ∧ (nonces = 10 ∨ nonces ≤ 5)
  | _ => False

/-- The handler that a thread takes starts itself again. -/
def StoppingWorker.Rearms {Client : Type} (machine : WorkerMachine Client)
    (worker : StoppingWorker Client) : StopAction Client → Prop
  | .takeHandler _ index reply =>
      ∃ handler, worker.ready[index]? = some handler ∧
        handler.Rearms machine reply
  | _ => False

end ScorbitSdk
