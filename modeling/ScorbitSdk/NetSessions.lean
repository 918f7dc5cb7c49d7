import ScorbitSdk.GameStateImpl
import ScorbitSdk.JsonText
import ScorbitSdk.TransitionRuns
import ScorbitSdk.WorkerPool

/-!
# Game sessions of the network layer

The part of `Net` that keeps, publishes and uploads game sessions: the map of
sessions, the two one-shot timers, the closures on the thread pool, the commit
strand and the session strand.  A step is one critical section or one call on
the worker; between any two of them every other thread may run.

A strand runs its tasks one at a time, independently of the pool's threads.
Arming a timer discards its pending handler, and so does stopping it; a handler
whose timer has expired waits in the pool's queue and is out of reach.
-/

namespace ScorbitSdk

/-- `storedAt` counts the stores of game data made before this one; the program
does not keep it. -/
structure GameSession where
  sessionCounter : Nat := 0
  sessionUuid : String := ""
  gameData : GameData := {}
  history : GameHistory := []
  storedAt : Nat := 0

/-- Store data and append it to the history. -/
def GameSession.store (self : GameSession) (data : GameData)
    (storedAt : Nat) : GameSession :=
  { self with
    gameData := data, history := self.history ++ [data], storedAt := storedAt }

abbrev GameSessions := Finmap fun _ : Nat => GameSession

/-- `m_gameSessions[id]`: a session that is not there counts as a new one. -/
def GameSessions.entry (sessions : GameSessions) (id : Nat) : GameSession :=
  (sessions.lookup id).getD {}

namespace GameSessions

variable {sessions : GameSessions} {property : Nat → GameSession → Prop}

theorem forall_insert
    (all : ∀ id session, sessions.lookup id = some session →
      property id session)
    {newId : Nat} {newSession : GameSession} (new : property newId newSession) :
    ∀ id session, (sessions.insert newId newSession).lookup id = some session →
      property id session := by
  intro id session present
  rcases Finmap.lookup_insert_cases present with ⟨rfl, rfl⟩ | ⟨-, old⟩
  · exact new
  · exact all id session old

theorem forall_erase
    (all : ∀ id session, sessions.lookup id = some session →
      property id session) (oldId : Nat) :
    ∀ id session, (sessions.erase oldId).lookup id = some session →
      property id session := by
  intro id session present
  exact all id session (Finmap.lookup_of_erase present).2

theorem entry_of_lookup {id : Nat} {session : GameSession}
    (present : sessions.lookup id = some session) :
    sessions.entry id = session := by
  simp [entry, present]

/-- What holds of a new session and of every one that is there holds of the
session of any id. -/
theorem forall_entry
    (all : ∀ id session, sessions.lookup id = some session →
      property id session) {id : Nat} (new : property id {}) :
    property id (sessions.entry id) := by
  unfold entry
  cases present : sessions.lookup id with
  | none => exact new
  | some session => exact all id session present

end GameSessions

/-- The request that creates a session. -/
structure SessionPost where
  sessionId : Nat
  playerCount : Nat
  sequenceNumber : Nat
  useLobby : Bool

/-- The request that updates a session.  A session that is not active is
reported as settled and successfully completed; the log file, if any, is the
text of the history. -/
structure SessionPatch where
  sessionId : Nat
  flags : SessionFlags
  sessionUuid : String
  playerCount : Nat
  sequenceNumber : Nat
  isActive : Bool
  logFile : Option GameHistory

/-- The request that `createSessionUpdateTask` builds from a session. -/
def GameSession.patch (self : GameSession) (sessionId : Nat)
    (flags : SessionFlags) : SessionPatch where
  sessionId := sessionId
  flags := flags
  sessionUuid := self.sessionUuid
  playerCount := self.gameData.players.size
  sequenceNumber := self.sessionCounter
  isActive := self.gameData.isGameActive
  logFile := if flags.uploadHistoryLogs then some self.history else none

/-- A message on the machine's channel. -/
structure ScoreMessage where
  sessionId : Nat
  sessionUuid : String
  sequence : Nat
  data : GameData
  storedAt : Nat

inductive ConnectionState
  | disconnected
  | connecting
  | connected
  deriving DecidableEq

/-- What is left of a job on the thread pool. -/
inductive NetJob
  /-- The closure of `submitGameData`. -/
  | submitGameData (data : GameData) (flags : SessionFlags)
  /-- The closure after its critical section. -/
  | sendIfDue (data : GameData) (sessionCounterAfterUpdate : Nat)
      (flags : SessionFlags)
  | sessionUpdate (sessionId : Nat) (flags : SessionFlags)
  /-- `sessionUpdate` after it stopped its timer. -/
  | createSessionUpdate (sessionId : Nat) (flags : SessionFlags)
  /-- `createSessionUpdateTask` when there is no session uuid yet. -/
  | retrySessionUpdate (sessionId : Nat) (flags : SessionFlags)
  | postSessionUpdate (patch : SessionPatch)
  | sendLatestGameData (sessionId : Nat)

/-- What is left of the task of `sendLatestGameData` on the commit strand. -/
inductive CommitTask
  | stopTimer (sessionId : Nat)
  | checkClient (sessionId : Nat)
  | snapshot (sessionId : Nat)
  | checkConnected (sessionId : Nat) (session : GameSession)
  | count (sessionId : Nat) (session : GameSession)
  | publish (message : ScoreMessage)
  | startTimer (sessionId : Nat) (data : GameData)

inductive SessionTask
  | create (post : SessionPost)
  | update (patch : SessionPatch)

/-- A task of the session strand: before a request, after it, or about to call
`onCreated`. -/
inductive SessionRun
  | waiting (task : SessionTask) (attempt : Nat)
  | requested (task : SessionTask) (attempt : Nat)
  | created (sessionId : Nat)

/-- The task that the session strand is running. -/
def SessionRun.task? : SessionRun → Option SessionTask
  | waiting task _ => some task
  | requested task _ => some task
  | created _ => none

def SessionTask.sessionId : SessionTask → Nat
  | create post => post.sessionId
  | update patch => patch.sessionId

/-- What becomes of a request: no answer or an expired token, any other
failure, or success with the session uuid in the reply, if there is one. -/
inductive SessionReply
  | again
  | failure
  | success (sessionUuid : Option String)

def numRetries : Nat := 3

abbrev numOfThreads : Nat := 4

/-- The threads are numbered by literals. -/
instance : NeZero numOfThreads :=
  ⟨by decide⟩

/-- An erased session, with the updates the server has acknowledged by then. -/
structure ErasedSession where
  sessionId : Nat
  session : GameSession
  acknowledged : List SessionPatch

/-- The fields from `stores` on record what happened. -/
structure NetState where
  stop : Bool := false
  gameSessions : GameSessions := ∅
  centrifugo : Option ConnectionState := none
  gameDataTimer : Option Nat := none
  sessionUpdateTimer : Option (Nat × SessionFlags) := none
  pool : WorkerPool numOfThreads NetJob := {}
  commitQueue : List Nat := []
  commitRunning : Option CommitTask := none
  sessionQueue : List SessionTask := []
  sessionRunning : Option SessionRun := none
  /-- `sessionCreate` between its two critical sections. -/
  creating : Option (Nat × GameStartOrigin) := none
  stores : Nat := 0
  /-- The calls of `sessionUpdate` that no request has carried yet. -/
  updateCalls : List (Nat × SessionFlags) := []
  acknowledged : List SessionPatch := []
  erased : List ErasedSession := []
  published : List ScoreMessage := []
  /-- The sessions of the sends that have run. -/
  sent : List Nat := []

inductive NetAction
  /-- `sessionCreate` up to the end of its first critical section. -/
  | sessionCreate (data : GameData) (origin : GameStartOrigin)
  /-- The rest of `sessionCreate`. -/
  | createSessionCreateTask
  | submitGameData (data : GameData) (flags : SessionFlags)
  | setCentrifugo (client : Option ConnectionState)
  | setStop
  | takeJob (thread : Fin numOfThreads)
  | runJob (thread : Fin numOfThreads)
  | gameDataTimerExpires
  | sessionUpdateTimerExpires
  | takeCommitTask
  | runCommitTask
  | takeSessionTask
  | refuseSessionTask
  | requestSessionTask
  | replySessionTask (reply : SessionReply)
  | onCreated

/-- The request carries the flags of the call, other than the debounce mark. -/
def SessionFlags.Covers (carried called : SessionFlags) : Prop :=
  (called.uploadHistoryLogs = true → carried.uploadHistoryLogs = true) ∧
    (called.playersAdd = true → carried.playersAdd = true)

instance (carried called : SessionFlags) : Decidable (carried.Covers called) :=
  inferInstanceAs (Decidable (_ ∧ _))

namespace NetState

def sessionCreate (self : NetState) (data : GameData)
    (origin : GameStartOrigin) : Option NetState :=
  if self.creating.isSome then none
  else
    let session := (self.gameSessions.entry data.id).store data self.stores
    some { self with
      gameSessions := self.gameSessions.insert data.id session
      stores := self.stores + 1
      creating := some (data.id, origin) }

def createSessionCreateTask (self : NetState) : Option NetState :=
  self.creating.map fun (sessionId, origin) =>
    match self.gameSessions.lookup sessionId with
    | none => { self with creating := none }
    | some session =>
        let session :=
          { session with sessionCounter := session.sessionCounter + 1 }
        { self with
          gameSessions := self.gameSessions.insert sessionId session
          sessionQueue := self.sessionQueue ++
            [.create {
              sessionId := sessionId
              playerCount := session.gameData.players.size
              sequenceNumber := session.sessionCounter
              useLobby := origin == .fromLobby }]
          creating := none }

/-- The first data of a session and the last are sent right away. -/
def isSendDue (data : GameData) (sessionCounterAfterUpdate : Nat) : Bool :=
  !data.isGameActive || sessionCounterAfterUpdate == 1

/-- Whether an update waits for more players to join. -/
def isDebounceDue (flags : SessionFlags) : Bool :=
  !flags.uploadHistoryLogs && !flags.debounced && flags.playersAdd

/-- One step of a job on a thread of the pool. -/
def runJob (self : NetState) (thread : Fin numOfThreads) : NetJob → NetState
  | .submitGameData data flags =>
      let session := (self.gameSessions.entry data.id).store data self.stores
      { self with
        gameSessions := self.gameSessions.insert data.id session
        stores := self.stores + 1
        pool := self.pool.goOn thread
          (some (.sendIfDue data session.sessionCounter flags)) }
  | .sendIfDue data sessionCounterAfterUpdate flags =>
      { self with
        commitQueue :=
          if isSendDue data sessionCounterAfterUpdate then
            self.commitQueue ++ [data.id]
          else self.commitQueue
        pool := self.pool.goOn thread
          (if flags.isSet then some (.sessionUpdate data.id flags)
          else none) }
  | .sessionUpdate sessionId flags =>
      if self.stop then { self with pool := self.pool.goOn thread none }
      else
        { self with
          sessionUpdateTimer := none
          updateCalls := self.updateCalls ++ [(sessionId, flags)]
          pool := self.pool.goOn thread
            (some (.createSessionUpdate sessionId flags)) }
  | .createSessionUpdate sessionId flags =>
      if isDebounceDue flags then
        { self with
          sessionUpdateTimer := some (sessionId, { flags with debounced := true })
          pool := self.pool.goOn thread none }
      else
        match self.gameSessions.lookup sessionId with
        | none => { self with pool := self.pool.goOn thread none }
        | some session =>
            { self with
              pool := self.pool.goOn thread
                (if session.sessionUuid = "" then
                  some (.retrySessionUpdate sessionId flags)
                else some (.postSessionUpdate (session.patch sessionId flags))) }
  | .retrySessionUpdate sessionId flags =>
      { self with
        sessionUpdateTimer := some (sessionId, flags)
        pool := self.pool.goOn thread none }
  | .postSessionUpdate patch =>
      { self with
        sessionQueue := self.sessionQueue ++ [.update patch]
        pool := self.pool.goOn thread none }
  | .sendLatestGameData sessionId =>
      { self with
        commitQueue := self.commitQueue ++ [sessionId]
        pool := self.pool.goOn thread none }

/-- The commit task returns. -/
def finishSend (self : NetState) (sessionId : Nat) : NetState :=
  { self with commitRunning := none, sent := self.sent ++ [sessionId] }

/-- One step of the task on the commit strand.  There is none where the program
ends: when the client is gone while it is asked for its state or told to
publish, and when the text of the modes cannot be parsed. -/
def runCommitTask (self : NetState) : CommitTask → Option NetState
  | .stopTimer sessionId =>
      some { self with
        gameDataTimer := none, commitRunning := some (.checkClient sessionId) }
  | .checkClient sessionId =>
      if self.stop || self.centrifugo.isNone then
        some (self.finishSend sessionId)
      else some { self with commitRunning := some (.snapshot sessionId) }
  | .snapshot sessionId =>
      match self.gameSessions.lookup sessionId with
      | none => some (self.finishSend sessionId)
      | some session =>
          some { self with
            commitRunning := some (.checkConnected sessionId session) }
  | .checkConnected sessionId session =>
      self.centrifugo.map fun client =>
        { self with
          commitRunning :=
            if session.sessionUuid = "" ∨ client ≠ .connected then
              some (.startTimer sessionId session.gameData)
            else some (.count sessionId session) }
  | .count sessionId session =>
      match self.gameSessions.lookup sessionId with
      | none => some (self.finishSend sessionId)
      | some stored =>
          let stored :=
            { stored with sessionCounter := stored.sessionCounter + 1 }
          some { self with
            gameSessions := self.gameSessions.insert sessionId stored
            commitRunning := some (.publish {
              sessionId := sessionId
              sessionUuid := session.sessionUuid
              sequence := stored.sessionCounter
              data := session.gameData
              storedAt := session.storedAt }) }
  | .publish message =>
      if self.centrifugo.isNone ||
          (Json.parse message.data.modes.jsonStr).isNone then none
      else
        some { self with
          published := self.published ++ [message]
          commitRunning :=
            some (.startTimer message.sessionId message.data) }
  | .startTimer sessionId data =>
      if data.isGameActive then
        some ({ self with gameDataTimer := some sessionId }.finishSend
          sessionId)
      else some (self.finishSend sessionId)

/-- The reply to the update of a session: a session that is over is erased. -/
def updateAcknowledged (self : NetState) (patch : SessionPatch) : NetState :=
  let session := self.gameSessions.entry patch.sessionId
  let acknowledged := self.acknowledged ++ [patch]
  if session.gameData.isGameActive then
    { self with sessionRunning := none, acknowledged := acknowledged }
  else
    { self with
      gameSessions := self.gameSessions.erase patch.sessionId
      sessionRunning := none
      acknowledged := acknowledged
      erased := self.erased ++
        [{ sessionId := patch.sessionId
           session := session
           acknowledged := acknowledged }] }

/-- The reply to the creation of a session. -/
def createAcknowledged (self : NetState) (post : SessionPost)
    (sessionUuid : String) : NetState :=
  match self.gameSessions.lookup post.sessionId with
  | none => { self with sessionRunning := none }
  | some session =>
      { self with
        gameSessions := self.gameSessions.insert post.sessionId
          { session with sessionUuid := sessionUuid }
        sessionRunning :=
          if self.stop then none else some (.created post.sessionId) }

def replySessionTask (self : NetState) (task : SessionTask) (attempt : Nat) :
    SessionReply → NetState
  | .again =>
      { self with
        sessionRunning :=
          if attempt + 1 < numRetries then some (.waiting task (attempt + 1))
          else none }
  | .failure => { self with sessionRunning := none }
  | .success sessionUuid =>
      match task, sessionUuid with
      | .update patch, _ => self.updateAcknowledged patch
      | .create post, some sessionUuid =>
          self.createAcknowledged post sessionUuid
      | .create _, none => { self with sessionRunning := none }

/-- The calls of `sessionUpdate` that are still to be carried once the task's
request has been sent. -/
def callsAfter (calls : List (Nat × SessionFlags)) :
    SessionTask → List (Nat × SessionFlags)
  | .create _ => calls
  | .update patch =>
      calls.filter fun (sessionId, flags) =>
        ¬ (sessionId = patch.sessionId ∧ patch.flags.Covers flags)

def step (self : NetState) : NetAction → Option NetState
  | .sessionCreate data origin => self.sessionCreate data origin
  | .createSessionCreateTask => self.createSessionCreateTask
  | .submitGameData data flags =>
      some { self with pool := self.pool.post (.submitGameData data flags) }
  | .setCentrifugo client => some { self with centrifugo := client }
  | .setStop => some { self with stop := true }
  | .takeJob thread =>
      (self.pool.take thread).map fun pool => { self with pool := pool }
  | .runJob thread => (self.pool.threads thread).map (self.runJob thread)
  | .gameDataTimerExpires =>
      self.gameDataTimer.map fun sessionId =>
        { self with
          gameDataTimer := none
          pool := self.pool.post (.sendLatestGameData sessionId) }
  | .sessionUpdateTimerExpires =>
      self.sessionUpdateTimer.map fun (sessionId, flags) =>
        { self with
          sessionUpdateTimer := none
          pool := self.pool.post (.sessionUpdate sessionId flags) }
  | .takeCommitTask =>
      match self.commitRunning, self.commitQueue with
      | none, sessionId :: commitQueue =>
          some { self with
            commitQueue := commitQueue
            commitRunning := some (.stopTimer sessionId) }
      | _, _ => none
  | .runCommitTask => self.commitRunning.bind self.runCommitTask
  | .takeSessionTask =>
      match self.sessionRunning, self.sessionQueue with
      | none, task :: sessionQueue =>
          some { self with
            sessionQueue := sessionQueue
            sessionRunning := some (.waiting task 0) }
      | _, _ => none
  | .refuseSessionTask =>
      match self.sessionRunning with
      | some (.waiting _ _) => some { self with sessionRunning := none }
      | _ => none
  | .requestSessionTask =>
      match self.sessionRunning with
      | some (.waiting task attempt) =>
          some { self with
            sessionRunning := some (.requested task attempt)
            updateCalls := callsAfter self.updateCalls task }
      | _ => none
  | .replySessionTask reply =>
      match self.sessionRunning with
      | some (.requested task attempt) =>
          some (self.replySessionTask task attempt reply)
      | _ => none
  | .onCreated =>
      match self.sessionRunning with
      | some (.created _) => some { self with sessionRunning := none }
      | _ => none

end NetState

end ScorbitSdk
