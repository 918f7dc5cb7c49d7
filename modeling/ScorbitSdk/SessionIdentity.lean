import ScorbitSdk.PublishedOrder
import ScorbitSdk.SessionErasure

/-!
# One uuid and one history for a session

Closures of a session run on several threads, its updates may overtake one
another, and a session that was erased may be stored anew.  Whatever the order,
everything that goes to the server for one session names the uuid with which the
server answered its creation, and each log is a first part of one history.
-/

namespace ScorbitSdk

/-- What the server knows of sessions: the uuid it gave each, and the history of
which it may have been sent a part. -/
structure ServerView where
  uuids : Nat → Option String := fun _ => none
  histories : Nat → GameHistory := fun _ => []

namespace ServerView

/-- The uuid is the session's, and the log a first part of its history. -/
def KnowsPatch (self : ServerView) (patch : SessionPatch) : Prop :=
  self.uuids patch.sessionId = some patch.sessionUuid ∧
    ∀ log, patch.logFile = some log → log <+: self.histories patch.sessionId

def KnowsMessage (self : ServerView) (message : ScoreMessage) : Prop :=
  self.uuids message.sessionId = some message.sessionUuid

/-- A session that has been created is the one the server knows. -/
def KnowsSession (self : ServerView) (sessionId : Nat) (session : GameSession) :
    Prop :=
  session.sessionUuid ≠ "" →
    self.uuids sessionId = some session.sessionUuid ∧
      session.history = self.histories sessionId

/-- What the commit strand has read is known; only the uuid goes out. -/
def KnowsCommit (self : ServerView) : CommitTask → Prop
  | .checkConnected sessionId session =>
      session.sessionUuid ≠ "" →
        self.uuids sessionId = some session.sessionUuid
  | .count sessionId session =>
      self.uuids sessionId = some session.sessionUuid
  | .publish message => self.KnowsMessage message
  | _ => True

/-- Nothing that is known is forgotten. -/
structure Extends (later earlier : ServerView) : Prop where
  uuids : ∀ id uuid, earlier.uuids id = some uuid → later.uuids id = some uuid
  histories : ∀ id, earlier.histories id <+: later.histories id

variable {view later : ServerView}

theorem Extends.refl : view.Extends view :=
  ⟨fun _ _ same => same, fun _ => List.prefix_rfl⟩

theorem KnowsPatch.mono {patch : SessionPatch} (knows : view.KnowsPatch patch)
    (extended : later.Extends view) : later.KnowsPatch patch :=
  ⟨extended.uuids _ _ knows.1,
    fun log isLog => (knows.2 log isLog).trans (extended.histories _)⟩

theorem KnowsMessage.mono {message : ScoreMessage}
    (knows : view.KnowsMessage message) (extended : later.Extends view) :
    later.KnowsMessage message :=
  extended.uuids _ _ knows

theorem KnowsCommit.mono {task : CommitTask} (knows : view.KnowsCommit task)
    (extended : later.Extends view) : later.KnowsCommit task := by
  cases task with
  | checkConnected sessionId session =>
      exact fun ready => extended.uuids _ _ (knows ready)
  | count sessionId session => exact extended.uuids _ _ knows
  | publish message => exact extended.uuids _ _ knows
  | _ => trivial

/-- The server knows a session by a uuid, and what there is of its history. -/
def learn (self : ServerView) (sessionId : Nat) (sessionUuid : String)
    (history : GameHistory) : ServerView where
  uuids := Function.update self.uuids sessionId (some sessionUuid)
  histories := Function.update self.histories sessionId history

section Learn

variable {sessionId id : Nat} {sessionUuid : String} {history : GameHistory}

@[simp]
theorem learn_uuids_self :
    (view.learn sessionId sessionUuid history).uuids sessionId =
      some sessionUuid :=
  Function.update_self ..

@[simp]
theorem learn_histories_self :
    (view.learn sessionId sessionUuid history).histories sessionId = history :=
  Function.update_self ..

theorem learn_uuids_of_ne (different : id ≠ sessionId) :
    (view.learn sessionId sessionUuid history).uuids id = view.uuids id :=
  Function.update_of_ne different ..

theorem learn_histories_of_ne (different : id ≠ sessionId) :
    (view.learn sessionId sessionUuid history).histories id =
      view.histories id :=
  Function.update_of_ne different ..

theorem learn_extends
    (sameUuid : ∀ uuid, view.uuids sessionId = some uuid → uuid = sessionUuid)
    (longer : view.histories sessionId <+: history) :
    (view.learn sessionId sessionUuid history).Extends view where
  uuids id uuid known := by
    by_cases same : id = sessionId
    · subst same
      rw [learn_uuids_self, sameUuid uuid known]
    · rw [learn_uuids_of_ne same, known]
  histories id := by
    by_cases same : id = sessionId
    · subst same
      rw [learn_histories_self]
      exact longer
    · rw [learn_histories_of_ne same]

end Learn

end ServerView

namespace NetState

/-- Every update that is on its way to the server, or that the server has
acknowledged, has the property. -/
structure Updates (state : NetState) (property : SessionPatch → Prop) :
    Prop where
  jobs : ∀ patch, NetJob.postSessionUpdate patch ∈ state.pool → property patch
  queued : ∀ patch, SessionTask.update patch ∈ state.sessionQueue →
    property patch
  running : ∀ patch,
    state.sessionRunning.bind SessionRun.task? = some (.update patch) →
      property patch
  acknowledged : ∀ patch ∈ state.acknowledged, property patch

variable {state next : NetState} {action : NetAction}
  {property : SessionPatch → Prop}

theorem Updates.mono {stronger : SessionPatch → Prop}
    (updates : state.Updates stronger)
    (weakened : ∀ patch, stronger patch → property patch) :
    state.Updates property where
  jobs patch member := weakened patch (updates.jobs patch member)
  queued patch member := weakened patch (updates.queued patch member)
  running patch isTask := weakened patch (updates.running patch isTask)
  acknowledged patch member := weakened patch (updates.acknowledged patch member)

/-- A thread goes on with a job that is no update. -/
theorem Updates.goOn (updates : state.Updates property)
    {thread : Fin numOfThreads} {rest : Option NetJob}
    (other : ∀ patch, rest ≠ some (.postSessionUpdate patch)) :
    ∀ patch, NetJob.postSessionUpdate patch ∈ state.pool.goOn thread rest →
      property patch :=
  fun patch member =>
    updates.jobs patch (WorkerPool.mem_of_mem_goOn (other patch) member)

/-- Updates are built from sessions that the server has created, and go on as
they are. -/
theorem Updates.step (updates : state.Updates property)
    (taken : Step state action next)
    (built : ∀ sessionId flags session,
      state.gameSessions.lookup sessionId = some session →
        session.sessionUuid ≠ "" → property (session.patch sessionId flags)) :
    next.Updates property := by
  have idle : ∀ patch,
      (none : Option SessionRun).bind SessionRun.task? = some (.update patch) →
        property patch := fun _ impossible => by cases impossible
  cases taken with
  | submitGameData =>
      exact { updates with
        jobs := fun patch member => updates.jobs patch (by simpa using member) }
  | takeJob taken =>
      exact { updates with
        jobs := fun patch member =>
          updates.jobs patch ((WorkerPool.mem_take taken).mp member) }
  | gameDataTimerExpires armed =>
      exact { updates with
        jobs := fun patch member => updates.jobs patch (by simpa using member) }
  | sessionUpdateTimerExpires armed =>
      exact { updates with
        jobs := fun patch member => updates.jobs patch (by simpa using member) }
  | store running =>
      exact { updates with jobs := updates.goOn (fun _ => nofun) }
  | sendIfDue running =>
      exact { updates with
        jobs := updates.goOn (fun _ => by split <;> nofun) }
  | updateStopped running stopped =>
      exact { updates with jobs := updates.goOn (fun _ => nofun) }
  | update running notStopped =>
      exact { updates with jobs := updates.goOn (fun _ => nofun) }
  | debounce running due =>
      exact { updates with jobs := updates.goOn (fun _ => nofun) }
  | updateGone running notDue absent =>
      exact { updates with jobs := updates.goOn (fun _ => nofun) }
  | updateNotReady running notDue present notReady =>
      exact { updates with jobs := updates.goOn (fun _ => nofun) }
  | updateBuilt running notDue present ready =>
      refine { updates with jobs := fun patch member => ?_ }
      rcases WorkerPool.mem_goOn.mp member with isBuilt | elsewhere
      · cases isBuilt
        exact built _ _ _ present ready
      · exact updates.jobs patch elsewhere.mem
  | retry running =>
      exact { updates with jobs := updates.goOn (fun _ => nofun) }
  | postUpdate running =>
      refine { updates with
        jobs := updates.goOn (fun _ => nofun)
        queued := fun patch member => ?_ }
      rcases List.mem_append.mp member with old | new
      · exact updates.queued patch old
      · cases List.mem_singleton.mp new
        exact updates.jobs _ (WorkerPool.mem_of_thread running)
  | postSend running =>
      exact { updates with jobs := updates.goOn (fun _ => nofun) }
  | createPosted creating present posted =>
      exact { updates with
        queued := fun patch member => updates.queued patch (by simpa using member) }
  | takeSessionTask isIdle queued =>
      have all := queued ▸ updates.queued
      exact { updates with
        queued := fun patch member => all patch (List.mem_cons_of_mem _ member)
        running := fun patch isTask => by
          cases isTask
          exact all patch List.mem_cons_self }
  | request running =>
      have same := updates.running
      rw [running] at same
      exact { updates with running := same }
  | again running =>
      have same := updates.running
      rw [running] at same
      exact { updates with running := same }
  | refuse running => exact { updates with running := idle }
  | giveUp running noUpdate => exact { updates with running := idle }
  | updateKept running active =>
      have own := updates.running _ (by rw [running]; rfl)
      exact { updates with
        running := idle
        acknowledged := List.forall_mem_append.mpr
          ⟨updates.acknowledged, List.forall_mem_singleton.mpr own⟩ }
  | updateErased running inactive =>
      have own := updates.running _ (by rw [running]; rfl)
      exact { updates with
        running := idle
        acknowledged := List.forall_mem_append.mpr
          ⟨updates.acknowledged, List.forall_mem_singleton.mpr own⟩ }
  | created running present =>
      refine { updates with running := fun patch isTask => ?_ }
      split at isTask <;> cases isTask
  | onCreated running => exact { updates with running := idle }
  | _ => exact { updates with }

/-- Everything that goes out is what the server knows. -/
structure Identified (state : NetState) (view : ServerView) : Prop where
  sessions : ∀ id session, state.gameSessions.lookup id = some session →
    view.KnowsSession id session
  updates : state.Updates view.KnowsPatch
  commit : ∀ task, state.commitRunning = some task → view.KnowsCommit task
  published : ∀ message ∈ state.published, view.KnowsMessage message
  nothing : ∀ id, view.uuids id = none → view.histories id = []

/-- The server answers the creation of the session with the uuid. -/
def AnswersWith (state : NetState) (action : NetAction) (sessionId : Nat)
    (sessionUuid : String) : Prop :=
  ∃ post attempt,
    state.sessionRunning = some (.requested (.create post) attempt) ∧
      post.sessionId = sessionId ∧
      action = .replySessionTask (.success (some sessionUuid))

/-- What the server learns in a step: the uuid with which it answers the oldest
creation, and what is stored of a session. -/
structure Learns (state : NetState) (action : NetAction) (next : NetState)
    (view later : ServerView) : Prop where
  extended : later.Extends view
  uuids : ∀ id uuid, later.uuids id = some uuid → view.uuids id = some uuid ∨
    (state.AnswersWith action id uuid ∧ state.creates = id :: next.creates)
  histories : ∀ id, later.histories id = view.histories id ∨
    ∃ session, next.gameSessions.lookup id = some session ∧
      later.histories id = session.history

variable {view later : ServerView}

theorem Learns.refl : Learns state action next view view where
  extended := ServerView.Extends.refl
  uuids := fun _ _ known => Or.inl known
  histories := fun _ => Or.inl rfl

/-- The session of an id and those of the others, once one is changed. -/
theorem Identified.sessions_learn (identified : state.Identified view)
    {sessionId : Nat} {changed : GameSession} :
    ∀ id session,
      (state.gameSessions.insert sessionId changed).lookup id = some session →
        (view.learn sessionId changed.sessionUuid changed.history).KnowsSession
          id session := by
  intro id session present ready
  rcases Finmap.lookup_insert_cases present with ⟨rfl, rfl⟩ | ⟨different, old⟩
  · exact ⟨ServerView.learn_uuids_self, ServerView.learn_histories_self.symm⟩
  · rw [ServerView.learn_uuids_of_ne different,
      ServerView.learn_histories_of_ne different]
    exact identified.sessions id session old ready

/-- A session whose data, counter or uuid changes, once the server has learned
what is to be known of it. -/
theorem Identified.insert (identified : state.Identified view)
    {sessionId : Nat} {changed : GameSession}
    (sameSessions : next.gameSessions =
      state.gameSessions.insert sessionId changed)
    (sameUuid : ∀ uuid, view.uuids sessionId = some uuid →
      uuid = changed.sessionUuid)
    (longer : view.histories sessionId <+: changed.history)
    (answered : ∀ uuid, changed.sessionUuid = uuid →
      view.uuids sessionId = some uuid ∨
        (state.AnswersWith action sessionId uuid ∧
          state.creates = sessionId :: next.creates)) :
    ∃ later, Learns state action next view later ∧
      (∀ id session, next.gameSessions.lookup id = some session →
        later.KnowsSession id session) ∧
      ∀ id, later.uuids id = none → later.histories id = [] := by
  have extended := ServerView.learn_extends sameUuid longer
  refine ⟨_, ⟨extended, ?_, ?_⟩, ?_, ?_⟩
  · intro id uuid known
    by_cases same : id = sessionId
    · subst same
      rw [ServerView.learn_uuids_self] at known
      exact answered uuid (Option.some.inj known)
    · rw [ServerView.learn_uuids_of_ne same] at known
      exact Or.inl known
  · intro id
    by_cases same : id = sessionId
    · subst same
      rw [ServerView.learn_histories_self, sameSessions]
      exact Or.inr ⟨changed, Finmap.lookup_insert _, rfl⟩
    · exact Or.inl (ServerView.learn_histories_of_ne same)
  · rw [sameSessions]
    exact identified.sessions_learn
  · intro id unknown
    by_cases same : id = sessionId
    · subst same
      rw [ServerView.learn_uuids_self] at unknown
      cases unknown
    · rw [ServerView.learn_uuids_of_ne same] at unknown
      rw [ServerView.learn_histories_of_ne same]
      exact identified.nothing id unknown

/-- A session that keeps its uuid, or gets it from the server, and whose history
goes on. -/
theorem Identified.change (identified : state.Identified view)
    {sessionId : Nat} {session changed : GameSession}
    (entry : state.gameSessions.entry sessionId = session)
    (sameSessions : next.gameSessions =
      state.gameSessions.insert sessionId changed)
    (sameUuid : changed.sessionUuid = session.sessionUuid)
    (longer : session.history <+: changed.history) :
    ∃ later, Learns state action next view later ∧
      (∀ id session, next.gameSessions.lookup id = some session →
        later.KnowsSession id session) ∧
      ∀ id, later.uuids id = none → later.histories id = [] := by
  subst entry
  by_cases ready : changed.sessionUuid = ""
  · refine ⟨view, Learns.refl, ?_, identified.nothing⟩
    rw [sameSessions]
    exact GameSessions.forall_insert identified.sessions (absurd ready)
  · have knows : view.KnowsSession sessionId
        (state.gameSessions.entry sessionId) :=
      GameSessions.forall_entry identified.sessions (absurd rfl)
    obtain ⟨known, history⟩ := knows (sameUuid ▸ ready)
    rw [← sameUuid] at known
    refine identified.insert sameSessions ?_ (history ▸ longer) ?_
    · intro uuid other
      exact Option.some.inj (other.symm.trans known)
    · intro uuid same
      exact Or.inl (same ▸ known)

/-- The answer to a creation is the first thing the server says of a session. -/
theorem Identified.answered (identified : state.Identified view)
    {sessionId : Nat} {changed : GameSession}
    (sameSessions : next.gameSessions =
      state.gameSessions.insert sessionId changed)
    (unknown : view.uuids sessionId = none)
    (answers : state.AnswersWith action sessionId changed.sessionUuid)
    (oldest : state.creates = sessionId :: next.creates) :
    ∃ later, Learns state action next view later ∧
      (∀ id session, next.gameSessions.lookup id = some session →
        later.KnowsSession id session) ∧
      ∀ id, later.uuids id = none → later.histories id = [] := by
  refine identified.insert sameSessions ?_ ?_ ?_
  · intro uuid known
    rw [unknown] at known
    cases known
  · rw [identified.nothing sessionId unknown]
    exact List.nil_prefix
  · rintro uuid rfl
    exact Or.inr ⟨answers, oldest⟩

/-- Once the sessions are known, everything that goes out is. -/
theorem Identified.of_learns (identified : state.Identified view)
    (taken : Step state action next)
    (learned : Learns state action next view later)
    (sessions : ∀ id session, next.gameSessions.lookup id = some session →
      later.KnowsSession id session)
    (nothing : ∀ id, later.uuids id = none → later.histories id = [])
    (built : ∀ sessionId flags session,
      state.gameSessions.lookup sessionId = some session →
        session.sessionUuid ≠ "" →
          view.KnowsPatch (session.patch sessionId flags)) :
    next.Identified later := by
  have commit : ∀ task, state.commitRunning = some task →
      later.KnowsCommit task :=
    fun task running => (identified.commit task running).mono learned.extended
  have published : ∀ message ∈ state.published, later.KnowsMessage message :=
    fun message member =>
      (identified.published message member).mono learned.extended
  have updates : next.Updates later.KnowsPatch :=
    (identified.updates.mono fun _ knows => knows.mono learned.extended).step
      taken fun sessionId flags session present ready =>
        (built sessionId flags session present ready).mono learned.extended
  have idle : ∀ task, (none : Option CommitTask) = some task →
      later.KnowsCommit task := fun _ impossible => by cases impossible
  have rest : (∀ task, next.commitRunning = some task →
        later.KnowsCommit task) ∧
      ∀ message ∈ next.published, later.KnowsMessage message := by
    cases taken with
    | takeCommitTask commitIdle queued =>
        exact ⟨fun _ isTask => by cases isTask; trivial, published⟩
    | sendStarts running =>
        exact ⟨fun _ isTask => by cases isTask; trivial, published⟩
    | sendQuits running noClient => exact ⟨idle, published⟩
    | sendGoesOn running notStopped client =>
        exact ⟨fun _ isTask => by cases isTask; trivial, published⟩
    | snapshotGone running absent => exact ⟨idle, published⟩
    | snapshot running present =>
        refine ⟨fun _ isTask => ?_, published⟩
        cases isTask
        exact fun ready => learned.extended.uuids _ _
          (identified.sessions _ _ present ready).1
    | sendSkips running =>
        exact ⟨fun _ isTask => by cases isTask; trivial, published⟩
    | sendConnected running ready =>
        refine ⟨fun _ isTask => ?_, published⟩
        cases isTask
        exact commit _ running ready
    | countGone running absent => exact ⟨idle, published⟩
    | count running present =>
        refine ⟨fun _ isTask => ?_, published⟩
        have knows := commit _ running
        cases isTask
        exact knows
    | publish running =>
        exact ⟨fun _ isTask => by cases isTask; trivial,
          List.forall_mem_append.mpr ⟨published,
            List.forall_mem_singleton.mpr (commit _ running)⟩⟩
    | rearm running active => exact ⟨idle, published⟩
    | lastSend running inactive => exact ⟨idle, published⟩
    | _ => exact ⟨commit, published⟩
  exact ⟨sessions, updates, rest.1, rest.2, nothing⟩

/-- An update of a session that is there says what the server knows. -/
theorem Identified.knows_patch (identified : state.Identified view)
    {sessionId : Nat} {session : GameSession}
    (present : state.gameSessions.lookup sessionId = some session)
    (ready : session.sessionUuid ≠ "") (flags : SessionFlags) :
    view.KnowsPatch (session.patch sessionId flags) := by
  obtain ⟨known, history⟩ := identified.sessions _ _ present ready
  refine ⟨known, fun log isLog => ?_⟩
  simp only [GameSession.patch, Option.ite_none_right_eq_some,
    Option.some.injEq] at isLog
  obtain ⟨-, rfl⟩ := isLog
  exact history ▸ List.prefix_rfl

theorem Identified.step (identified : state.Identified view)
    (unanswered : ∀ id ∈ state.creates, view.uuids id = none)
    (taken : Step state action next) :
    ∃ later, Learns state action next view later ∧ next.Identified later := by
  have sessions : ∃ later, Learns state action next view later ∧
      (∀ id session, next.gameSessions.lookup id = some session →
        later.KnowsSession id session) ∧
      ∀ id, later.uuids id = none → later.histories id = [] := by
    cases taken with
    | sessionCreate idle =>
        exact identified.change rfl rfl rfl (List.prefix_append _ _)
    | store running =>
        exact identified.change rfl rfl rfl (List.prefix_append _ _)
    | createPosted creating present posted =>
        exact identified.change (GameSessions.entry_of_lookup present) rfl rfl
          List.prefix_rfl
    | count running present =>
        exact identified.change (GameSessions.entry_of_lookup present) rfl rfl
          List.prefix_rfl
    | updateErased running inactive =>
        exact ⟨view, Learns.refl,
          GameSessions.forall_erase identified.sessions _, identified.nothing⟩
    | created running present =>
        rename_i post attempt session sessionUuid
        have isOldest : post.sessionId ∈ state.creates := by
          simp [creates, running, SessionRun.task?, SessionTask.create?]
        refine identified.answered rfl (unanswered _ isOldest)
          ⟨post, attempt, running, rfl, rfl⟩ ?_
        simp only [creates, running, SessionRun.task?, SessionTask.create?,
          Option.bind_some, Option.toList_some, List.cons_append]
        split <;> rfl
    | _ => exact ⟨view, Learns.refl, identified.sessions, identified.nothing⟩
  obtain ⟨later, learned, known, nothing⟩ := sessions
  exact ⟨later, learned, identified.of_learns taken learned known nothing
    fun sessionId flags session present ready =>
      identified.knows_patch present ready flags⟩

/-- The rows are rows of the session that have been handed over. -/
def OwnRows (rows : List GameData) (sessionId : Nat) (history : GameHistory) :
    Prop :=
  ∀ row ∈ history, row ∈ rows ∧ row.id = sessionId

/-- A session stores its own rows. -/
theorem Step.ownRows {rows : List GameData} {created : List Nat}
    (taken : Step state action next) (sourced : state.Sourced rows created)
    (input : action.Sourced rows created)
    (own : ∀ id session, state.gameSessions.lookup id = some session →
      OwnRows rows id session.history) :
    ∀ id session, next.gameSessions.lookup id = some session →
      OwnRows rows id session.history := by
  rcases taken.gameSessions_cases with
    ⟨sessionsEq, -⟩ | ⟨data, sessionsEq, -, source⟩ |
      ⟨id, session, changed, present, sessionsEq, -, historyEq, -⟩ |
      ⟨patch, attempt, sessionUuid, -, -, -, sessionsEq, -⟩
  · exact sessionsEq ▸ own
  · have member : data ∈ rows := by
      rcases source with ⟨origin, rfl⟩ | ⟨thread, flags, -, running⟩
      · exact input.1
      · exact sourced.jobs _ (WorkerPool.mem_of_thread running)
    have before : OwnRows rows data.id
        (state.gameSessions.entry data.id).history :=
      GameSessions.forall_entry own nofun
    rw [sessionsEq]
    refine GameSessions.forall_insert own (List.forall_mem_append.mpr ⟨before, ?_⟩)
    exact List.forall_mem_singleton.mpr ⟨member, rfl⟩
  · rw [sessionsEq]
    exact GameSessions.forall_insert own (historyEq ▸ own id session present)
  · exact sessionsEq ▸ GameSessions.forall_erase own _

end NetState

namespace SdkState

/-- In the run the server has answered the creation of the session with the
uuid. -/
def AnsweredIn (actions : List SdkAction) (sessionId : Nat)
    (sessionUuid : String) : Prop :=
  ∃ before after state,
    actions = before ++ .work (.replySessionTask (.success (some sessionUuid))) ::
      after ∧
    Transition.run step {} before = some state ∧
    ∃ post attempt,
      state.net.sessionRunning = some (.requested (.create post) attempt) ∧
        post.sessionId = sessionId

variable {state next : SdkState} {action : SdkAction}

/-- A step leaves the network layer alone or takes one of its steps; replies are
steps of the worker alone. -/
theorem step_net (valid : state.Valid) (taken : state.step action = some next) :
    next.net = state.net ∨ ∃ netAction,
      NetState.Step state.net netAction next.net ∧
      netAction.Sourced state.game.rows state.game.created ∧
      ∀ reply, netAction = .replySessionTask reply →
        action = .work netAction ∧ next.outbox = state.outbox := by
  rcases step_cases taken with
    ⟨-, event, net, netCases, rfl⟩ | ⟨call, outbox, -, -, rfl⟩ |
      ⟨call, outbox, netAction, net, outboxEq, isAction, netTaken, -, rfl⟩ |
      ⟨netAction, net, isWork, netTaken, rfl, rfl⟩
  · exact netCases.imp_right fun netTaken =>
      ⟨.onCreated, netTaken, trivial, nofun⟩
  · exact Or.inl rfl
  · have called : call ∈ state.game.calls :=
      valid.outbox (outboxEq ▸ List.mem_cons_self)
    refine Or.inr ⟨netAction, netTaken,
      NetCall.netAction_sourced called isAction, ?_⟩
    rintro reply rfl
    cases call <;> cases isAction
  · exact Or.inr ⟨netAction, netTaken, NetAction.sourced_of_isWork isWork,
      fun _ _ => ⟨rfl, rfl⟩⟩

/-- Rows and sessions are only ever added. -/
theorem step_game (taken : state.step action = some next) :
    state.game.rows ⊆ next.game.rows ∧
      state.game.created ⊆ next.game.created := by
  rcases step_cases taken with
    ⟨-, event, net, -, rfl⟩ | ⟨call, outbox, -, -, rfl⟩ |
      ⟨call, outbox, netAction, net, -, -, -, -, rfl⟩ |
      ⟨netAction, net, -, -, -, rfl⟩
  · exact ⟨GameStateRun.record_rows _ _ ▸ List.subset_append_left _ _,
      GameStateRun.record_created _ _ ▸ List.subset_append_left _ _⟩
  all_goals exact ⟨List.Subset.refl _, List.Subset.refl _⟩

/-- A session that waits for its creation has waited before, or is new. -/
theorem step_creates (valid : state.Valid)
    (taken : state.step action = some next) :
    ∀ id ∈ next.creates, id ∈ state.creates ∨ id ∉ state.game.created := by
  rcases step_cases taken with
    ⟨noCalls, event, net, netCases, rfl⟩ | ⟨call, outbox, outboxEq, -, rfl⟩ |
      ⟨call, outbox, netAction, net, outboxEq, isAction, netTaken, -, rfl⟩ |
      ⟨netAction, net, isWork, netTaken, -, rfl⟩
  · refine List.forall_mem_append.mpr ⟨fun id posted => ?_, fun id new => ?_⟩
    · refine Or.inl (List.mem_append_left _ ?_)
      rcases netCases with rfl | netTaken
      · exact posted
      · rcases netTaken.creates_cases with
          ⟨data, origin, impossible, -⟩ | ⟨-, sublist⟩
        · cases impossible
        · exact sublist.subset posted
    · exact Or.inr ((created_fresh valid.game event).2 id new)
  · refine List.forall_mem_append.mpr ⟨fun id posted => ?_, fun id waits => ?_⟩
    · exact Or.inl (List.mem_append_left _ posted)
    · refine Or.inl (List.mem_append_right _ ?_)
      rw [outboxEq]
      exact List.filterMap_subset _ (List.subset_cons_self _ _) waits
  · refine fun id member => Or.inl ?_
    rcases netTaken.creates_cases with
      ⟨data, origin, rfl, posted⟩ | ⟨noCreate, sublist⟩
    · cases call <;> cases isAction
      simpa [creates, posted, outboxEq, NetCall.created?, or_assoc] using member
    · refine List.mem_append.mpr ((List.mem_append.mp member).imp
        (fun posted => sublist.subset posted) fun waits => ?_)
      rw [outboxEq]
      exact List.filterMap_subset _ (List.subset_cons_self _ _) waits
  · refine fun id member => Or.inl ?_
    rcases netTaken.creates_cases with
      ⟨data, origin, rfl, -⟩ | ⟨-, sublist⟩
    · cases isWork
    · exact List.mem_append.mpr ((List.mem_append.mp member).imp_left
        fun posted => sublist.subset posted)

/-- What a run keeps with what the server knows by then. -/
structure KnownIn (past : List SdkAction) (state : SdkState)
    (view : ServerView) : Prop where
  reached : Transition.run step {} past = some state
  valid : state.Valid
  once : state.CreatesOnce
  net : state.net.Identified view
  answered : ∀ id uuid, view.uuids id = some uuid →
    AnsweredIn past id uuid ∧ id ∈ state.game.created ∧ id ∉ state.creates
  stored : ∀ id session, state.net.gameSessions.lookup id = some session →
    NetState.OwnRows state.game.rows id session.history
  histories : ∀ id, NetState.OwnRows state.game.rows id (view.histories id)

theorem AnsweredIn.concat {past : List SdkAction} {sessionId : Nat}
    {sessionUuid : String} (answered : AnsweredIn past sessionId sessionUuid)
    (action : SdkAction) :
    AnsweredIn (past ++ [action]) sessionId sessionUuid := by
  obtain ⟨before, after, state, rfl, rest⟩ := answered
  exact ⟨before, after ++ [action], state, by simp, rest⟩

theorem KnownIn.step {past : List SdkAction} {view : ServerView}
    (known : KnownIn past state view) (taken : state.step action = some next) :
    ∃ later, KnownIn (past ++ [action]) next later := by
  obtain ⟨rowsSubset, createdSubset⟩ := step_game taken
  have reached : Transition.run SdkState.step {} (past ++ [action]) = some next :=
    Transition.run_append.mpr ⟨state, known.reached,
      Transition.run_cons.mpr ⟨next, taken, rfl⟩⟩
  have valid := step_valid known.valid taken
  have once := known.once.step known.valid taken
  have answered : ∀ id uuid, view.uuids id = some uuid →
      AnsweredIn (past ++ [action]) id uuid ∧ id ∈ next.game.created ∧
        id ∉ next.creates := by
    intro id uuid isKnown
    obtain ⟨wasAnswered, created, notWaiting⟩ := known.answered id uuid isKnown
    refine ⟨wasAnswered.concat action, createdSubset created, fun waits => ?_⟩
    rcases step_creates known.valid taken id waits with old | new
    · exact notWaiting old
    · exact new created
  have mono : ∀ {id history}, NetState.OwnRows state.game.rows id history →
      NetState.OwnRows next.game.rows id history :=
    fun own row member => ⟨rowsSubset (own row member).1, (own row member).2⟩
  rcases step_net known.valid taken with same | ⟨netAction, netTaken, input, reply⟩
  · refine ⟨view, reached, valid, once, same ▸ known.net, answered, ?_,
      fun id => mono (known.histories id)⟩
    rw [same]
    exact fun id session present => mono (known.stored id session present)
  · have unanswered : ∀ id ∈ state.net.creates, view.uuids id = none := by
      intro id waits
      cases isKnown : view.uuids id with
      | none => rfl
      | some uuid =>
          exact absurd (List.mem_append_left _ waits)
            (known.answered id uuid isKnown).2.2
    obtain ⟨later, learned, identified⟩ := known.net.step unanswered netTaken
    have stored : ∀ id session,
        next.net.gameSessions.lookup id = some session →
          NetState.OwnRows next.game.rows id session.history :=
      fun id session present => mono
        (netTaken.ownRows known.valid.net input known.stored id session present)
    refine ⟨later, reached, valid, once, identified, ?_, stored, ?_⟩
    · intro id uuid isKnown
      rcases learned.uuids id uuid isKnown with
        old | ⟨⟨post, attempt, running, rfl, rfl⟩, oldest⟩
      · exact answered id uuid old
      · -- The server has answered the oldest creation, and there is no other.
        obtain ⟨rfl, sameOutbox⟩ := reply _ rfl
        have waited : post.sessionId ∈ state.creates := by
          rw [creates, oldest]
          exact List.mem_cons_self
        refine ⟨⟨past, [], state, rfl, known.reached, post, attempt, running, rfl⟩,
          createdSubset (known.once.known waited), ?_⟩
        have nodup := known.once.nodup
        rw [creates, oldest, List.cons_append, List.nodup_cons] at nodup
        rw [creates, sameOutbox]
        exact nodup.1
    · intro id
      rcases learned.histories id with same | ⟨session, present, isHistory⟩
      · exact same ▸ mono (known.histories id)
      · exact isHistory ▸ stored id session present

theorem knownIn_initially : KnownIn [] {} {} where
  reached := rfl
  valid := valid_initially
  once := createsOnce_initially
  net := {
    sessions := fun id session present => by simp at present
    updates := {
      jobs := fun patch member => absurd member WorkerPool.not_mem_empty
      queued := nofun
      running := nofun
      acknowledged := nofun }
    commit := nofun
    published := nofun
    nothing := fun _ _ => rfl }
  answered := nofun
  stored := fun id session present => by simp at present
  histories := fun _ => nofun

/-- Over any run there is one uuid for each session, the one with which the
server has answered its creation, and one history of its own rows, such that
every message of the session and every update that is on its way to the server or
acknowledged names this uuid, and every log is a first part of this history. -/
theorem sessionIdentity {actions : List SdkAction} {final : SdkState}
    (reached : Transition.run step {} actions = some final) :
    ∃ view : ServerView,
      (∀ id uuid, view.uuids id = some uuid → AnsweredIn actions id uuid) ∧
      (∀ id, NetState.OwnRows final.game.rows id (view.histories id)) ∧
      final.net.Updates view.KnowsPatch ∧
      ∀ message ∈ final.net.published, view.KnowsMessage message := by
  have preserved : ∀ past (state : SdkState) action next,
      (∃ view, KnownIn past state view) → state.step action = some next →
        ∃ later, KnownIn (past ++ [action]) next later := by
    rintro past state action next ⟨view, known⟩ taken
    exact known.step taken
  obtain ⟨view, known⟩ :=
    Transition.run_history preserved reached ⟨{}, knownIn_initially⟩
  exact ⟨view, fun id uuid isKnown => (known.answered id uuid isKnown).1,
    known.histories, known.net.updates, known.net.published⟩

theorem sessionIdentity_finishedGame :
    ∃ final, Transition.run step {}
        (finishedGame ++ [.work (.replySessionTask (.success none))]) =
          some final ∧
      final.net.acknowledged.map (·.sessionUuid) = ["uuid"] ∧
      ∀ patch ∈ final.net.acknowledged, AnsweredIn
        (finishedGame ++ [.work (.replySessionTask (.success none))])
        patch.sessionId patch.sessionUuid := by
  have evaluated : ((Transition.run step {}
      (finishedGame ++ [.work (.replySessionTask (.success none))])).any
        fun final => final.net.acknowledged.map (·.sessionUuid) = ["uuid"]) =
          true := by
    decide +kernel
  obtain ⟨final, reached, uuids⟩ := (Option.any_eq_true _ _).mp evaluated
  obtain ⟨view, answered, -, updates, -⟩ := sessionIdentity reached
  refine ⟨final, reached, by simpa using uuids, fun patch member => ?_⟩
  exact answered _ _ (updates.acknowledged patch member).1

end SdkState

end ScorbitSdk
