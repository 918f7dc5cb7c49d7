import ScorbitSdk.SdkRuns

/-!
# Order of the published messages

A send takes the data of its session in one critical section and counts the
message in another.  The commit strand runs one send at a time, so both only
grow for as long as the session stays; a session that is erased and stored
again in between starts to count anew.
-/

namespace ScorbitSdk

def SessionTask.create? : SessionTask → Option Nat
  | create post => some post.sessionId
  | update _ => none

/-- The message that the commit strand is about to publish. -/
def CommitTask.message? : CommitTask → Option ScoreMessage
  | publish message => some message
  | _ => none

/-- The session as the commit strand has read it. -/
def CommitTask.snapshot? : CommitTask → Option (Nat × GameSession)
  | checkConnected sessionId session => some (sessionId, session)
  | count sessionId session => some (sessionId, session)
  | _ => none

/-- The task has found the session created on the server. -/
def CommitTask.Carries (sessionId : Nat) : CommitTask → Prop
  | checkConnected id session => id = sessionId ∧ session.sessionUuid ≠ ""
  | count id _ => id = sessionId
  | publish message => message.sessionId = sessionId
  | _ => False

/-- Of two messages of one session the second is counted and stored later. -/
def ScoreMessage.Before (first second : ScoreMessage) : Prop :=
  first.sessionId = second.sessionId →
    first.sequence < second.sequence ∧ first.storedAt ≤ second.storedAt

namespace NetState

/-- The sessions whose creation has not been answered, the oldest first. -/
def creates (state : NetState) : List Nat :=
  ((state.sessionRunning.bind SessionRun.task?).bind
      SessionTask.create?).toList ++
    state.sessionQueue.filterMap SessionTask.create? ++
    (state.creating.map (·.1)).toList

/-- The session has no uuid yet and nothing of it has been published. -/
structure Fresh (state : NetState) (sessionId : Nat) : Prop where
  noUuid : ∀ session, state.gameSessions.lookup sessionId = some session →
    session.sessionUuid = ""
  unsent : ∀ task, state.commitRunning = some task → ¬ task.Carries sessionId
  unpublished : ∀ message ∈ state.published, message.sessionId ≠ sessionId

variable {state next : NetState} {action : NetAction}

/-- Creations are answered in the order in which they are posted. -/
theorem Step.creates_cases (taken : Step state action next) :
    (∃ data origin, action = .sessionCreate data origin ∧
        next.creates = state.creates ++ [data.id]) ∨
      ((∀ data origin, action ≠ .sessionCreate data origin) ∧
        next.creates.Sublist state.creates) := by
  cases taken with
  | sessionCreate idle =>
      exact Or.inl ⟨_, _, rfl, by simp [creates, idle]⟩
  | createGone creating absent =>
      refine Or.inr ⟨fun _ _ => nofun, ?_⟩
      simp [creates, creating]
  | createPosted creating present posted =>
      refine Or.inr ⟨fun _ _ => nofun, ?_⟩
      simp [creates, creating, posted, SessionTask.create?]
  | postUpdate running =>
      refine Or.inr ⟨fun _ _ => nofun, ?_⟩
      simp [creates, SessionTask.create?]
  | takeSessionTask idle queued =>
      refine Or.inr ⟨fun _ _ => nofun, ?_⟩
      rename_i task sessionQueue
      cases task <;>
        simp [creates, idle, queued, SessionRun.task?, SessionTask.create?,
          List.filterMap_cons]
  | refuse running =>
      refine Or.inr ⟨fun _ _ => nofun, ?_⟩
      simp [creates, List.append_assoc]
  | request running =>
      refine Or.inr ⟨fun _ _ => nofun, ?_⟩
      simp [creates, running, SessionRun.task?]
  | again running =>
      refine Or.inr ⟨fun _ _ => nofun, ?_⟩
      simp [creates, running, SessionRun.task?]
  | giveUp running noUpdate =>
      refine Or.inr ⟨fun _ _ => nofun, ?_⟩
      simp [creates, List.append_assoc]
  | updateKept running active =>
      refine Or.inr ⟨fun _ _ => nofun, ?_⟩
      simp [creates, List.append_assoc]
  | updateErased running inactive =>
      refine Or.inr ⟨fun _ _ => nofun, ?_⟩
      simp [creates, List.append_assoc]
  | created running present =>
      refine Or.inr ⟨fun _ _ => nofun, ?_⟩
      split <;> simp [creates, SessionRun.task?, List.append_assoc]
  | onCreated running =>
      refine Or.inr ⟨fun _ _ => nofun, ?_⟩
      simp [creates, List.append_assoc]
  | _ => exact Or.inr ⟨fun _ _ => nofun, List.Sublist.refl _⟩

/-- Only the answer to its creation gives a session its uuid. -/
theorem Fresh.step {sessionId : Nat} (fresh : state.Fresh sessionId)
    (taken : Step state action next) :
    next.Fresh sessionId ∨ state.creates = sessionId :: next.creates := by
  have noUuidInsert : ∀ {newId : Nat} {changed : GameSession},
      (newId = sessionId → changed.sessionUuid = "") →
        ∀ session, (state.gameSessions.insert newId changed).lookup sessionId =
          some session → session.sessionUuid = "" := by
    intro newId changed noUuid session present
    rcases Finmap.lookup_insert_cases present with ⟨same, rfl⟩ | ⟨-, old⟩
    · exact noUuid same.symm
    · exact fresh.noUuid session old
  have noUuidEntry :
      (state.gameSessions.entry sessionId).sessionUuid = "" := by
    unfold GameSessions.entry
    cases present : state.gameSessions.lookup sessionId with
    | none => rfl
    | some session => exact fresh.noUuid session present
  have idle : ∀ task, (none : Option CommitTask) = some task →
      ¬ task.Carries sessionId := fun _ impossible => by cases impossible
  cases taken with
  | sessionCreate =>
      exact Or.inl { fresh with
        noUuid := noUuidInsert fun same => by rw [same]; exact noUuidEntry }
  | store running =>
      exact Or.inl { fresh with
        noUuid := noUuidInsert fun same => by rw [same]; exact noUuidEntry }
  | createPosted creating present posted =>
      exact Or.inl { fresh with
        noUuid := noUuidInsert fun same => by
          subst same
          exact (fresh.noUuid _ present :) }
  | takeCommitTask commitIdle queued =>
      exact Or.inl { fresh with
        unsent := fun _ isTask carries => by cases isTask; exact carries }
  | sendStarts running =>
      exact Or.inl { fresh with
        unsent := fun _ isTask carries => by cases isTask; exact carries }
  | sendQuits running noClient =>
      exact Or.inl { fresh with unsent := idle }
  | sendGoesOn running notStopped client =>
      exact Or.inl { fresh with
        unsent := fun _ isTask carries => by cases isTask; exact carries }
  | snapshotGone running absent =>
      exact Or.inl { fresh with unsent := idle }
  | snapshot running present =>
      refine Or.inl { fresh with unsent := fun task isTask carries => ?_ }
      cases isTask
      obtain ⟨rfl, ready⟩ := carries
      exact ready (fresh.noUuid _ present)
  | sendSkips running =>
      exact Or.inl { fresh with
        unsent := fun _ isTask carries => by cases isTask; exact carries }
  | sendConnected running ready =>
      refine Or.inl { fresh with unsent := fun task isTask same => ?_ }
      cases isTask
      exact fresh.unsent _ running ⟨same, ready⟩
  | countGone running absent =>
      exact Or.inl { fresh with unsent := idle }
  | count running present =>
      refine Or.inl { fresh with
        noUuid := noUuidInsert fun same => by
          subst same
          exact (fresh.noUuid _ present :)
        unsent := fun task isTask same => ?_ }
      cases isTask
      exact fresh.unsent _ running same
  | publish running =>
      exact Or.inl { fresh with
        unsent := fun _ isTask carries => by cases isTask; exact carries
        unpublished := List.forall_mem_append.mpr ⟨fresh.unpublished,
          List.forall_mem_singleton.mpr (fresh.unsent _ running)⟩ }
  | rearm running active =>
      exact Or.inl { fresh with unsent := idle }
  | lastSend running inactive =>
      exact Or.inl { fresh with unsent := idle }
  | updateErased running inactive =>
      exact Or.inl { fresh with
        noUuid := fun session present =>
          fresh.noUuid session (Finmap.lookup_of_erase present).2 }
  | created running present =>
      rename_i post attempt session sessionUuid
      by_cases same : post.sessionId = sessionId
      · right
        subst same
        simp only [creates, running, SessionRun.task?, SessionTask.create?,
          Option.bind_some, Option.toList_some, List.cons_append]
        split <;> rfl
      · exact Or.inl { fresh with
          noUuid := noUuidInsert fun isOwn => absurd isOwn same }
  | _ => exact Or.inl { fresh with }

/-- A session that was never created is fresh. -/
theorem Sourced.fresh {rows : List GameData} {created : List Nat}
    (sourced : state.Sourced rows created) {sessionId : Nat}
    (unknown : sessionId ∉ created) : state.Fresh sessionId where
  noUuid session present := by
    by_contra ready
    exact unknown ((sourced.sessions _ _ present).uuid ready)
  unsent task running carries := by
    have own := sourced.commit task running
    cases task with
    | checkConnected id session =>
        obtain ⟨rfl, ready⟩ := carries
        exact unknown (own.uuid ready)
    | count id session => exact unknown (carries ▸ own.2)
    | publish message => exact unknown (carries ▸ own.2.2)
    | _ => exact carries
  unpublished message member same :=
    unknown (same ▸ (sourced.published message member).2.2)

/-- The published messages and the one that is about to be published. -/
def messages (state : NetState) : List ScoreMessage :=
  state.published ++ (state.commitRunning.bind CommitTask.message?).toList

/-- The session's data is no older than that of the messages, and its counter
has got past theirs if it has been counting all along. -/
structure Follows (messages : List ScoreMessage) (stores : Nat)
    (sessionId : Nat) (session : GameSession) : Prop where
  stored : session.storedAt < stores
  fresher : ∀ message ∈ messages, message.sessionId = sessionId →
    message.storedAt ≤ session.storedAt
  counted : session.sessionUuid ≠ "" → ∀ message ∈ messages,
    message.sessionId = sessionId → message.sequence ≤ session.sessionCounter

/-- What the commit strand has read is no older than the messages and no newer
than what is stored. -/
structure ReadBetween (messages : List ScoreMessage) (stores : Nat)
    (sessions : GameSessions) (sessionId : Nat) (session : GameSession) :
    Prop where
  stored : session.storedAt < stores
  fresher : ∀ message ∈ messages, message.sessionId = sessionId →
    message.storedAt ≤ session.storedAt
  older : ∀ later, sessions.lookup sessionId = some later →
    session.storedAt ≤ later.storedAt

theorem Fresh.noMessage {sessionId : Nat} (fresh : state.Fresh sessionId) :
    ∀ message ∈ state.messages, message.sessionId ≠ sessionId := by
  refine List.forall_mem_append.mpr ⟨fresh.unpublished, ?_⟩
  intro message member
  simp only [Option.mem_toList, Option.bind_eq_some_iff] at member
  obtain ⟨task, running, isMessage⟩ := member
  have unsent := fresh.unsent task running
  cases task <;> cases isMessage
  exact unsent

structure Ordered (state : NetState) : Prop where
  inOrder : state.messages.Pairwise ScoreMessage.Before
  stored : ∀ message ∈ state.messages, message.storedAt < state.stores
  sessions : ∀ id session, state.gameSessions.lookup id = some session →
    Follows state.messages state.stores id session
  snapshot : ∀ id session,
    state.commitRunning.bind CommitTask.snapshot? = some (id, session) →
      ReadBetween state.messages state.stores state.gameSessions id session

theorem ordered_initially : Ordered {} where
  inOrder := List.Pairwise.nil
  stored := fun _ impossible => by cases impossible
  sessions := fun id session present => by simp at present
  snapshot := fun _ _ impossible => by cases impossible

/-- A send of a session that has published before finds the session that it
has published. -/
def CountGoesOn (state : NetState) : NetAction → Prop
  | .runCommitTask => ∀ sessionId session stored,
      state.commitRunning = some (.count sessionId session) →
      state.gameSessions.lookup sessionId = some stored →
        stored.sessionUuid ≠ "" ∨
          ∀ message ∈ state.published, message.sessionId ≠ sessionId
  | _ => True

/-- A session that is stored anew, or that goes on from where it is. -/
theorem Ordered.insert (ordered : state.Ordered) {sessionId stores : Nat}
    {changed : GameSession} (later : state.stores ≤ stores)
    (stored : changed.storedAt < stores)
    (grown : changed.storedAt = state.stores ∨
      ∃ session, state.gameSessions.lookup sessionId = some session ∧
        session.storedAt = changed.storedAt)
    (counted : changed.sessionUuid ≠ "" → ∀ message ∈ state.messages,
      message.sessionId = sessionId →
        message.sequence ≤ changed.sessionCounter) :
    NetState.Ordered { state with
      gameSessions := state.gameSessions.insert sessionId changed
      stores := stores } where
  inOrder := ordered.inOrder
  stored message member := (ordered.stored message member).trans_le later
  sessions := by
    refine GameSessions.forall_insert (fun id session present => ?_) ?_
    · have own := ordered.sessions id session present
      exact { own with stored := own.stored.trans_le later }
    · refine { stored := stored, fresher := ?_, counted := counted }
      intro message member same
      rcases grown with isNew | ⟨session, present, isOld⟩
      · have before : message.storedAt < state.stores :=
          ordered.stored message member
        omega
      · exact isOld ▸ (ordered.sessions _ _ present).fresher message member same
  snapshot id session isSnapshot := by
    have own := ordered.snapshot id session isSnapshot
    refine {
      stored := own.stored.trans_le later
      fresher := own.fresher
      older := fun newer present => ?_ }
    rcases Finmap.lookup_insert_cases present with ⟨rfl, rfl⟩ | ⟨-, was⟩
    · rcases grown with isNew | ⟨old, oldPresent, isOld⟩
      · have before : session.storedAt < state.stores := own.stored
        omega
      · exact isOld ▸ own.older old oldPresent
    · exact own.older newer was

/-- Storing data makes the session the newest. -/
theorem Ordered.store (ordered : state.Ordered) (data : GameData) :
    NetState.Ordered { state with
      gameSessions := state.gameSessions.insert data.id
        ((state.gameSessions.entry data.id).store data state.stores)
      stores := state.stores + 1 } := by
  apply ordered.insert (Nat.le_succ _) (Nat.lt_succ_self _) (Or.inl rfl)
  have counted : ∀ id session, state.gameSessions.lookup id = some session →
      session.sessionUuid ≠ "" → ∀ message ∈ state.messages,
        message.sessionId = id → message.sequence ≤ session.sessionCounter :=
    fun id session present => (ordered.sessions id session present).counted
  exact GameSessions.forall_entry counted (absurd rfl)

/-- A session that is there changes otherwise than by storing data. -/
theorem Ordered.change (ordered : state.Ordered) {sessionId : Nat}
    {session : GameSession}
    (present : state.gameSessions.lookup sessionId = some session)
    (changed : GameSession) (sameData : changed.storedAt = session.storedAt)
    (counted : changed.sessionUuid ≠ "" → ∀ message ∈ state.messages,
      message.sessionId = sessionId →
        message.sequence ≤ changed.sessionCounter) :
    NetState.Ordered { state with
      gameSessions := state.gameSessions.insert sessionId changed } := by
  have stored : changed.storedAt < state.stores :=
    sameData ▸ (ordered.sessions sessionId session present).stored
  exact ordered.insert (Nat.le_refl _) stored
    (Or.inr ⟨session, present, sameData.symm⟩) counted

/-- A session that counts on. -/
theorem Ordered.countOn (ordered : state.Ordered) {sessionId : Nat}
    {session : GameSession}
    (present : state.gameSessions.lookup sessionId = some session) :
    NetState.Ordered { state with
      gameSessions := state.gameSessions.insert sessionId
        { session with sessionCounter := session.sessionCounter + 1 } } := by
  refine ordered.change present
    { session with sessionCounter := session.sessionCounter + 1 } rfl ?_
  intro ready message member same
  have counted : message.sequence ≤ session.sessionCounter :=
    (ordered.sessions _ _ present).counted ready message member same
  exact counted.trans (Nat.le_succ _)

/-- The commit strand goes on with the messages as they are. -/
theorem Ordered.goesOn (ordered : state.Ordered)
    (sameMessages : next.messages = state.messages)
    (sameStores : next.stores = state.stores)
    (sameSessions : next.gameSessions = state.gameSessions)
    (read : ∀ id session,
      next.commitRunning.bind CommitTask.snapshot? = some (id, session) →
        ReadBetween state.messages state.stores state.gameSessions id
          session) : next.Ordered where
  inOrder := sameMessages ▸ ordered.inOrder
  stored := sameMessages ▸ sameStores ▸ ordered.stored
  sessions := sameMessages ▸ sameStores ▸ sameSessions ▸ ordered.sessions
  snapshot := sameMessages ▸ sameStores ▸ sameSessions ▸ read

/-- The message that is counted follows all messages published before. -/
theorem Ordered.count (ordered : state.Ordered) {sessionId : Nat}
    {session stored : GameSession} {message : ScoreMessage}
    (running : state.commitRunning = some (.count sessionId session))
    (present : state.gameSessions.lookup sessionId = some stored)
    (goesOn : stored.sessionUuid ≠ "" ∨
      ∀ message ∈ state.published, message.sessionId ≠ sessionId)
    (ownId : message.sessionId = sessionId)
    (ownSequence : message.sequence = stored.sessionCounter + 1)
    (ownStoredAt : message.storedAt = session.storedAt) :
    NetState.Ordered { state with
      gameSessions := state.gameSessions.insert sessionId
        { stored with sessionCounter := stored.sessionCounter + 1 }
      commitRunning := some (.publish message) } := by
  have published : state.messages = state.published := by
    simp [messages, running, CommitTask.message?]
  have read := ordered.snapshot sessionId session (by rw [running]; rfl)
  have follows := ordered.sessions sessionId stored present
  have before : ∀ other ∈ state.published, other.Before message := by
    intro other member same
    rw [ownId] at same
    have inMessages : other ∈ state.messages := published ▸ member
    constructor
    · rcases goesOn with ready | none
      · have := follows.counted ready other inMessages same
        omega
      · exact absurd same (none other member)
    · exact ownStoredAt ▸ read.fresher other inMessages same
  have ordered := ordered.countOn present
  have newStored : message.storedAt < state.stores :=
    ownStoredAt ▸ read.stored
  have stays : ∀ other ∈ state.published, other ∈ state.messages :=
    fun other member => published ▸ member
  refine {
    inOrder := List.pairwise_append.mpr
      ⟨published ▸ ordered.inOrder, List.pairwise_singleton _ _, ?_⟩
    stored := List.forall_mem_append.mpr
      ⟨fun other member => ordered.stored other (stays other member),
        List.forall_mem_singleton.mpr newStored⟩
    sessions := fun id later isLater => ?_
    snapshot := fun _ _ impossible => by cases impossible }
  · intro other member new isNew
    exact List.mem_singleton.mp isNew ▸ before other member
  · have own := ordered.sessions id later isLater
    refine {
      stored := own.stored
      fresher := List.forall_mem_append.mpr
        ⟨fun other member => own.fresher other (stays other member),
          List.forall_mem_singleton.mpr fun same => ?_⟩
      counted := fun ready => List.forall_mem_append.mpr
        ⟨fun other member => own.counted ready other (stays other member),
          List.forall_mem_singleton.mpr fun same => ?_⟩ }
    · rw [← same, ownId, Finmap.lookup_insert, Option.some.injEq] at isLater
      subst isLater
      exact ownStoredAt ▸ read.older stored present
    · rw [← same, ownId, Finmap.lookup_insert, Option.some.injEq] at isLater
      subst isLater
      exact ownSequence.le

theorem Ordered.step (ordered : state.Ordered)
    (fresh : ∀ id ∈ state.creates, state.Fresh id)
    (goesOn : state.CountGoesOn action) (taken : Step state action next) :
    next.Ordered := by
  cases taken with
  | sessionCreate idle => exact { ordered.store _ with }
  | store running => exact { ordered.store _ with }
  | createPosted creating present posted =>
      exact { ordered.countOn present with }
  | created running present =>
      rename_i post attempt session sessionUuid
      have unanswered : post.sessionId ∈ state.creates := by
        simp [creates, running, SessionRun.task?, SessionTask.create?]
      have noMessage : ∀ message ∈ state.messages,
          message.sessionId ≠ post.sessionId :=
        (fresh _ unanswered).noMessage
      exact { ordered.change present
        { session with sessionUuid := sessionUuid } rfl
        fun _ message member same =>
          absurd same (noMessage message member) with }
  | updateErased running inactive =>
      rename_i patch attempt sessionUuid
      exact { ordered with
        sessions := GameSessions.forall_erase ordered.sessions patch.sessionId
        snapshot := fun id session isSnapshot =>
          let own := ordered.snapshot id session isSnapshot
          { own with
            older := fun later present =>
              own.older later (Finmap.lookup_of_erase present).2 } }
  | takeCommitTask idle queued =>
      exact ordered.goesOn (by simp [messages, idle, CommitTask.message?])
        rfl rfl fun _ _ impossible => by cases impossible
  | sendStarts running =>
      exact ordered.goesOn (by simp [messages, running, CommitTask.message?])
        rfl rfl fun _ _ impossible => by cases impossible
  | sendQuits running noClient =>
      exact ordered.goesOn
        (by simp [messages, running, finishSend, CommitTask.message?])
        rfl rfl fun _ _ impossible => by cases impossible
  | sendGoesOn running notStopped client =>
      exact ordered.goesOn (by simp [messages, running, CommitTask.message?])
        rfl rfl fun _ _ impossible => by cases impossible
  | snapshotGone running absent =>
      exact ordered.goesOn
        (by simp [messages, running, finishSend, CommitTask.message?])
        rfl rfl fun _ _ impossible => by cases impossible
  | snapshot running present =>
      refine ordered.goesOn (by simp [messages, running, CommitTask.message?])
        rfl rfl fun _ _ isRead => ?_
      cases isRead
      have follows := ordered.sessions _ _ present
      refine {
        stored := follows.stored
        fresher := follows.fresher
        older := fun later isLater => ?_ }
      rw [present, Option.some.injEq] at isLater
      exact isLater ▸ Nat.le_refl _
  | sendSkips running =>
      exact ordered.goesOn (by simp [messages, running, CommitTask.message?])
        rfl rfl fun _ _ impossible => by cases impossible
  | sendConnected running ready =>
      refine ordered.goesOn (by simp [messages, running, CommitTask.message?])
        rfl rfl fun _ _ isRead => ?_
      cases isRead
      exact ordered.snapshot _ _ (by rw [running]; rfl)
  | countGone running absent =>
      exact ordered.goesOn
        (by simp [messages, running, finishSend, CommitTask.message?])
        rfl rfl fun _ _ impossible => by cases impossible
  | count running present =>
      exact ordered.count running present
        (goesOn _ _ _ running present) rfl rfl rfl
  | publish running =>
      exact ordered.goesOn (by simp [messages, running, CommitTask.message?])
        rfl rfl fun _ _ impossible => by cases impossible
  | rearm running active =>
      exact ordered.goesOn
        (by simp [messages, running, finishSend, CommitTask.message?])
        rfl rfl fun _ _ impossible => by cases impossible
  | lastSend running inactive =>
      exact ordered.goesOn
        (by simp [messages, running, finishSend, CommitTask.message?])
        rfl rfl fun _ _ impossible => by cases impossible
  | _ => exact { ordered with }

end NetState

namespace SdkState

/-- Messages of one session are published with increasing sequence numbers and
with data that was stored no earlier. -/
def PublishedInOrder (state : SdkState) : Prop :=
  state.net.published.Pairwise ScoreMessage.Before

/-- Every send that finds its session stored anew is its session's first. -/
def CountGoesOn (state : SdkState) : SdkAction → Prop
  | .work action => state.net.CountGoesOn action
  | _ => True

/-- The sessions whose creation has not been answered, those included that are
still to be created. -/
def creates (state : SdkState) : List Nat :=
  state.net.creates ++ state.outbox.filterMap NetCall.created?

/-- No session is created twice. -/
structure CreatesOnce (state : SdkState) : Prop where
  nodup : state.creates.Nodup
  known : state.creates ⊆ state.game.created
  fresh : ∀ id ∈ state.creates, state.net.Fresh id

theorem createsOnce_initially : CreatesOnce {} where
  nodup := List.nodup_nil
  known := List.nil_subset _
  fresh := fun _ impossible => by cases impossible

/-- The session that an event of the state machine creates is a new one. -/
theorem created_fresh {game : GameStateRun} (valid : game.Valid)
    (event : GameStateEvent) :
    ((event.perform game.impl).2.filterMap NetCall.created?).Nodup ∧
      ∀ id ∈ (event.perform game.impl).2.filterMap NetCall.created?,
        id ∉ game.created := by
  rcases GameStateRun.perform_rows game.impl event with
    ⟨data, -, createdEq, starts, dataEq⟩ | ⟨createdEq, -⟩
  · rw [createdEq]
    refine ⟨List.nodup_singleton _, List.forall_mem_singleton.mpr ?_⟩
    intro old
    have le := valid.created_le _ old
    rw [dataEq, starts.id] at le
    omega
  · simp [createdEq]

theorem CreatesOnce.netStep {state next : SdkState} {action : NetAction}
    (once : state.CreatesOnce) (game : next.game = state.game)
    (outbox : next.outbox ⊆ state.outbox)
    (taken : NetState.Step state.net action next.net)
    (sublist : next.creates.Sublist state.creates) : next.CreatesOnce where
  nodup := once.nodup.sublist sublist
  known := game ▸ List.Subset.trans sublist.subset once.known
  fresh id member := by
    rcases (once.fresh id (sublist.subset member)).step taken with
      fresh | answered
    · exact fresh
    · -- The answered creation is the oldest one, and there is no other.
      have nodup := once.nodup
      rw [creates, answered, List.cons_append, List.nodup_cons,
        List.mem_append, not_or] at nodup
      rcases List.mem_append.mp member with posted | waiting
      · exact absurd posted nodup.1.1
      · exact absurd (List.filterMap_subset _ outbox waiting) nodup.1.2

theorem CreatesOnce.step {state next : SdkState} {action : SdkAction}
    (valid : state.Valid) (once : state.CreatesOnce)
    (taken : state.step action = some next) : next.CreatesOnce := by
  rcases step_cases taken with
    ⟨noCalls, event, net, netCases, rfl⟩ | ⟨call, outbox, outboxEq, noRow, rfl⟩ |
      ⟨call, outbox, netAction, net, outboxEq, isAction, netTaken, -, rfl⟩ |
      ⟨netAction, net, isWork, netTaken, -, rfl⟩
  · have netOnce : CreatesOnce { state with net := net } ∧
        net.Sourced state.game.rows state.game.created := by
      rcases netCases with rfl | netTaken
      · exact ⟨once, valid.net⟩
      · have input : NetAction.onCreated.Sourced state.game.rows
            state.game.created := trivial
        refine ⟨once.netStep rfl (List.Subset.refl _) netTaken ?_,
          valid.net.step input netTaken⟩
        rcases netTaken.creates_cases with
          ⟨data, origin, impossible, -⟩ | ⟨-, sublist⟩
        · cases impossible
        · exact sublist.append_right _
    obtain ⟨once, sourced⟩ := netOnce
    obtain ⟨newNodup, newFresh⟩ := created_fresh valid.game event
    have noneWaits : SdkState.creates { state with net := net } = net.creates := by
      simp [creates, noCalls]
    have netNodup : net.creates.Nodup := noneWaits ▸ once.nodup
    have netKnown : net.creates ⊆ state.game.created := noneWaits ▸ once.known
    have netFresh : ∀ id ∈ net.creates, net.Fresh id := noneWaits ▸ once.fresh
    have createdEq : (SdkState.perform { state with net := net } event).game.created =
        state.game.created ++ (event.perform state.game.impl).2.filterMap
          NetCall.created? := GameStateRun.record_created _ _
    refine { nodup := ?_, known := ?_, fresh := ?_ }
    · refine List.nodup_append.mpr ⟨netNodup, newNodup, ?_⟩
      intro id old other new same
      exact newFresh other new (same ▸ netKnown old)
    · rw [createdEq]
      exact List.append_subset.mpr
        ⟨List.Subset.trans netKnown (List.subset_append_left _ _),
          List.subset_append_right _ _⟩
    · refine List.forall_mem_append.mpr ⟨netFresh, fun id new => ?_⟩
      exact sourced.fresh (newFresh id new)
  · have noCreate : call.created? = none := by
      cases call <;> simp_all [NetCall.row?, NetCall.created?]
    have same : SdkState.creates { state with outbox := outbox } =
        state.creates := by
      simp [creates, outboxEq, noCreate]
    exact {
      nodup := same ▸ once.nodup
      known := same ▸ once.known
      fresh := same ▸ once.fresh }
  · refine once.netStep rfl (outboxEq ▸ List.subset_cons_self call outbox)
      netTaken ?_
    rcases netTaken.creates_cases with
      ⟨data, origin, rfl, posted⟩ | ⟨noCreate, sublist⟩
    · cases call <;> cases isAction
      simp [creates, posted, outboxEq, NetCall.created?]
    · simp only [creates, outboxEq]
      exact sublist.append ((List.sublist_cons_self call outbox).filterMap _)
  · refine once.netStep rfl (List.Subset.refl _) netTaken ?_
    rcases netTaken.creates_cases with
      ⟨data, origin, rfl, -⟩ | ⟨-, sublist⟩
    · cases isWork
    · exact sublist.append_right _

/-- What the runs keep whose sends count on. -/
structure PublishesInOrder (state : SdkState) : Prop where
  valid : state.Valid
  once : state.CreatesOnce
  ordered : state.net.Ordered

theorem PublishesInOrder.step {state next : SdkState} {action : SdkAction}
    (kept : state.PublishesInOrder) (goesOn : state.CountGoesOn action)
    (taken : state.step action = some next) : next.PublishesInOrder := by
  refine {
    valid := step_valid kept.valid taken
    once := kept.once.step kept.valid taken
    ordered := ?_ }
  have fresh : ∀ id ∈ state.net.creates, state.net.Fresh id :=
    fun id member => kept.once.fresh id (List.mem_append_left _ member)
  rcases step_cases taken with
    ⟨-, event, net, netCases, rfl⟩ | ⟨call, outbox, -, -, rfl⟩ |
      ⟨call, outbox, netAction, net, -, isAction, netTaken, -, rfl⟩ |
      ⟨netAction, net, -, netTaken, rfl, rfl⟩
  · rcases netCases with rfl | netTaken
    · exact kept.ordered
    · have goesOn : state.net.CountGoesOn .onCreated := trivial
      exact kept.ordered.step fresh goesOn netTaken
  · exact kept.ordered
  · refine kept.ordered.step fresh ?_ netTaken
    cases call <;> cases isAction <;> trivial
  · exact kept.ordered.step fresh goesOn netTaken

/-- In a run whose sends all count on, every session's messages are published
in order. -/
theorem publishedInOrder {actions : List SdkAction} {final : SdkState}
    (reached : Transition.run step {} actions = some final)
    (goesOn : Transition.HoldsAlong step CountGoesOn {} actions) :
    final.PublishedInOrder := by
  have preserved : ∀ (state : SdkState) action next, state.PublishesInOrder →
      state.CountGoesOn action → state.step action = some next →
        next.PublishesInOrder :=
    fun _ _ _ kept holds taken => kept.step holds taken
  have initially : PublishesInOrder {} := {
    valid := valid_initially
    once := createsOnce_initially
    ordered := NetState.ordered_initially }
  have kept := Transition.run_preserves preserved reached goesOn initially
  exact kept.ordered.inOrder.sublist (List.sublist_append_left _ _)

/-- Whether a send that counts finds its session with its uuid. -/
def countsKnown (state : SdkState) : SdkAction → Bool
  | .work .runCommitTask =>
      match state.net.commitRunning with
      | some (.count sessionId _) =>
          (state.net.gameSessions.entry sessionId).sessionUuid ≠ ""
      | _ => true
  | _ => true

theorem countGoesOn_of_countsKnown (state : SdkState) (action : SdkAction)
    (known : state.countsKnown action = true) : state.CountGoesOn action := by
  unfold CountGoesOn
  split
  · rename_i netAction
    unfold NetState.CountGoesOn
    split
    · intro sessionId session stored running present
      simp only [countsKnown, running, decide_eq_true_eq,
        GameSessions.entry_of_lookup present] at known
      exact Or.inl known
    · trivial
  · trivial

/-- The commit strand takes the next send and publishes its message. -/
def messageSent : List SdkAction :=
  [.work .takeCommitTask, .work .runCommitTask, .work .runCommitTask,
    .work .runCommitTask, .work .runCommitTask, .work .runCommitTask,
    .work .runCommitTask, .work .runCommitTask]

/-- A game whose first message is published. -/
def publishedGame : List SdkAction :=
  startedGame ++ .work (.setCentrifugo (some .connected)) :: messageSent

theorem publishedInOrder_timer :
    ∃ final, Transition.run step {}
        (publishedGame ++ [.work .gameDataTimerExpires, .work (.takeJob 0),
          .work (.runJob 0)] ++ messageSent) = some final ∧
      final.net.published.length = 2 ∧ final.PublishedInOrder := by
  have evaluated : ((Transition.run step {}
      (publishedGame ++ [.work .gameDataTimerExpires, .work (.takeJob 0),
        .work (.runJob 0)] ++ messageSent)).any
          fun final => final.net.published.length = 2) = true := by
    decide +kernel
  obtain ⟨final, reached, twoPublished⟩ := (Option.any_eq_true _ _).mp evaluated
  refine ⟨final, reached, by simpa using twoPublished, publishedInOrder reached ?_⟩
  exact .of_checksAlong countGoesOn_of_countsKnown (by decide +kernel)

/-- A game that finishes with a bonus.  Between the two critical sections of
its last send the session is erased, and the closure of the bonus stores it
anew. -/
def storedAnewGame : List SdkAction :=
  publishedGame ++ [.operation {} (.setCurrentBall 2), .operation {} .commit,
    .deliver] ++ updateSent ++ [.operation {} (.setActivePlayer 2),
    .operation {} (.setScore 1 100 0), .operation {} .setGameFinished,
    .deliver, .deliver, .deliver, .work (.takeJob 0), .work (.takeJob 1),
    .work (.runJob 1), .work (.runJob 1), .work .takeCommitTask,
    .work .runCommitTask, .work .runCommitTask, .work .runCommitTask,
    .work (.replySessionTask (.success none)), .work (.runJob 0),
    .work .runCommitTask, .work .runCommitTask, .work .runCommitTask]

/-- The last message carries the sequence number one again. -/
theorem notInOrder_storedAnewGame :
    ∃ final, Transition.run step {} storedAnewGame = some final ∧
      ¬ final.PublishedInOrder := by
  have evaluated : ((Transition.run step {} storedAnewGame).any fun final =>
      final.net.published.map (·.sessionId) = [1, 1] &&
        final.net.published.map (·.sequence) = [2, 1]) = true := by
    decide +kernel
  obtain ⟨final, reached, numbers⟩ := (Option.any_eq_true _ _).mp evaluated
  refine ⟨final, reached, fun inOrder => ?_⟩
  simp only [Bool.and_eq_true, decide_eq_true_eq] at numbers
  obtain ⟨sameSession, sequences⟩ := numbers
  unfold PublishedInOrder at inOrder
  match published : final.net.published with
  | [first, second] =>
      rw [published] at inOrder sameSession sequences
      simp_all [ScoreMessage.Before]
  | [] => simp [published] at sequences
  | [_] => simp [published] at sequences
  | _ :: _ :: _ :: _ => simp [published] at sequences

end SdkState

end ScorbitSdk
