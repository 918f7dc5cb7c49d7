import ScorbitSdk.PendingSends
import ScorbitSdk.PublishedOrder

/-!
# Publication of the game end

A send reads the session as it is stored by then, so every send that runs after
the last data was stored publishes the end of the game.  It is published once as
long as no other send of the session is left by the time of its publication.
-/

namespace ScorbitSdk

inductive ScoreMessageType
  | scoreUpdate
  | gameEnd
  deriving DecidableEq

def ScoreMessage.type (self : ScoreMessage) : ScoreMessageType :=
  if self.data.isGameActive then .scoreUpdate else .gameEnd

/-- The task is a send of the session that may still publish or arm the
timer. -/
def CommitTask.StillSends (sessionId : Nat) : CommitTask → Prop
  | stopTimer id => id = sessionId
  | checkClient id => id = sessionId
  | snapshot id => id = sessionId
  | checkConnected id _ => id = sessionId
  | count id _ => id = sessionId
  | publish message => message.sessionId = sessionId
  | startTimer id data => id = sessionId ∧ data.isGameActive = true

namespace NetState

/-- Unless it is gone, the session has no send left, and no data that would
make for one when it is stored. -/
def NoSendLeft (state : NetState) (unstored : GameData → Prop)
    (sessionId : Nat) : Prop :=
  ∀ session, state.gameSessions.lookup sessionId = some session →
    session.sessionUuid ≠ "" →
      ¬ state.SendQueued sessionId ∧
        ∀ row, unstored row → row.id = sessionId →
          isSendDue row session.sessionCounter = false

/-- The end of the session's game has been published for the last time. -/
structure Ended (state : NetState) (unstored : GameData → Prop)
    (sessionId : Nat) : Prop where
  unsent : ∀ task, state.commitRunning = some task → ¬ task.Carries sessionId
  idle : ∀ session, state.gameSessions.lookup sessionId = some session →
    session.sessionUuid ≠ "" → ∀ task, state.commitRunning = some task →
      ¬ task.StillSends sessionId
  noneLeft : state.NoSendLeft unstored sessionId

variable {state next : NetState} {action : NetAction} {sessionId : Nat}

/-- A session with a uuid has been there with it, if no creation of it has just
been answered; only a send counts on. -/
theorem Step.known_before (taken : Step state action next)
    (answered : sessionId ∉ state.creates) {later : GameSession}
    (present : next.gameSessions.lookup sessionId = some later)
    (known : later.sessionUuid ≠ "") :
    ∃ session, state.gameSessions.lookup sessionId = some session ∧
      session.sessionUuid ≠ "" ∧
      (later.sessionCounter = session.sessionCounter ∨
        ∃ read, state.commitRunning = some (.count sessionId read)) := by
  have unchanged : next.gameSessions = state.gameSessions →
      ∃ session, state.gameSessions.lookup sessionId = some session ∧
        session.sessionUuid ≠ "" ∧
        (later.sessionCounter = session.sessionCounter ∨
          ∃ read, state.commitRunning = some (.count sessionId read)) :=
    fun same => ⟨later, same ▸ present, known, Or.inl rfl⟩
  have inserted : ∀ {newId : Nat} {changed : GameSession},
      next.gameSessions = state.gameSessions.insert newId changed →
      (newId = sessionId ∧ changed = later) ∨
        state.gameSessions.lookup sessionId = some later := by
    intro newId changed sessionsEq
    rw [sessionsEq] at present
    rcases Finmap.lookup_insert_cases present with ⟨same, isNew⟩ | ⟨-, old⟩
    · exact Or.inl ⟨same.symm, isNew⟩
    · exact Or.inr old
  have stored : ∀ {data : GameData}, next.gameSessions =
      state.gameSessions.insert data.id
        ((state.gameSessions.entry data.id).store data state.stores) →
      ∃ session, state.gameSessions.lookup sessionId = some session ∧
        session.sessionUuid ≠ "" ∧
        (later.sessionCounter = session.sessionCounter ∨
          ∃ read, state.commitRunning = some (.count sessionId read)) := by
    intro data sessionsEq
    rcases inserted sessionsEq with ⟨rfl, rfl⟩ | old
    · cases before : state.gameSessions.lookup data.id with
      | none => simp [GameSession.store, GameSessions.entry, before] at known
      | some session =>
          rw [GameSessions.entry_of_lookup before] at known ⊢
          exact ⟨session, rfl, known, Or.inl rfl⟩
    · exact ⟨later, old, known, Or.inl rfl⟩
  cases taken with
  | sessionCreate idle => exact stored rfl
  | store running => exact stored rfl
  | createPosted creating before posted =>
      rename_i id origin session post
      have unanswered : id ∈ state.creates := by simp [creates, creating]
      rcases inserted rfl with ⟨rfl, -⟩ | old
      · exact absurd unanswered answered
      · exact ⟨later, old, known, Or.inl rfl⟩
  | created running before =>
      rename_i post attempt session sessionUuid
      have unanswered : post.sessionId ∈ state.creates := by
        simp [creates, running, SessionRun.task?, SessionTask.create?]
      rcases inserted rfl with ⟨rfl, -⟩ | old
      · exact absurd unanswered answered
      · exact ⟨later, old, known, Or.inl rfl⟩
  | count running before =>
      rcases inserted rfl with ⟨rfl, rfl⟩ | old
      · exact ⟨_, before, known, Or.inr ⟨_, running⟩⟩
      · exact ⟨later, old, known, Or.inl rfl⟩
  | updateErased running inactive =>
      exact ⟨later, (Finmap.lookup_of_erase present).2, known, Or.inl rfl⟩
  | _ => exact unchanged rfl

/-- A send that has found its session created had found it so before, or has
just read it. -/
theorem Step.carries_before (taken : Step state action next)
    {task : CommitTask} (running : next.commitRunning = some task)
    (carries : task.Carries sessionId) :
    (∃ before, state.commitRunning = some before ∧
        before.Carries sessionId) ∨
      ∃ session, state.commitRunning = some (.snapshot sessionId) ∧
        state.gameSessions.lookup sessionId = some session ∧
        session.sessionUuid ≠ "" := by
  cases taken with
  | takeCommitTask => cases running; exact absurd carries id
  | sendStarts => cases running; exact absurd carries id
  | sendQuits => cases running
  | sendGoesOn => cases running; exact absurd carries id
  | snapshotGone => cases running
  | snapshot wasRunning present =>
      cases running
      obtain ⟨rfl, ready⟩ := carries
      exact Or.inr ⟨_, wasRunning, present, ready⟩
  | sendSkips => cases running; exact absurd carries id
  | sendConnected wasRunning ready =>
      cases running
      exact Or.inl ⟨_, wasRunning, carries, ready⟩
  | countGone => cases running
  | count wasRunning present =>
      cases running
      exact Or.inl ⟨_, wasRunning, carries⟩
  | publish => cases running; exact absurd carries id
  | rearm => cases running
  | lastSend => cases running
  | _ => exact Or.inl ⟨task, running, carries⟩

/-- A send of the commit strand was there before or has been queued. -/
theorem Step.stillSends_before (taken : Step state action next)
    {task : CommitTask} (running : next.commitRunning = some task)
    (sends : task.StillSends sessionId) :
    state.SendQueued sessionId ∨ ∃ before,
      state.commitRunning = some before ∧ before.StillSends sessionId := by
  cases taken with
  | takeCommitTask idle queued =>
      cases running
      cases sends
      exact Or.inl (Or.inr (Or.inl (queued ▸ List.mem_cons_self)))
  | sendStarts wasRunning =>
      cases running
      exact Or.inr ⟨_, wasRunning, sends⟩
  | sendQuits => cases running
  | sendGoesOn wasRunning =>
      cases running
      exact Or.inr ⟨_, wasRunning, sends⟩
  | snapshotGone => cases running
  | snapshot wasRunning present =>
      cases running
      exact Or.inr ⟨_, wasRunning, sends⟩
  | sendSkips wasRunning =>
      cases running
      exact Or.inr ⟨_, wasRunning, sends.1⟩
  | sendConnected wasRunning ready =>
      cases running
      exact Or.inr ⟨_, wasRunning, sends⟩
  | countGone => cases running
  | count wasRunning present =>
      cases running
      exact Or.inr ⟨_, wasRunning, sends⟩
  | publish wasRunning =>
      cases running
      exact Or.inr ⟨_, wasRunning, sends.1⟩
  | rearm => cases running
  | lastSend => cases running
  | _ => exact Or.inr ⟨task, running, sends⟩

/-- Nothing of an ended session is published again. -/
theorem Ended.step {unstored laterUnstored : GameData → Prop}
    (ended : state.Ended unstored sessionId)
    (answered : sessionId ∉ state.creates) (taken : Step state action next)
    (fewer : ∀ row, laterUnstored row → row.id = sessionId → unstored row)
    (waiting : ∀ data flags, NetJob.submitGameData data flags ∈ state.pool →
      unstored data) :
    next.Ended laterUnstored sessionId := by
  refine { unsent := ?_, idle := ?_, noneLeft := ?_ }
  · intro task running carries
    rcases taken.carries_before running carries with
      ⟨before, wasRunning, carried⟩ | ⟨session, wasRunning, present, ready⟩
    · exact ended.unsent before wasRunning carried
    · exact ended.idle session present ready _ wasRunning rfl
  · intro later isLater known task running sends
    obtain ⟨session, present, ready, -⟩ :=
      taken.known_before answered isLater known
    rcases taken.stillSends_before running sends with
      queued | ⟨before, wasRunning, sent⟩
    · exact (ended.noneLeft session present ready).1 queued
    · exact ended.idle session present ready before wasRunning sent
  · intro later isLater known
    obtain ⟨session, present, ready, counter⟩ :=
      taken.known_before answered isLater known
    obtain ⟨notQueued, noneDue⟩ := ended.noneLeft session present ready
    constructor
    · intro queued
      rcases taken.sendQueued_before queued with
        before | ⟨data, flags, member, sameId, due⟩ | ⟨data, running, active⟩
      · exact notQueued before
      · rw [GameSessions.entry_of_lookup present,
          noneDue data (waiting data flags member) sameId] at due
        cases due
      · exact ended.idle session present ready _ running ⟨rfl, active⟩
    · intro row isWaiting sameId
      have notDue : isSendDue row session.sessionCounter = false :=
        noneDue row (fewer row isWaiting sameId) sameId
      rcases counter with sameCounter | ⟨read, running⟩
      · exact sameCounter ▸ notDue
      · exact absurd rfl (ended.idle session present ready _ running)

theorem Ended.mono {unstored laterUnstored : GameData → Prop}
    (ended : state.Ended unstored sessionId)
    (fewer : ∀ row, laterUnstored row → row.id = sessionId → unstored row) :
    state.Ended laterUnstored sessionId :=
  { ended with
    noneLeft := fun session present known =>
      let left := ended.noneLeft session present known
      ⟨left.1, fun row waiting sameId =>
        left.2 row (fewer row waiting sameId) sameId⟩ }

theorem Step.published_cases (taken : Step state action next) :
    next.published = state.published ∨ ∃ message,
      state.commitRunning = some (.publish message) ∧
        action = .runCommitTask ∧
        next = { state with
          published := state.published ++ [message]
          commitRunning :=
            some (.startTimer message.sessionId message.data) } := by
  cases taken with
  | publish running => exact Or.inr ⟨_, running, rfl, rfl⟩
  | _ => exact Or.inl rfl

/-- The session has ended when the end of its game is published and no other
send is left. -/
theorem ended_publish {unstored : GameData → Prop} {message : ScoreMessage}
    (inactive : message.data.isGameActive = false)
    (noneLeft : state.NoSendLeft unstored message.sessionId) :
    Ended { state with
      published := state.published ++ [message]
      commitRunning := some (.startTimer message.sessionId message.data) }
      unstored message.sessionId where
  unsent task running carries := by
    cases running
    exact carries
  idle _ _ _ task running sends := by
    cases running
    rw [sends.2] at inactive
    cases inactive
  noneLeft := noneLeft

end NetState

namespace SdkState

/-- The types of the messages published for a session. -/
def stream (state : SdkState) (sessionId : Nat) : List ScoreMessageType :=
  (state.net.published.filter (·.sessionId = sessionId)).map
    ScoreMessage.type

/-- Every session publishes score updates and at most one game end, and nothing
after it. -/
def GameEndsOnce (state : SdkState) : Prop :=
  ∀ sessionId, ∃ updates,
    state.stream sessionId = List.replicate updates .scoreUpdate ∨
      state.stream sessionId =
        List.replicate updates .scoreUpdate ++ [.gameEnd]

/-- The end of a game is published when no other send of the session is
left. -/
def SendsLast (state : SdkState) : SdkAction → Prop
  | .work .runCommitTask => ∀ message,
      state.net.commitRunning = some (.publish message) →
        message.data.isGameActive = false →
          state.net.NoSendLeft state.Unstored message.sessionId
  | _ => True

/-- What the runs keep that publish a game end last. -/
structure EndsOnce (state : SdkState) : Prop where
  valid : state.Valid
  once : state.CreatesOnce
  active : state.net.published.Pairwise fun first second =>
    first.sessionId = second.sessionId → first.data.isGameActive = true
  ended : ∀ message ∈ state.net.published,
    message.data.isGameActive = false →
      state.net.Ended state.Unstored message.sessionId

theorem EndsOnce.answered {state : SdkState} (kept : state.EndsOnce)
    {message : ScoreMessage} (member : message ∈ state.net.published) :
    message.sessionId ∉ state.net.creates := by
  intro unanswered
  have fresh := kept.once.fresh _ (List.mem_append_left _ unanswered)
  exact fresh.unpublished message member rfl

/-- The state machine hands over nothing more of a game whose end has been
published. -/
theorem EndsOnce.noNewRow {state : SdkState} (kept : state.EndsOnce)
    {message : ScoreMessage} (member : message ∈ state.net.published)
    (inactive : message.data.isGameActive = false) (event : GameStateEvent) :
    ∀ row ∈ (event.perform state.game.impl).2.filterMap NetCall.row?,
      row.id ≠ message.sessionId := by
  intro row isRow sameId
  obtain ⟨handedOver, ownId, created⟩ :=
    kept.valid.net.published message member
  rcases GameStateRun.perform_rows_fresh kept.valid.game event row isRow with
    zero | fresh
  · have positive := kept.valid.game.created_pos _ created
    omega
  · exact fresh message.data handedOver inactive (ownId.trans sameId.symm)

/-- A step of `Net` publishes nothing of an ended session. -/
theorem EndsOnce.netStep {state next : SdkState} {action : SdkAction}
    {netAction : NetAction} (kept : state.EndsOnce)
    (step : NetStep state action next netAction)
    (last : netAction = .runCommitTask → state.SendsLast (.work .runCommitTask)) :
    (next.net.published.Pairwise fun first second =>
      first.sessionId = second.sessionId → first.data.isGameActive = true) ∧
    ∀ message ∈ next.net.published, message.data.isGameActive = false →
      next.net.Ended next.Unstored message.sessionId := by
  have stays : ∀ message ∈ state.net.published,
      message.data.isGameActive = false →
        next.net.Ended next.Unstored message.sessionId :=
    fun message member inactive =>
      (kept.ended message member inactive).step (kept.answered member)
        step.taken (fun row waiting _ => step.unstored row waiting)
        (fun data flags inPool => Or.inr ⟨flags, inPool⟩)
  rcases step.taken.published_cases with
    same | ⟨message, running, isRun, netEq⟩
  · rw [same]
    exact ⟨kept.active, stays⟩
  · have publishedEq : next.net.published =
        state.net.published ++ [message] := by rw [netEq]
    rw [publishedEq]
    constructor
    · refine List.pairwise_append.mpr
        ⟨kept.active, List.pairwise_singleton _ _, ?_⟩
      intro first member second isNew sameId
      rw [List.mem_singleton.mp isNew] at sameId
      by_contra inactive
      -- The end of this session's game has been published.
      have ended := kept.ended first member (by simpa using inactive)
      exact ended.unsent _ running sameId.symm
    · refine List.forall_mem_append.mpr
        ⟨stays, List.forall_mem_singleton.mpr fun inactive => ?_⟩
      have noneLeft := last isRun message running inactive
      rw [netEq]
      exact (NetState.ended_publish inactive noneLeft).mono
        fun row waiting _ => step.unstored row waiting

theorem EndsOnce.step {state next : SdkState} {action : SdkAction}
    (kept : state.EndsOnce) (last : state.SendsLast action)
    (taken : state.step action = some next) : next.EndsOnce := by
  have valid : next.Valid := step_valid kept.valid taken
  have once : next.CreatesOnce := kept.once.step kept.valid taken
  rcases step_cases taken with
    ⟨noCalls, event, net, netCases, rfl⟩ | ⟨call, outbox, outboxEq, -, rfl⟩ |
      ⟨call, outbox, netAction, net, outboxEq, isAction, netTaken, rfl, rfl⟩ |
      ⟨netAction, net, isWork, netTaken, rfl, rfl⟩
  · have samePublished : net.published = state.net.published := by
      rcases netCases with rfl | netTaken
      · rfl
      · cases netTaken; rfl
    refine {
      valid := valid
      once := once
      active := (samePublished ▸ kept.active :)
      ended := fun message member inactive => ?_ }
    replace member : message ∈ state.net.published := samePublished ▸ member
    have ended := kept.ended message member inactive
    -- Only rows of other sessions come up.
    have fewer : ∀ row,
        (SdkState.perform { state with net := net } event).Unstored row →
          row.id = message.sessionId → state.Unstored row := by
      rintro row (⟨call, waits, isRow⟩ | ⟨flags, inPool⟩) sameId
      · have isNew : row ∈
            (event.perform state.game.impl).2.filterMap NetCall.row? :=
          List.mem_filterMap.mpr ⟨call, waits, isRow⟩
        exact absurd sameId (kept.noNewRow member inactive event row isNew)
      · right
        rcases netCases with rfl | netTaken
        · exact ⟨flags, inPool⟩
        · cases netTaken
          exact ⟨flags, inPool⟩
    rcases netCases with rfl | netTaken
    · exact ended.mono fewer
    · exact ended.step (kept.answered member) netTaken fewer
        fun data flags inPool => Or.inr ⟨flags, inPool⟩
  · refine {
      valid := valid
      once := once
      active := kept.active
      ended := fun message member inactive =>
        (kept.ended message member inactive).mono fun row waiting _ => ?_ }
    rcases waiting with ⟨later, waits, isRow⟩ | inPool
    · exact Or.inl ⟨later, outboxEq ▸ List.mem_cons_of_mem call waits, isRow⟩
    · exact Or.inr inPool
  · have kept := kept.netStep (netStep_deliver outboxEq isAction netTaken)
      fun isRun => by subst isRun; cases call <;> cases isAction
    exact { valid := valid, once := once, active := kept.1, ended := kept.2 }
  · have kept := kept.netStep (netStep_work isWork netTaken)
      fun isRun => by subst isRun; exact last
    exact { valid := valid, once := once, active := kept.1, ended := kept.2 }

/-- A list whose elements but the last are all score updates. -/
theorem replicate_of_pairwise {types : List ScoreMessageType}
    (active : types.Pairwise fun first _ => first = .scoreUpdate) :
    ∃ updates, types = List.replicate updates .scoreUpdate ∨
      types = List.replicate updates .scoreUpdate ++ [.gameEnd] := by
  induction types with
  | nil => exact ⟨0, Or.inl rfl⟩
  | cons first rest ih =>
      obtain ⟨isUpdate, restActive⟩ := List.pairwise_cons.mp active
      obtain ⟨updates, restEq⟩ := ih restActive
      cases first with
      | scoreUpdate =>
          refine ⟨updates + 1, ?_⟩
          rw [List.replicate_succ]
          rcases restEq with rfl | rfl
          · exact Or.inl rfl
          · exact Or.inr rfl
      | gameEnd =>
          have noRest : rest = [] := by
            cases rest with
            | nil => rfl
            | cons second others =>
                cases isUpdate second List.mem_cons_self
          exact ⟨0, Or.inr (by rw [noRest]; rfl)⟩

theorem EndsOnce.streamsEndOnce {state : SdkState} (kept : state.EndsOnce) :
    state.GameEndsOnce := by
  intro sessionId
  apply replicate_of_pairwise
  unfold stream
  rw [List.pairwise_map]
  refine List.Pairwise.imp_of_mem ?_ (kept.active.filter _)
  intro first second firstMember secondMember active
  have firstId : first.sessionId = sessionId := by
    simpa using (List.mem_filter.mp firstMember).2
  have secondId : second.sessionId = sessionId := by
    simpa using (List.mem_filter.mp secondMember).2
  unfold ScoreMessage.type
  rw [if_pos (active (firstId.trans secondId.symm))]

/-- In a run that publishes every game end when no other send of the session
is left, every session's game ends once. -/
theorem gameEndsOnce {actions : List SdkAction} {final : SdkState}
    (reached : Transition.run step {} actions = some final)
    (last : Transition.HoldsAlong step SendsLast {} actions) :
    final.GameEndsOnce := by
  have preserved : ∀ (state : SdkState) action next, state.EndsOnce →
      state.SendsLast action → state.step action = some next →
        next.EndsOnce :=
    fun _ _ _ kept holds taken => kept.step holds taken
  have initially : EndsOnce {} := {
    valid := valid_initially
    once := createsOnce_initially
    active := List.Pairwise.nil
    ended := fun _ impossible => by cases impossible }
  exact (Transition.run_preserves preserved reached last
    initially).streamsEndOnce

/-- Whether nothing is left to run when the end of a game is published. -/
def endsQuietly (state : SdkState) : SdkAction → Bool
  | .work .runCommitTask =>
      match state.net.commitRunning with
      | some (.publish message) =>
          message.data.isGameActive ||
            state.isQuiet && state.net.gameDataTimer.isNone &&
              state.net.commitQueue.isEmpty
      | _ => true
  | _ => true

theorem sendsLast_of_endsQuietly (state : SdkState) (action : SdkAction)
    (quietly : state.endsQuietly action = true) : state.SendsLast action := by
  unfold SendsLast
  split
  · intro message running inactive session present known
    simp only [endsQuietly, running, inactive, Bool.false_or,
      Bool.and_eq_true, Option.isNone_iff_eq_none, List.isEmpty_iff] at quietly
    obtain ⟨⟨quiet, notArmed⟩, noneQueued⟩ := quietly
    constructor
    · rintro (armed | queued | ⟨job, inPool, -⟩)
      · rw [notArmed] at armed
        cases armed
      · rw [noneQueued] at queued
        cases queued
      · rw [isQuiet, Bool.and_eq_true] at quiet
        exact WorkerPool.not_mem_of_isIdle quiet.2 job inPool
    · exact fun row waiting => absurd waiting (not_unstored_of_isQuiet quiet row)
  · trivial

/-- A game whose last data is stored and published after its first message. -/
def endedGame : List SdkAction :=
  publishedGame ++ [.operation {} .setGameFinished, .deliver, .deliver,
    .work (.takeJob 0), .work (.runJob 0), .work (.runJob 0),
    .work (.runJob 0), .work (.runJob 0), .work (.runJob 0)] ++ messageSent

theorem gameEndsOnce_endedGame :
    ∃ final, Transition.run step {} endedGame = some final ∧
      final.stream 1 = [.scoreUpdate, .gameEnd] ∧ final.GameEndsOnce := by
  have evaluated : ((Transition.run step {} endedGame).any fun final =>
      final.stream 1 = [.scoreUpdate, .gameEnd]) = true := by
    decide +kernel
  obtain ⟨final, reached, stream⟩ := (Option.any_eq_true _ _).mp evaluated
  refine ⟨final, reached, by simpa using stream, gameEndsOnce reached ?_⟩
  exact .of_checksAlong sendsLast_of_endsQuietly (by decide +kernel)

/-- A game that finishes on another player's turn with a bonus for the first:
both submissions make for a send. -/
def bonusGame : List SdkAction :=
  publishedGame ++ [.operation {} (.setActivePlayer 2),
    .operation {} (.setScore 1 100 0), .operation {} .setGameFinished,
    .deliver, .deliver, .deliver, .work (.takeJob 0), .work (.runJob 0),
    .work (.runJob 0), .work (.takeJob 1), .work (.runJob 1),
    .work (.runJob 1)] ++ messageSent ++ messageSent

/-- The game ends twice. -/
theorem gameEndsTwice_bonusGame :
    ∃ final, Transition.run step {} bonusGame = some final ∧
      ¬ final.GameEndsOnce := by
  have evaluated : ((Transition.run step {} bonusGame).any fun final =>
      final.stream 1 = [.scoreUpdate, .gameEnd, .gameEnd]) = true := by
    decide +kernel
  obtain ⟨final, reached, stream⟩ := (Option.any_eq_true _ _).mp evaluated
  refine ⟨final, reached, fun endsOnce => ?_⟩
  obtain ⟨updates, isStream⟩ := endsOnce 1
  rw [of_decide_eq_true stream] at isStream
  rcases isStream with noEnd | oneEnd
  · have ends := congrArg (List.count .gameEnd) noEnd
    simp [List.count_replicate] at ends
  · have ends := congrArg (List.count .gameEnd) oneEnd
    simp [List.count_replicate] at ends

end SdkState

end ScorbitSdk
