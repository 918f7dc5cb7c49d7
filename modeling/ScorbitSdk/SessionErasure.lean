import ScorbitSdk.SdkRuns

/-!
# Erasure of finished sessions

The reply to a session update erases the session when the data stored by then
is that of a finished game, whatever the update itself carried.  No history is
lost as long as every update whose reply erases a session carried all of it.
-/

namespace ScorbitSdk

/-- What is known of an update before it is acknowledged: with a log it reports
the state of the log's last row, and its session has been there. -/
structure NetState.Reported (state : NetState) (patch : SessionPatch) :
    Prop where
  lastRow : ∀ log, patch.logFile = some log →
    ∃ row, log.getLast? = some row ∧ patch.isActive = row.isGameActive
  known : patch.sessionId ∈ state.gameSessions ∨
    ∃ erased ∈ state.erased, erased.sessionId = patch.sessionId

namespace SdkState

/-- The server has acknowledged that the session is over, and a log of every
row that the state machine has handed over for it. -/
def HistoryUploaded (rows : List GameData) (erased : ErasedSession) : Prop :=
  (∃ patch ∈ erased.acknowledged,
    patch.sessionId = erased.sessionId ∧ patch.isActive = false) ∧
    ∃ patch ∈ erased.acknowledged, patch.sessionId = erased.sessionId ∧
      ∃ log, patch.logFile = some log ∧
        ∀ row ∈ rows, row.id = erased.sessionId → row ∈ log

def NoHistoryLost (state : SdkState) : Prop :=
  ∀ erased ∈ state.net.erased, HistoryUploaded state.game.rows erased

/-- A reply that finds its session finished answers an update that carried the
whole history stored by then, and nothing of the session is left to store. -/
def ErasesWhenComplete (state : SdkState) : SdkAction → Prop
  | .work (.replySessionTask (.success _)) =>
      ∀ patch attempt session,
        state.net.sessionRunning = some (.requested (.update patch) attempt) →
        state.net.gameSessions.lookup patch.sessionId = some session →
        session.gameData.isGameActive = false →
          patch.logFile = some session.history ∧
            ∀ row, state.Unstored row → row.id ≠ patch.sessionId
  | _ => True

/-- The game of an erased session is over and nothing of it is left to store. -/
structure Over (state : SdkState) (sessionId : Nat) : Prop where
  lastRow : ∃ row ∈ state.game.rows,
    row.id = sessionId ∧ row.isGameActive = false
  created : sessionId ≠ 0
  absent : sessionId ∉ state.net.gameSessions
  stored : ∀ row, state.Unstored row → row.id ≠ sessionId

/-- Every row is accounted for: it waits to be stored, is in the history of its
session, or was uploaded before its session was erased. -/
structure Accounted (state : SdkState) : Prop where
  lastRow : ∀ id session, state.net.gameSessions.lookup id = some session →
    session.history.getLast? = some session.gameData
  reported : ∀ patch, state.net.InPipeline patch → state.net.Reported patch
  rows : ∀ row ∈ state.game.rows, state.Unstored row ∨
    (∃ session, state.net.gameSessions.lookup row.id = some session ∧
      row ∈ session.history) ∨
    ∃ erased ∈ state.net.erased, erased.sessionId = row.id
  acknowledged : ∀ erased ∈ state.net.erased,
    erased.acknowledged ⊆ state.net.acknowledged
  isOver : ∀ erased ∈ state.net.erased, state.Over erased.sessionId
  uploaded : state.NoHistoryLost

theorem accounted_initially : Accounted {} where
  lastRow := fun id session present => by simp at present
  reported := by
    rintro patch (inPool | queued | running)
    · exact absurd inPool WorkerPool.not_mem_empty
    · cases queued
    · cases running
  rows := by simp [GameStateRun.rows]
  acknowledged := by simp
  isOver := by simp
  uploaded := by simp [NoHistoryLost]

/-- An update built from a session that is there reports its last row. -/
theorem reported_patch {state : NetState} {session : GameSession}
    (lastRow : session.history.getLast? = some session.gameData)
    {sessionId : Nat} (present : sessionId ∈ state.gameSessions)
    (flags : SessionFlags) :
    state.Reported (session.patch sessionId flags) where
  lastRow := by
    intro log isLog
    simp only [GameSession.patch, Option.ite_none_right_eq_some,
      Option.some.injEq] at isLog
    obtain ⟨-, rfl⟩ := isLog
    exact ⟨session.gameData, lastRow, rfl⟩
  known := Or.inl present

end SdkState

theorem NetState.Reported.mono {state next : NetState} {patch : SessionPatch}
    (reported : state.Reported patch)
    (kept : ∀ id ∈ state.gameSessions, id ∈ next.gameSessions ∨
      ∃ erased ∈ next.erased, erased.sessionId = id)
    (erasedSubset : state.erased ⊆ next.erased) : next.Reported patch where
  lastRow := reported.lastRow
  known := by
    rcases reported.known with present | ⟨erased, member, same⟩
    · exact kept _ present
    · exact Or.inr ⟨erased, erasedSubset member, same⟩

namespace SdkState

theorem Over.of_unstored {self next : SdkState} {sessionId : Nat}
    (isOver : self.Over sessionId) (game : next.game = self.game)
    (absent : sessionId ∉ next.net.gameSessions)
    (unstored : ∀ row, next.Unstored row → self.Unstored row) :
    next.Over sessionId where
  lastRow := game ▸ isOver.lastRow
  created := isOver.created
  absent := absent
  stored row waiting := isOver.stored row (unstored row waiting)

theorem HistoryUploaded.mono {rows : List GameData}
    {erased later : ErasedSession} (uploaded : HistoryUploaded rows erased)
    (sameSession : later.sessionId = erased.sessionId)
    (subset : erased.acknowledged ⊆ later.acknowledged) :
    HistoryUploaded rows later := by
  obtain ⟨⟨settled, settledMember, settledRest⟩,
    ⟨complete, completeMember, completeRest⟩⟩ := uploaded
  rw [HistoryUploaded, sameSession]
  exact ⟨⟨settled, subset settledMember, settledRest⟩,
    ⟨complete, subset completeMember, completeRest⟩⟩

/-- When the session is there, the reply that erases it completes its upload;
when it is not, it has been erased before. -/
theorem Accounted.erasedUploaded {self : SdkState} (valid : self.Valid)
    (accounted : self.Accounted) {patch : SessionPatch} {attempt : Nat}
    (running : self.net.sessionRunning = some (.requested (.update patch) attempt))
    (inactive : (self.net.gameSessions.entry patch.sessionId).gameData.isGameActive =
      false)
    (complete : ∀ session,
      self.net.gameSessions.lookup patch.sessionId = some session →
        patch.logFile = some session.history ∧
          ∀ row, self.Unstored row → row.id ≠ patch.sessionId) :
    HistoryUploaded self.game.rows
      { sessionId := patch.sessionId
        session := self.net.gameSessions.entry patch.sessionId
        acknowledged := self.net.acknowledged ++ [patch] } ∧
    (∃ row ∈ self.game.rows,
      row.id = patch.sessionId ∧ row.isGameActive = false) ∧
    patch.sessionId ≠ 0 ∧
    ∀ row, self.Unstored row → row.id ≠ patch.sessionId := by
  have inPipeline : self.net.InPipeline patch :=
    Or.inr (Or.inr (by rw [running]; rfl))
  have reported := accounted.reported patch inPipeline
  cases present : self.net.gameSessions.lookup patch.sessionId with
  | some session =>
      rw [GameSessions.entry_of_lookup present] at inactive ⊢
      obtain ⟨isLog, noneLeft⟩ := complete session present
      have own := valid.net.sessions _ _ present
      have known : patch.sessionId ∈ self.game.created :=
        valid.net.running (.update patch) (by rw [running]; rfl)
      have positive := valid.game.created_pos _ known
      obtain ⟨last, isLast, sameState⟩ := reported.lastRow _ isLog
      rw [accounted.lastRow _ _ present, Option.some.injEq] at isLast
      have patchMember : patch ∈ self.net.acknowledged ++ [patch] := by simp
      refine ⟨⟨⟨patch, patchMember, rfl, ?_⟩,
        ⟨patch, patchMember, rfl, _, isLog, ?_⟩⟩,
        ⟨_, own.data, own.ownData, inactive⟩, by omega, noneLeft⟩
      · rw [sameState, ← isLast, inactive]
      · intro row member sameId
        rcases accounted.rows row member with
          waiting | ⟨stored, isStored, inHistory⟩ | ⟨erased, erasedMember, same⟩
        · exact absurd sameId (noneLeft row waiting)
        · rw [sameId, present, Option.some.injEq] at isStored
          exact isStored ▸ inHistory
        · have gone := (accounted.isOver erased erasedMember).absent
          rw [same, sameId] at gone
          exact absurd (Finmap.mem_of_lookup_eq_some present) gone
  | none =>
      rcases reported.known with there | ⟨erased, member, same⟩
      · exact absurd there (Finmap.lookup_eq_none.mp present)
      · have isOver := accounted.isOver erased member
        rw [same] at isOver
        have subset : erased.acknowledged ⊆ self.net.acknowledged ++ [patch] :=
          List.Subset.trans (accounted.acknowledged erased member)
            (List.subset_append_left _ _)
        exact ⟨(accounted.uploaded erased member).mono same.symm subset,
          isOver.lastRow, isOver.created, isOver.stored⟩

section NetStep
variable {self next : SdkState} {action : SdkAction} {netAction : NetAction}

theorem Accounted.over_netStep (accounted : self.Accounted)
    (step : NetStep self action next netAction) {erased : ErasedSession}
    (member : erased ∈ self.net.erased)
    (absent : erased.sessionId ∉ next.net.gameSessions) :
    next.Over erased.sessionId :=
  (accounted.isOver erased member).of_unstored step.game absent step.unstored

theorem Accounted.acknowledged_netStep (accounted : self.Accounted)
    (step : NetStep self action next netAction) :
    ∀ erased ∈ self.net.erased, erased.acknowledged ⊆ next.net.acknowledged :=
  fun erased member => List.Subset.trans
    (accounted.acknowledged erased member) step.taken.acknowledged_subset

/-- Updates stay reported as long as no session disappears unerased. -/
theorem Accounted.reported_netStep (accounted : self.Accounted)
    (step : NetStep self action next netAction)
    (kept : ∀ id ∈ self.net.gameSessions, id ∈ next.net.gameSessions ∨
      ∃ erased ∈ next.net.erased, erased.sessionId = id)
    (subset : self.net.erased ⊆ next.net.erased) :
    ∀ patch, next.net.InPipeline patch → next.net.Reported patch := by
  intro patch inNext
  rcases step.taken.inPipeline_cases inNext with
    old | ⟨sessionId, flags, session, present, sameSessions, rfl⟩
  · exact (accounted.reported patch old).mono kept subset
  · exact (reported_patch (accounted.lastRow _ _ present)
      (Finmap.mem_of_lookup_eq_some present) flags).mono kept subset

/-- A row that waits to be stored still waits, or has been stored. -/
theorem NetStep.unstored_cases (step : NetStep self action next netAction)
    {row : GameData} (waiting : self.Unstored row) :
    next.Unstored row ∨
      (∃ session, next.net.gameSessions.lookup row.id = some session ∧
        row ∈ session.history) ∨
      ∃ erased ∈ next.net.erased, erased.sessionId = row.id := by
  rcases step.stored row waiting with waiting | stored
  · exact Or.inl waiting
  · exact Or.inr (Or.inl ⟨_, stored ▸ Finmap.lookup_insert _,
      List.mem_append_right _ (List.mem_singleton_self row)⟩)

/-- A step that erases nothing accounts for every row when it keeps the
histories and brings no erased session back. -/
theorem Accounted.netStep_of_erased_eq (accounted : self.Accounted)
    (step : NetStep self action next netAction)
    (erasedEq : next.net.erased = self.net.erased)
    (kept : ∀ id ∈ self.net.gameSessions, id ∈ next.net.gameSessions)
    (histories : ∀ (row : GameData) session,
      self.net.gameSessions.lookup row.id = some session →
        row ∈ session.history → ∃ stored,
          next.net.gameSessions.lookup row.id = some stored ∧
            row ∈ stored.history)
    (absent : ∀ erased ∈ self.net.erased,
      erased.sessionId ∉ next.net.gameSessions) : next.Accounted where
  lastRow := fun id => step.taken.lastRow (accounted.lastRow id)
  reported := accounted.reported_netStep step
    (fun id there => Or.inl (kept id there)) (erasedEq ▸ List.Subset.refl _)
  rows := by
    rw [step.game]
    intro row member
    rcases accounted.rows row member with
      waiting | ⟨session, present, inHistory⟩ | erased
    · exact step.unstored_cases waiting
    · exact Or.inr (Or.inl (histories row session present inHistory))
    · rw [erasedEq]
      exact Or.inr (Or.inr erased)
  acknowledged := erasedEq ▸ accounted.acknowledged_netStep step
  isOver := by
    rw [erasedEq]
    intro erased member
    exact accounted.over_netStep step member (absent erased member)
  uploaded := by
    rw [NoHistoryLost, step.game, erasedEq]
    exact accounted.uploaded

/-- Storing a row that waits extends the history of its session. -/
theorem Accounted.netStep_of_stored (accounted : self.Accounted)
    (step : NetStep self action next netAction) {data : GameData}
    (waiting : self.Unstored data)
    (sessionsEq : next.net.gameSessions = self.net.gameSessions.insert data.id
      ((self.net.gameSessions.entry data.id).store data self.net.stores))
    (erasedEq : next.net.erased = self.net.erased) : next.Accounted := by
  refine accounted.netStep_of_erased_eq step erasedEq
    (fun id there => sessionsEq ▸ Finmap.mem_insert.mpr (Or.inr there)) ?_ ?_
  · intro row session present inHistory
    by_cases same : row.id = data.id
    · refine ⟨(self.net.gameSessions.entry data.id).store data
        self.net.stores, by rw [sessionsEq, same, Finmap.lookup_insert], ?_⟩
      rw [← same, GameSessions.entry_of_lookup present]
      exact List.mem_append_left _ inHistory
    · exact ⟨session, sessionsEq ▸
        (Finmap.lookup_insert_of_ne _ same).trans present, inHistory⟩
  · intro erased member
    have isOver := accounted.isOver erased member
    rw [sessionsEq, Finmap.mem_insert, not_or]
    exact ⟨fun same => isOver.stored data waiting same.symm, isOver.absent⟩

/-- A session that changes in anything but its history stays accounted for. -/
theorem Accounted.netStep_of_changed (accounted : self.Accounted)
    (step : NetStep self action next netAction) {sessionId : Nat}
    {session changed : GameSession}
    (present : self.net.gameSessions.lookup sessionId = some session)
    (sessionsEq : next.net.gameSessions =
      self.net.gameSessions.insert sessionId changed)
    (historyEq : changed.history = session.history)
    (erasedEq : next.net.erased = self.net.erased) : next.Accounted := by
  have there : sessionId ∈ self.net.gameSessions :=
    Finmap.mem_of_lookup_eq_some present
  refine accounted.netStep_of_erased_eq step erasedEq
    (fun id there => sessionsEq ▸ Finmap.mem_insert.mpr (Or.inr there)) ?_ ?_
  · intro row stored isStored inHistory
    by_cases same : row.id = sessionId
    · refine ⟨changed, by rw [sessionsEq, same, Finmap.lookup_insert], ?_⟩
      rw [same, present, Option.some.injEq] at isStored
      exact historyEq ▸ isStored ▸ inHistory
    · exact ⟨stored, sessionsEq ▸
        (Finmap.lookup_insert_of_ne _ same).trans isStored, inHistory⟩
  · intro erased member
    have isOver := accounted.isOver erased member
    rw [sessionsEq, Finmap.mem_insert, not_or]
    exact ⟨fun same => isOver.absent (same ▸ there), isOver.absent⟩

theorem Accounted.netStep (valid : self.Valid) (accounted : self.Accounted)
    (complete : self.ErasesWhenComplete action)
    (step : NetStep self action next netAction) : next.Accounted := by
  rcases step.taken.gameSessions_cases with
    ⟨sessionsEq, erasedEq⟩ | ⟨data, sessionsEq, erasedEq, source⟩ |
      ⟨sessionId, session, changed, present, sessionsEq, dataEq, historyEq,
        erasedEq⟩ |
      ⟨patch, attempt, sessionUuid, actionEq, running, inactive, sessionsEq,
        erasedEq, acknowledgedEq⟩
  · exact accounted.netStep_of_erased_eq step erasedEq
      (fun id there => sessionsEq ▸ there)
      (fun row session present inHistory =>
        ⟨session, sessionsEq ▸ present, inHistory⟩)
      (fun erased member =>
        sessionsEq ▸ (accounted.isOver erased member).absent)
  · have waiting : self.Unstored data := step.storing data
      (source.imp_right fun ⟨_, flags, _, running⟩ =>
        ⟨flags, WorkerPool.mem_of_thread running⟩)
    exact accounted.netStep_of_stored step waiting sessionsEq erasedEq
  · exact accounted.netStep_of_changed step present sessionsEq historyEq
      erasedEq
  · have isReply := step.reply _ actionEq
    subst isReply
    have atOnce := complete patch attempt
    obtain ⟨uploaded, lastErased, positive, noneLeft⟩ :=
      accounted.erasedUploaded valid running inactive
        (fun session present => atOnce session running present
          (GameSessions.entry_of_lookup present ▸ inactive))
    exact {
      lastRow := fun id => step.taken.lastRow (accounted.lastRow id)
      reported := by
        refine accounted.reported_netStep step (fun id there => ?_)
          (erasedEq ▸ List.subset_append_left _ _)
        by_cases same : id = patch.sessionId
        · right
          rw [erasedEq]
          exact ⟨_, List.mem_append_right _ (List.mem_singleton_self _),
            same.symm⟩
        · exact Or.inl (sessionsEq ▸ Finmap.mem_erase.mpr ⟨same, there⟩)
      rows := by
        rw [step.game]
        intro row member
        by_cases same : row.id = patch.sessionId
        · right; right
          rw [erasedEq]
          exact ⟨_, List.mem_append_right _ (List.mem_singleton_self _),
            same.symm⟩
        rcases accounted.rows row member with
          waitingRow | ⟨session, present, inHistory⟩ | ⟨erased, old, sameId⟩
        · exact step.unstored_cases waitingRow
        · exact Or.inr (Or.inl ⟨session, sessionsEq ▸
            (Finmap.lookup_erase_ne same).trans present, inHistory⟩)
        · exact Or.inr (Or.inr
            ⟨erased, erasedEq ▸ List.mem_append_left _ old, sameId⟩)
      acknowledged := by
        rw [erasedEq, List.forall_mem_append, List.forall_mem_singleton]
        exact ⟨accounted.acknowledged_netStep step, acknowledgedEq ▸ List.Subset.refl _⟩
      isOver := by
        rw [erasedEq, List.forall_mem_append, List.forall_mem_singleton]
        constructor
        · intro erased member
          have isOver := accounted.isOver erased member
          apply accounted.over_netStep step member
          rw [sessionsEq, Finmap.mem_erase]
          exact fun there => isOver.absent there.2
        · exact {
            lastRow := step.game ▸ lastErased
            created := positive
            absent := sessionsEq ▸ Finmap.notMem_erase_self
            stored := fun row waiting =>
              noneLeft row (step.unstored row waiting) }
      uploaded := by
        rw [NoHistoryLost, step.game, erasedEq, List.forall_mem_append,
          List.forall_mem_singleton]
        exact ⟨accounted.uploaded, uploaded⟩ }

end NetStep

theorem Accounted.step {self next : SdkState} {action : SdkAction}
    (valid : self.Valid) (accounted : self.Accounted)
    (complete : self.ErasesWhenComplete action)
    (taken : self.step action = some next) : next.Accounted := by
  rcases step_cases taken with
    ⟨noCalls, event, net, netCases, rfl⟩ |
      ⟨call, outbox, outboxEq, noRow, rfl⟩ |
      ⟨call, outbox, netAction, net, outboxEq, isAction, netTaken, rfl, rfl⟩ |
      ⟨netAction, net, isWork, netTaken, rfl, rfl⟩
  · have sameNet : net.gameSessions = self.net.gameSessions ∧
        net.erased = self.net.erased ∧ net.pool = self.net.pool ∧
        net.acknowledged = self.net.acknowledged ∧
        ∀ patch, net.InPipeline patch → self.net.InPipeline patch := by
      rcases netCases with rfl | netTaken
      · exact ⟨rfl, rfl, rfl, rfl, fun _ inNext => inNext⟩
      · cases netTaken
        refine ⟨rfl, rfl, rfl, rfl, ?_⟩
        rintro patch (inPool | queued | running)
        · exact Or.inl inPool
        · exact Or.inr (Or.inl queued)
        · cases running
    obtain ⟨sessionsEq, erasedEq, poolEq, acknowledgedEq, pipeline⟩ := sameNet
    have rowsEq : (SdkState.perform { self with net := net } event).game.rows =
        self.game.rows ++ (event.perform self.game.impl).2.filterMap
          NetCall.row? := GameStateRun.record_rows _ _
    -- The rows of the event belong to no erased session: its game is over.
    have otherGame : ∀ sessionId, self.Over sessionId →
        ∀ row ∈ (event.perform self.game.impl).2.filterMap NetCall.row?,
          row.id ≠ sessionId := by
      intro sessionId isOver row member sameId
      obtain ⟨last, lastMember, lastId, lastInactive⟩ := isOver.lastRow
      rcases GameStateRun.perform_rows_fresh valid.game event row member with
        zero | fresh
      · exact isOver.created (sameId ▸ zero)
      · exact fresh last lastMember lastInactive (lastId.trans sameId.symm)
    have unstoredCases : ∀ row,
        (SdkState.perform { self with net := net } event).Unstored row →
        row ∈ (event.perform self.game.impl).2.filterMap NetCall.row? ∨
          self.Unstored row := by
      rintro row (⟨call, member, isRow⟩ | ⟨flags, member⟩)
      · exact Or.inl (List.mem_filterMap.mpr ⟨call, member, isRow⟩)
      · exact Or.inr (Or.inr ⟨flags, poolEq ▸ member⟩)
    exact {
      lastRow := sessionsEq ▸ accounted.lastRow
      reported := fun patch inNext =>
        (accounted.reported patch (pipeline patch inNext)).mono
          (fun id there => Or.inl (sessionsEq ▸ there))
          (erasedEq ▸ List.Subset.refl _)
      rows := by
        rw [rowsEq]
        intro row member
        rcases List.mem_append.mp member with old | new
        · rcases accounted.rows row old with
            (⟨call, waiting, -⟩ | ⟨flags, waiting⟩) | stored
          · rw [noCalls] at waiting
            cases waiting
          · exact Or.inl (Or.inr ⟨flags, poolEq ▸ waiting⟩)
          · exact Or.inr (sessionsEq ▸ erasedEq ▸ stored)
        · obtain ⟨call, callMember, isRow⟩ := List.mem_filterMap.mp new
          exact Or.inl (Or.inl ⟨call, callMember, isRow⟩)
      acknowledged := erasedEq ▸ acknowledgedEq ▸ accounted.acknowledged
      isOver := by
        intro erased member
        have isOver := accounted.isOver erased (erasedEq ▸ member)
        obtain ⟨last, lastMember, lastRest⟩ := isOver.lastRow
        exact {
          lastRow := ⟨last, rowsEq ▸ List.mem_append_left _ lastMember, lastRest⟩
          created := isOver.created
          absent := sessionsEq ▸ isOver.absent
          stored := fun row waiting => by
            rcases unstoredCases row waiting with new | old
            · exact otherGame _ isOver row new
            · exact isOver.stored row old }
      uploaded := by
        intro erased member
        have isOver := accounted.isOver erased (erasedEq ▸ member)
        obtain ⟨settled, patch, patchMember, sameId, log, isLog, complete⟩ :=
          accounted.uploaded erased (erasedEq ▸ member)
        refine ⟨settled, patch, patchMember, sameId, log, isLog, ?_⟩
        rw [rowsEq]
        intro row rowMember rowId
        rcases List.mem_append.mp rowMember with old | new
        · exact complete row old rowId
        · exact absurd rowId (otherGame _ isOver row new) }
  · have unstored : ∀ row, SdkState.Unstored { self with outbox := outbox } row ↔
        self.Unstored row := by
      intro row
      constructor
      · rintro (⟨waiting, member, isRow⟩ | inPool)
        · exact Or.inl
            ⟨waiting, outboxEq ▸ List.mem_cons_of_mem call member, isRow⟩
        · exact Or.inr inPool
      · rintro (⟨waiting, member, isRow⟩ | inPool)
        · rw [outboxEq, List.mem_cons] at member
          rcases member with rfl | later
          · rw [noRow] at isRow
            cases isRow
          · exact Or.inl ⟨waiting, later, isRow⟩
        · exact Or.inr inPool
    exact { accounted with
      rows := fun row member => by
        rw [unstored row]
        exact accounted.rows row member
      isOver := fun erased member =>
        (accounted.isOver erased member).of_unstored rfl
          (accounted.isOver erased member).absent
          (fun row => (unstored row).mp) }
  · exact accounted.netStep valid complete
      (netStep_deliver outboxEq isAction netTaken)
  · exact accounted.netStep valid complete (netStep_work isWork netTaken)

/-- In a run whose erasing replies all answer complete updates, no history is
lost. -/
theorem noHistoryLost {actions : List SdkAction} {final : SdkState}
    (reached : Transition.run step {} actions = some final)
    (complete : Transition.HoldsAlong step ErasesWhenComplete {} actions) :
    final.NoHistoryLost := by
  have preserved : ∀ (state : SdkState) action next,
      state.Valid ∧ state.Accounted → state.ErasesWhenComplete action →
        state.step action = some next → next.Valid ∧ next.Accounted := by
    rintro state action next ⟨valid, accounted⟩ holds taken
    exact ⟨step_valid valid taken, accounted.step valid holds taken⟩
  have kept := Transition.run_preserves preserved reached complete
    ⟨valid_initially, accounted_initially⟩
  exact kept.2.uploaded

/-- Whether the action is no reply to an update of a finished session. -/
def keepsSession (state : SdkState) : SdkAction → Bool
  | .work (.replySessionTask (.success _)) =>
      match state.net.sessionRunning with
      | some (.requested (.update patch) _) =>
          (state.net.gameSessions.entry patch.sessionId).gameData.isGameActive
      | _ => true
  | _ => true

theorem erasesWhenComplete_of_keepsSession (state : SdkState)
    (action : SdkAction) (keeps : state.keepsSession action = true) :
    state.ErasesWhenComplete action := by
  unfold ErasesWhenComplete
  split
  · intro patch attempt session running present inactive
    simp only [keepsSession, running] at keeps
    rw [GameSessions.entry_of_lookup present, inactive] at keeps
    cases keeps
  · trivial

/-- A game that is finished after its first update. -/
def finishedGame : List SdkAction :=
  startedGame ++ [.operation {} .setGameFinished, .deliver, .deliver] ++
    updateSent

/-- The log of the update that the session strand is working on. -/
def runningLog (state : SdkState) : Option GameHistory :=
  match state.net.sessionRunning with
  | some (.requested (.update patch) _) => patch.logFile
  | _ => none

/-- The history of that update's session. -/
def storedHistory (state : SdkState) : Option GameHistory :=
  match state.net.sessionRunning with
  | some (.requested (.update patch) _) =>
      (state.net.gameSessions.lookup patch.sessionId).map (·.history)
  | _ => none

theorem noHistoryLost_finishedGame :
    ∃ final, Transition.run step {}
        (finishedGame ++ [.work (.replySessionTask (.success none))]) =
          some final ∧ final.net.erased.length = 1 ∧ final.NoHistoryLost := by
  have evaluated : ((Transition.run step {}
      (finishedGame ++ [.work (.replySessionTask (.success none))])).any
        fun final => final.net.erased.length = 1) = true := by
    decide +kernel
  obtain ⟨final, reached, oneErased⟩ := (Option.any_eq_true _ _).mp evaluated
  refine ⟨final, reached, by simpa using oneErased, noHistoryLost reached ?_⟩
  refine Transition.HoldsAlong.append
    (.of_checksAlong erasesWhenComplete_of_keepsSession (by decide +kernel)) ?_
  intro middle toMiddle
  have complete : (Transition.run step {} finishedGame).map runningLog =
      (Transition.run step {} finishedGame).map storedHistory := rfl
  have quiet : (Transition.run step {} finishedGame).all isQuiet = true := by
    decide +kernel
  rw [toMiddle] at complete quiet
  intro next _
  refine ⟨?_, trivial⟩
  intro patch attempt session running present _
  constructor
  · simpa [runningLog, storedHistory, running, SessionRun.task?, present]
      using complete
  · exact fun row waiting => absurd waiting (not_unstored_of_isQuiet quiet row)

/-- A game whose first update is under way when its last data is stored. -/
def earlierUpdateGame : List SdkAction :=
  startedGame ++ [.operation {} (.setCurrentBall 2), .operation {} .commit,
    .deliver] ++ updateSent ++ [.operation {} .setGameFinished, .deliver,
    .deliver, .work (.takeJob 0), .work (.runJob 0)]

/-- The update that was sent before the game was finished is acknowledged after
the last data was stored, and the session is erased without its last row. -/
theorem historyLost_earlierUpdateGame :
    ∃ final, Transition.run step {}
        (earlierUpdateGame ++ [.work (.replySessionTask (.success none))]) =
          some final ∧ ¬ final.NoHistoryLost := by
  have evaluated : ((Transition.run step {} (earlierUpdateGame ++
      [.work (.replySessionTask (.success none))])).any fun final =>
        final.net.erased.any fun erased =>
          erased.acknowledged.all (·.isActive)) = true := by
    decide +kernel
  obtain ⟨final, reached, allActive⟩ := (Option.any_eq_true _ _).mp evaluated
  refine ⟨final, reached, fun kept => ?_⟩
  obtain ⟨erased, member, active⟩ := List.any_eq_true.mp allActive
  obtain ⟨⟨patch, patchMember, -, inactive⟩, -⟩ := kept erased member
  rw [List.all_eq_true.mp active patch patchMember] at inactive
  cases inactive

end SdkState

end ScorbitSdk
