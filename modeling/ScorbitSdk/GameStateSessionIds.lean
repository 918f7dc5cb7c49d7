import ScorbitSdk.GameStateRuns

/-!
# Session ids of submissions

The callback of a created session submits whatever the state machine holds
when the server's reply arrives.  Submissions made by operations always name
the game in progress; a callback's submission names its own game exactly when
that game is still in progress.
-/

namespace ScorbitSdk

namespace GameStateRun

/-- Every submission that the event makes names a session already given to
`Net::sessionCreate`, and the callback of a session names that session. -/
def SubmitsOwnSession (state : GameStateRun) (event : GameStateEvent) : Prop :=
  ∀ data ∈ (event.perform state.impl).2.filterMap NetCall.submitted?,
    data.id ≠ 0 ∧ data.id ∈ state.created ∧
      ∀ env id, event = .sessionCreated env id → data.id = id

/-- A callback arrives while its own game is in progress, or after the
authentication has failed. -/
def CallbackInOwnGame (state : GameStateRun) : GameStateEvent → Prop
  | .operation _ _ => True
  | .sessionCreated env id =>
      env.status = .authenticationFailed ∨
        (state.impl.data.isGameActive = true ∧ state.impl.data.id = id)

theorem submitted?_of_row? {calls : List NetCall}
    (noRows : ∀ call ∈ calls, call.row? = none) :
    calls.filterMap NetCall.submitted? = [] := by
  rw [List.filterMap_eq_nil_iff]
  intro call member
  have noRow : call.row? = none := noRows call member
  cases call <;> simp_all [NetCall.row?, NetCall.submitted?]

theorem submissions_id {prev data handed : GameData}
    (member : handed ∈
      (GameStateImpl.submissions prev data).filterMap NetCall.submitted?) :
    handed.id = data.id := by
  obtain ⟨call, callMember, handedEq⟩ := List.mem_filterMap.mp member
  obtain ⟨submitted, flags, rfl, idEq, -⟩ :=
    GameStateImpl.submissions_handOver prev data call callMember
  simp only [NetCall.submitted?, Option.some.injEq] at handedEq
  exact handedEq ▸ idEq

theorem exists_submission (prev data : GameData) :
    ∃ handed ∈
      (GameStateImpl.submissions prev data).filterMap NetCall.submitted?,
      handed.id = data.id := by
  obtain ⟨call, rest, callsEq⟩ :=
    List.exists_cons_of_ne_nil (GameStateImpl.submissions_ne_nil prev data)
  have callMember : call ∈ GameStateImpl.submissions prev data := by
    rw [callsEq]
    exact List.mem_cons_self
  obtain ⟨handed, flags, rfl, idEq, -⟩ :=
    GameStateImpl.submissions_handOver prev data call callMember
  exact ⟨handed, List.mem_filterMap.mpr ⟨_, callMember, rfl⟩, idEq⟩

theorem Valid.active_id {state : GameStateRun} (valid : state.Valid)
    (active : state.impl.data.isGameActive = true) :
    state.impl.data.id ≠ 0 ∧ state.impl.data.id ∈ state.created := by
  have member : state.impl.data.id ∈ state.created := valid.active active
  have positive : 1 ≤ state.impl.data.id := valid.created_pos _ member
  exact ⟨by omega, member⟩

theorem operation_submitsOwnSession {state : GameStateRun}
    (valid : state.Valid) (env : GameEnvironment) (op : GameStateOp) :
    SubmitsOwnSession state (.operation env op) := by
  intro handed member
  have ownId : state.impl.data.isGameActive = true →
      handed.id = state.impl.data.id →
      handed.id ≠ 0 ∧ handed.id ∈ state.created ∧
        ∀ env' id, GameStateEvent.operation env op =
          .sessionCreated env' id → handed.id = id := by
    intro active idEq
    obtain ⟨nonzero, known⟩ := valid.active_id active
    rw [idEq]
    exact ⟨nonzero, known, fun _ _ impossible => by cases impossible⟩
  rcases GameStateEvent.perform_cases state.impl (.operation env op) with
    ⟨-, noRows⟩ | starts | ⟨-, active, env', finished⟩ |
      ⟨isActive, data, idEq, -, -, submitted⟩
  · rw [submitted?_of_row? noRows] at member
    cases member
  · obtain ⟨origin, calls⟩ := starts.calls
    rw [calls] at member
    cases member
  · obtain ⟨last, idEq, -, -, -, -, callsCases⟩ :=
      GameStateImpl.setGameFinished_eq env' active
    rw [finished] at member
    rcases callsCases with calls | calls
    · rw [calls, List.filterMap_cons_none rfl] at member
      cases member
    · rw [calls, List.filterMap_cons_none rfl] at member
      exact ownId active ((submissions_id member).trans idEq)
  · rw [submitted] at member
    exact ownId (isActive ⟨env, op, rfl⟩) ((submissions_id member).trans idEq)

theorem callback_submitsOwnSession {state : GameStateRun}
    (valid : state.Valid) (env : GameEnvironment) (id : Nat) :
    SubmitsOwnSession state (.sessionCreated env id) ↔
      CallbackInOwnGame state (.sessionCreated env id) := by
  by_cases failed : env.status = .authenticationFailed
  · have noCalls : (GameStateEvent.perform state.impl
        (.sessionCreated env id)).2 = [] := by
      simp [GameStateEvent.perform, GameStateImpl.onCreated,
        GameStateImpl.submitGameData, failed]
    simp [SubmitsOwnSession, CallbackInOwnGame, noCalls, failed]
  · let data := { state.impl.data with timestamp := env.systemNow }
    have calls : (GameStateEvent.perform state.impl
        (.sessionCreated env id)).2 =
          GameStateImpl.submissions state.impl.prevData data := by
      simp [GameStateEvent.perform, GameStateImpl.onCreated,
        GameStateImpl.submitGameData, failed, data]
    constructor
    · intro own
      obtain ⟨handed, member, idEq⟩ :=
        exists_submission state.impl.prevData data
      obtain ⟨nonzero, -, sameId⟩ := own handed (calls ▸ member)
      have dataId : state.impl.data.id = handed.id := idEq.symm
      right
      constructor
      · by_contra inactive
        have zero : state.impl.data.id = 0 :=
          valid.inactive (by simpa using inactive)
        omega
      · rw [dataId, sameId env id rfl]
    · rintro (impossible | ⟨active, ownGame⟩)
      · exact absurd impossible failed
      · intro handed member
        rw [calls] at member
        have idEq : handed.id = data.id := submissions_id member
        change handed.id = state.impl.data.id at idEq
        obtain ⟨nonzero, known⟩ := valid.active_id active
        rw [idEq]
        refine ⟨nonzero, known, ?_⟩
        rintro _ _ ⟨rfl, rfl⟩
        exact ownGame

/-- Along any run, all submissions name the sessions they should exactly when
no callback arrives outside its own game. -/
theorem submitsOwnSession_iff (events : List GameStateEvent) :
    Transition.HoldsAlong step SubmitsOwnSession {} events ↔
      Transition.HoldsAlong step CallbackInOwnGame {} events := by
  refine Transition.holdsAlong_congr
    (fun _ _ _ valid taken => step_valid valid taken) ?_ valid_initially
  intro state event _ valid _
  cases event with
  | operation env op =>
      simp only [CallbackInOwnGame, iff_true]
      exact operation_submitsOwnSession valid env op
  | sessionCreated env id => exact callback_submitsOwnSession valid env id

/-- A game that is finished before the server's reply arrives submits data
without a session, and one that is restarted submits the new game's data. -/
theorem submitsOwnSession_late_reply :
    (¬ Transition.HoldsAlong step SubmitsOwnSession {}
      [.operation {} (.setGameStarted .startButton),
        .operation {} .setGameFinished, .sessionCreated {} 1]) ∧
    ¬ Transition.HoldsAlong step SubmitsOwnSession {}
      [.operation {} (.setGameStarted .startButton),
        .operation {} .setGameFinished,
        .operation {} (.setGameStarted .startButton),
        .sessionCreated {} 1] := by
  constructor
  · intro along
    have late := (((along _ rfl).2 _ rfl).2 _ rfl).1
    exact (late _ List.mem_cons_self).1 rfl
  · intro along
    have late := ((((along _ rfl).2 _ rfl).2 _ rfl).2 _ rfl).1
    have sameId := (late _ List.mem_cons_self).2.2 {} 1 rfl
    exact absurd sameId (by decide)

end GameStateRun

end ScorbitSdk
