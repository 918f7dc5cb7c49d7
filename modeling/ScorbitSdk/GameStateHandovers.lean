import ScorbitSdk.GameStateRepresentation

/-!
# What commits hand over

The data handed over last is the reference that the next commit is compared
with: it decides whether anything is handed over, whether the turn or the ball
has changed, and whether the previous player got a bonus.
-/

namespace ScorbitSdk

namespace GameData

theorem beq_iff {first second : GameData} :
    (first == second) = true ↔
      first.isGameActive = second.isGameActive ∧ first.ball = second.ball ∧
        first.activePlayer = second.activePlayer ∧
        (first.modes == second.modes) = true ∧
        first.players = second.players := by
  change (_ && _) = true ↔ _
  simp only [Bool.and_eq_true, beq_iff_eq, decide_eq_true_eq, and_assoc]

theorem beq_comm (first second : GameData) :
    (first == second) = (second == first) := by
  rw [Bool.eq_iff_iff, beq_iff, beq_iff, Modes.beq_iff, Modes.beq_iff]
  constructor <;> rintro ⟨active, ball, player, modes, players⟩
  · exact ⟨active.symm, ball.symm, player.symm, modes.symm, players.symm⟩
  · exact ⟨active.symm, ball.symm, player.symm, modes.symm, players.symm⟩

theorem bne_comm (first second : GameData) :
    (first != second) = (second != first) := by
  rw [bne, bne, beq_comm]

/-- The timestamp does not count. -/
theorem stamped_beq (data : GameData) (timestamp : Int) :
    ({ data with timestamp := timestamp } == data) = true :=
  beq_iff.mpr ⟨rfl, rfl, rfl, Modes.beq_iff.mpr rfl, rfl⟩

end GameData

namespace NetCall

/-- The data and the flags of a submission. -/
def handed? : NetCall → Option (GameData × SessionFlags)
  | submitGameData data flags => some (data, flags)
  | _ => none

/-- What has been handed over since the last start, after one more call. -/
def handOver (handed : List GameData) : NetCall → List GameData
  | sessionCreate _ _ => []
  | submitGameData data _ => handed ++ [data]
  | scheduleDelayedOnWorker _ => handed
  | cancelModeExpiryTimer => handed

theorem handOver_of_row? {call : NetCall} (noRow : call.row? = none)
    (handed : List GameData) : call.handOver handed = handed := by
  cases call <;> first | rfl | cases noRow

theorem foldl_handOver_of_row? {calls : List NetCall}
    (noRows : ∀ call ∈ calls, call.row? = none) (handed : List GameData) :
    calls.foldl (fun handed call => call.handOver handed) handed = handed := by
  induction calls generalizing handed with
  | nil => rfl
  | cons call calls ih =>
      rw [List.foldl_cons, handOver_of_row? (noRows call List.mem_cons_self)]
      exact ih (fun later member => noRows later (List.mem_cons_of_mem _ member)) _

theorem handed?_of_row? {calls : List NetCall}
    (noRows : ∀ call ∈ calls, call.row? = none) :
    calls.filterMap handed? = [] := by
  rw [List.filterMap_eq_nil_iff]
  intro call member
  have noRow := noRows call member
  cases call <;> first | rfl | cases noRow

end NetCall

namespace GameStateEvent

/-- `m_data` when an event hands it over. -/
def handedData (impl : GameStateImpl) : GameStateEvent → GameData
  | operation env .setGameFinished =>
      { impl.data with
        isGameActive := false
        modes := impl.data.modes.clearExpiries
        timestamp := env.systemNow }
  | operation env _ => { impl.data with timestamp := env.systemNow }
  | sessionCreated env _ => { impl.data with timestamp := env.systemNow }

/-- The submissions that an event makes. -/
def handed (impl : GameStateImpl) (event : GameStateEvent) :
    List (GameData × SessionFlags) :=
  (event.perform impl).2.filterMap NetCall.handed?

/-- The events that would start a game or hand data over find that the
authentication has failed. -/
def Refused : GameStateEvent → Prop
  | operation env op =>
      op.isQuiet = true ∨ env.status = .authenticationFailed
  | sessionCreated env _ => env.status = .authenticationFailed

end GameStateEvent

namespace GameStateRun

/-- What has been handed over since the last start. -/
def handedInGame (state : GameStateRun) : List GameData :=
  state.calls.foldl (fun handed call => call.handOver handed) []

/-- The data handed over last since the last start, or that of `GameData{}`. -/
def lastHanded (state : GameStateRun) : GameData :=
  state.handedInGame.getLast?.getD {}

end GameStateRun

namespace GameStateImpl

theorem submissions_handed (prev data : GameData) :
    (submissions prev data).filterMap NetCall.handed? =
      match bonusData? prev data with
      | some bonus =>
          [(bonus, { uploadHistoryLogs := true }),
            (data, submissionFlags prev data true)]
      | none => [(data, submissionFlags prev data false)] := by
  cases isBonus : bonusData? prev data <;>
    simp [submissions, isBonus, NetCall.handed?]

theorem submissions_handOver_getLast? (prev data : GameData)
    (handed : List GameData) :
    ((submissions prev data).foldl
      (fun handed call => call.handOver handed) handed).getLast? =
        some data := by
  unfold submissions
  split <;> simp [NetCall.handOver]

/-- A submission hands over the data, or is refused, or has nothing new. -/
theorem submitGameData_eq (self : GameStateImpl) (env : GameEnvironment)
    (forceSending : Bool) :
    (env.status ≠ .authenticationFailed ∧
        (forceSending = true ∨ (self.prevData == self.data) = false) ∧
        self.submitGameData env forceSending =
          ({ self with
              data := { self.data with timestamp := env.systemNow }
              prevData := { self.data with timestamp := env.systemNow } },
            submissions self.prevData
              { self.data with timestamp := env.systemNow })) ∨
      ((env.status = .authenticationFailed ∨
          (self.prevData == self.data) = true) ∧
        self.submitGameData env forceSending = (self, [])) := by
  unfold submitGameData
  split
  · rename_i failed
    exact Or.inr ⟨Or.inl failed, rfl⟩
  rename_i allowed
  split
  · rename_i due
    refine Or.inl ⟨allowed, ?_, rfl⟩
    rw [isChanged, GameData.bne_comm, Bool.or_eq_true, bne, Bool.not_eq_true']
      at due
    exact due.symm
  · rename_i notDue
    refine Or.inr ⟨Or.inr ?_, rfl⟩
    rw [isChanged, GameData.bne_comm, Bool.or_eq_true, not_or, bne,
      Bool.not_eq_true', Bool.not_eq_false] at notDue
    exact notDue.1

/-- What is known of an event that hands data over. -/
structure HandsOverNow (impl : GameStateImpl) (event : GameStateEvent) :
    Prop where
  allowed : ¬ event.Refused
  calls : ∃ timers, (∀ call ∈ timers, NetCall.row? call = none) ∧
    (event.perform impl).2 =
      timers ++ submissions impl.prevData (event.handedData impl)
  prevData : (event.perform impl).1.prevData = event.handedData impl
  goesOn : (event.perform impl).1.data.isGameActive = true →
    (event.handedData impl).isGameActive = true
  data : (∀ env, event ≠ .operation env .setGameFinished) →
    (event.perform impl).1.data = event.handedData impl
  wasActive : (event.handedData impl).isGameActive = true →
    impl.data.isGameActive = true
  players : (event.handedData impl).players = impl.data.players

/-- What is known of an event that neither starts a game nor hands data
over. -/
structure HandsOverNothing (impl : GameStateImpl) (event : GameStateEvent) :
    Prop where
  calls : ∀ call ∈ (event.perform impl).2, call.row? = none
  prevData : (event.perform impl).1.prevData = impl.prevData
  goesOn : (event.perform impl).1.data.isGameActive = true →
    impl.data.isGameActive = true

theorem handsOverNothing_of_same {impl : GameStateImpl} {event : GameStateEvent}
    (same : event.perform impl = (impl, [])) : HandsOverNothing impl event where
  calls := by simp [same]
  prevData := by rw [same]
  goesOn := by simp [same]

theorem handsOverNow_of_submitted {impl : GameStateImpl}
    {event : GameStateEvent} {data : GameData} {timestamp : Int}
    (allowed : ¬ event.Refused)
    (stamped : data = { impl.data with timestamp := timestamp })
    (handedData : event.handedData impl = data)
    (submitted : event.perform impl =
      ({ impl with data := data, prevData := data },
        submissions impl.prevData data)) : HandsOverNow impl event where
  allowed := allowed
  calls := ⟨[], by simp, by rw [submitted, handedData]; rfl⟩
  prevData := by rw [submitted, handedData]
  goesOn := by simp [submitted, handedData]
  data := fun _ => by rw [submitted, handedData]
  wasActive := by simp [handedData, stamped]
  players := by rw [handedData, stamped]

/-- Finishing hands over the data of the game that is over. -/
theorem handsOverNow_of_finished {impl : GameStateImpl} {env : GameEnvironment}
    (isActive : impl.data.isGameActive = true)
    (allowed : env.status ≠ .authenticationFailed)
    (submitted : impl.ended.submitGameData env false =
      ({ impl.ended with
          data := { impl.ended.data with timestamp := env.systemNow }
          prevData := { impl.ended.data with timestamp := env.systemNow } },
        submissions impl.ended.prevData
          { impl.ended.data with timestamp := env.systemNow })) :
    HandsOverNow impl (.operation env .setGameFinished) := by
  have finished : (GameStateEvent.operation env .setGameFinished).perform impl =
      _ := setGameFinished_active env isActive
  rw [submitted] at finished
  exact {
    allowed := not_or_intro Bool.false_ne_true allowed
    calls := ⟨[.cancelModeExpiryTimer], by simp [NetCall.row?], by
      rw [finished]
      rfl⟩
    prevData := by
      rw [finished]
      rfl
    goesOn := by simp [finished]
    data := fun other => absurd rfl (other env)
    wasActive := fun impossible => by cases impossible
    players := rfl }

/-- Everything an event can do to the data handed over. -/
theorem perform_handover (impl : GameStateImpl) (event : GameStateEvent) :
    HandsOverNothing impl event ∨
      (¬ event.Refused ∧ (event.perform impl).1.prevData = {} ∧
        ∃ data origin, (event.perform impl).2 =
          [.cancelModeExpiryTimer, .sessionCreate data origin]) ∨
      HandsOverNow impl event := by
  cases event with
  | operation env op =>
      by_cases quiet : op.isQuiet = true
      · obtain ⟨update, noRows⟩ := apply_quiet env impl quiet
        exact Or.inl {
          calls := noRows
          prevData := update.prevData
          goesOn := fun active => update.isGameActive ▸ active }
      · cases op with
        | setGameStarted origin =>
            rcases setGameStarted_eq impl env origin with
              refused | ⟨-, allowed, started⟩
            · exact Or.inl (handsOverNothing_of_same refused)
            · right; left
              simp only [GameStateEvent.perform, GameStateOp.apply, started]
              exact ⟨not_or_intro Bool.false_ne_true allowed, trivial, _, _, rfl⟩
        | setGameFinished =>
            by_cases isActive : impl.data.isGameActive = true
            · have finished : (GameStateEvent.operation env
                  .setGameFinished).perform impl = _ :=
                setGameFinished_active env isActive
              rcases submitGameData_eq impl.ended env false with
                ⟨allowed, -, submitted⟩ | ⟨-, nothing⟩
              · exact Or.inr (Or.inr
                  (handsOverNow_of_finished isActive allowed submitted))
              · rw [nothing] at finished
                exact Or.inl {
                  calls := by simp [finished, NetCall.row?]
                  prevData := by
                    rw [finished]
                    rfl
                  goesOn := by simp [finished] }
            · refine Or.inl (handsOverNothing_of_same ?_)
              simp [GameStateEvent.perform, GameStateOp.apply, setGameFinished,
                isActive]
        | commit =>
            by_cases isActive : impl.data.isGameActive = true
            · have committed : (GameStateEvent.operation env .commit).perform
                  impl = impl.submitGameData env false := by
                simp [GameStateEvent.perform, GameStateOp.apply, commit,
                  isActive]
              rcases submitGameData_eq impl env false with
                ⟨allowed, -, submitted⟩ | ⟨-, nothing⟩
              · exact Or.inr (Or.inr (handsOverNow_of_submitted
                  (not_or_intro Bool.false_ne_true allowed) rfl rfl
                  (committed.trans submitted)))
              · exact Or.inl
                  (handsOverNothing_of_same (committed.trans nothing))
            · refine Or.inl (handsOverNothing_of_same ?_)
              simp [GameStateEvent.perform, GameStateOp.apply, commit, isActive]
        | _ => exact absurd rfl quiet
  | sessionCreated env id =>
      rcases submitGameData_eq impl env true with
        ⟨allowed, -, submitted⟩ | ⟨-, nothing⟩
      · exact Or.inr (Or.inr
          (handsOverNow_of_submitted allowed rfl rfl submitted))
      · exact Or.inl (handsOverNothing_of_same nothing)

/-- The active player changes and the previous one, who is still there, has got
other points. -/
def BonusDue (prev data : GameData) : Prop :=
  prev.activePlayer ≠ data.activePlayer ∧ ∃ before after,
    prev.players.lookup prev.activePlayer = some before ∧
      data.players.lookup prev.activePlayer = some after ∧
        before.score ≠ after.score

/-- A turn is over: the active player or the ball changes or the game is
finished, unless it has just been started. -/
def TurnOver (prev data : GameData) : Prop :=
  (prev.activePlayer ≠ data.activePlayer ∨ prev.ball ≠ data.ball ∨
      (prev.isGameActive = true ∧ data.isGameActive = false)) ∧
    ¬ (prev.isGameActive = false ∧ data.isGameActive = true)

theorem bonusDue_of_bonusData? {prev data bonus : GameData}
    (isBonus : bonusData? prev data = some bonus) :
    BonusDue prev data ∧
      bonus = { data with
        activePlayer := prev.activePlayer, ball := prev.ball } := by
  unfold bonusData? at isBonus
  split at isBonus
  · cases isBonus
  rename_i changed
  split at isBonus
  · cases isBonus
  split at isBonus
  · rename_i before after isBefore isAfter
    split at isBonus
    · cases isBonus
    · rename_i other
      cases isBonus
      exact ⟨⟨changed, before, after, isBefore, isAfter, other⟩, rfl⟩
  · cases isBonus

/-- Player 0 takes no part, so that the check for it changes nothing. -/
theorem bonusData?_ne_none {prev data : GameData} (valid : prev.PlayersValid)
    (due : BonusDue prev data) : bonusData? prev data ≠ none := by
  obtain ⟨changed, before, after, isBefore, isAfter, other⟩ := due
  have inRange := valid _ (Finmap.mem_of_lookup_eq_some isBefore)
  have nonzero : prev.activePlayer ≠ 0 := by omega
  simp [bonusData?, changed, nonzero, isBefore, isAfter, other]

/-- What an event hands over at once. -/
structure TurnBoundary (prev data : GameData)
    (handed : List (GameData × SessionFlags)) : Prop where
  atMostTwo : handed.length ≤ 2
  last : handed.getLast?.map (·.1) = some data
  uploads : TurnOver prev data →
    (handed.map (·.2.uploadHistoryLogs)).count true = 1
  noUploads : ¬ TurnOver prev data →
    (handed.map (·.2.uploadHistoryLogs)).count true = 0
  two : handed.length = 2 ↔ BonusDue prev data
  bonus : ∀ first second, handed = [first, second] →
    first.1 = { second.1 with
      activePlayer := prev.activePlayer, ball := prev.ball }
  playersAdd : ∀ earlier final, handed = earlier ++ [final] →
    (∀ other ∈ earlier, other.2.playersAdd = false) ∧
      (final.2.playersAdd = true ↔ prev.players.size ≠ data.players.size)

theorem submissionFlags_playersAdd (prev data : GameData) (bonus : Bool) :
    (submissionFlags prev data bonus).playersAdd = true ↔
      prev.players.size ≠ data.players.size := by
  simp [submissionFlags]

theorem submissionFlags_uploadHistoryLogs (prev data : GameData) :
    (submissionFlags prev data false).uploadHistoryLogs = true ↔
      TurnOver prev data := by
  cases wasActive : prev.isGameActive <;>
    cases isActive : data.isGameActive <;>
      simp [submissionFlags, TurnOver, wasActive, isActive]

/-- After a bonus the history has been uploaded already. -/
theorem submissionFlags_afterBonus (prev data : GameData) :
    (submissionFlags prev data true).uploadHistoryLogs = false := by
  simp [submissionFlags]

/-- There is no bonus in data that nobody has handed over. -/
theorem BonusDue.turnOver {prev data : GameData} (due : BonusDue prev data)
    (started : data.isGameActive = true →
      prev.isGameActive = true ∨ prev = {}) : TurnOver prev data := by
  refine ⟨Or.inl due.1, ?_⟩
  rintro ⟨wasInactive, isActive⟩
  rcases started isActive with wasActive | rfl
  · rw [wasInactive] at wasActive
    cases wasActive
  · obtain ⟨-, before, after, isBefore, -⟩ := due
    simp at isBefore

theorem submissions_turnBoundary {prev data : GameData}
    (valid : prev.PlayersValid)
    (started : data.isGameActive = true →
      prev.isGameActive = true ∨ prev = {}) :
    TurnBoundary prev data
      ((submissions prev data).filterMap NetCall.handed?) := by
  rw [submissions_handed]
  cases isBonus : bonusData? prev data with
  | none =>
      have notDue : ¬ BonusDue prev data := fun due =>
        bonusData?_ne_none valid due isBonus
      exact {
        atMostTwo := by simp
        last := rfl
        uploads := fun isOver => by
          simp [(submissionFlags_uploadHistoryLogs prev data).mpr isOver]
        noUploads := fun goesOn => by
          have noUpload := (submissionFlags_uploadHistoryLogs prev data).not.mpr
            goesOn
          simp [noUpload]
        two := by simp [notDue]
        bonus := by simp
        playersAdd := by
          intro earlier final split
          have one := congrArg List.length split
          simp only [List.length_append, List.length_singleton] at one
          have noEarlier : earlier = [] :=
            List.eq_nil_of_length_eq_zero (by omega)
          subst noEarlier
          simp only [List.nil_append, List.cons.injEq, and_true] at split
          exact ⟨by simp, split ▸ submissionFlags_playersAdd prev data false⟩ }
  | some bonus =>
      obtain ⟨due, bonusEq⟩ := bonusDue_of_bonusData? isBonus
      exact {
        atMostTwo := by simp
        last := rfl
        uploads := fun _ => by simp [submissionFlags_afterBonus]
        noUploads := fun goesOn => absurd (due.turnOver started) goesOn
        two := by simp [due]
        bonus := by
          intro first second both
          simp only [List.cons.injEq, and_true] at both
          obtain ⟨rfl, rfl⟩ := both
          exact bonusEq
        playersAdd := by
          intro earlier final split
          have two := congrArg List.length split
          simp only [List.length_append, List.length_cons] at two
          obtain ⟨first, rfl⟩ : ∃ first, earlier = [first] :=
            List.length_eq_one_iff.mp (by simpa using two.symm)
          simp only [List.cons_append, List.nil_append, List.cons.injEq,
            and_true] at split
          obtain ⟨rfl, rfl⟩ := split
          exact ⟨by simp, submissionFlags_playersAdd prev data true⟩ }

end GameStateImpl

namespace GameStateRun

open GameStateImpl

variable {state next : GameStateRun} {event : GameStateEvent}
  {events : List GameStateEvent}

/-- The reference of the change detection is the data handed over last. -/
structure Reference (state : GameStateRun) : Prop where
  last : state.impl.prevData = state.lastHanded
  playersValid : state.impl.prevData.PlayersValid
  started : state.impl.data.isGameActive = true →
    state.impl.prevData.isGameActive = true ∨ state.impl.prevData = {}

theorem reference_initially : Reference {} where
  last := rfl
  playersValid := fun _ present => absurd present Finmap.notMem_empty
  started := fun impossible => by cases impossible

theorem step_handedInGame (taken : state.step event = some next) :
    next.handedInGame = (event.perform state.impl).2.foldl
      (fun handed call => call.handOver handed) state.handedInGame := by
  obtain ⟨awaiting, rfl⟩ := step_record taken
  exact List.foldl_append

theorem step_impl (taken : state.step event = some next) :
    next.impl = (event.perform state.impl).1 := by
  obtain ⟨awaiting, rfl⟩ := step_record taken
  rfl

/-- What an event that hands data over leaves as the last data handed over. -/
theorem getLast?_of_handsOverNow (hands : HandsOverNow state.impl event)
    (taken : state.step event = some next) :
    next.handedInGame.getLast? = some (event.handedData state.impl) := by
  obtain ⟨timers, noRows, calls⟩ := hands.calls
  rw [step_handedInGame taken, calls, List.foldl_append,
    NetCall.foldl_handOver_of_row? noRows]
  exact submissions_handOver_getLast? _ _ _

theorem lastHanded_of_handsOverNothing
    (nothing : HandsOverNothing state.impl event)
    (taken : state.step event = some next) :
    next.lastHanded = state.lastHanded := by
  rw [GameStateRun.lastHanded, step_handedInGame taken,
    NetCall.foldl_handOver_of_row? nothing.calls, GameStateRun.lastHanded]

theorem Reference.step (reference : state.Reference) (valid : state.Valid)
    (taken : state.step event = some next) : next.Reference := by
  have implEq := step_impl taken
  rcases perform_handover state.impl event with
    nothing | ⟨-, prevEq, data, origin, calls⟩ | hands
  · exact {
      last := by
        rw [implEq, nothing.prevData, reference.last,
          lastHanded_of_handsOverNothing nothing taken]
      playersValid := by
        rw [implEq, nothing.prevData]
        exact reference.playersValid
      started := by
        rw [implEq, nothing.prevData]
        exact fun active => reference.started (nothing.goesOn active) }
  · have prevData : next.impl.prevData = {} := implEq ▸ prevEq
    exact {
      last := by
        rw [prevData, lastHanded, step_handedInGame taken, calls]
        rfl
      playersValid := by
        rw [prevData]
        exact fun _ present => absurd present Finmap.notMem_empty
      started := fun _ => Or.inr prevData }
  · have prevData : next.impl.prevData = event.handedData state.impl :=
      implEq ▸ hands.prevData
    exact {
      last := by
        rw [prevData, lastHanded, getLast?_of_handsOverNow hands taken]
        rfl
      playersValid := by
        rw [prevData, GameData.PlayersValid, hands.players]
        exact valid.playersValid
      started := by
        rw [prevData, implEq]
        exact fun active => Or.inl (hands.goesOn active) }

theorem run_reference
    (reached : Transition.run step {} events = some state) :
    state.Reference ∧ state.Valid := by
  have preserved : ∀ (state : GameStateRun) event next,
      state.Reference ∧ state.Valid → state.step event = some next →
        next.Reference ∧ next.Valid :=
    fun _ _ _ kept taken =>
      ⟨kept.1.step kept.2 taken, step_valid kept.2 taken⟩
  exact Transition.run_invariant preserved reached
    ⟨reference_initially, valid_initially⟩

theorem handed_of_handsOverNow (hands : HandsOverNow state.impl event) :
    event.handed state.impl =
      (submissions state.impl.prevData
        (event.handedData state.impl)).filterMap NetCall.handed? := by
  obtain ⟨timers, noRows, calls⟩ := hands.calls
  rw [GameStateEvent.handed, calls, List.filterMap_append,
    NetCall.handed?_of_row? noRows, List.nil_append]

/-- Whatever hands data over hands over at most two of them, uploads the
history once when a turn is over, and hands over a bonus before the rest. -/
theorem turnBoundaryLaw (reached : Transition.run step {} events = some state)
    (taken : state.step event = some next)
    (handsOver : event.handed state.impl ≠ []) :
    TurnBoundary state.lastHanded (event.handedData state.impl)
        (event.handed state.impl) ∧
      next.lastHanded = event.handedData state.impl ∧
      ((∀ env, event ≠ .operation env .setGameFinished) →
        next.impl.data = event.handedData state.impl) := by
  obtain ⟨reference, -⟩ := run_reference reached
  rcases perform_handover state.impl event with
    nothing | ⟨-, -, data, origin, calls⟩ | hands
  · exact absurd (NetCall.handed?_of_row? nothing.calls) handsOver
  · refine absurd ?_ handsOver
    rw [GameStateEvent.handed, calls]
    rfl
  · refine ⟨?_, ?_, ?_⟩
    · rw [handed_of_handsOverNow hands, ← reference.last]
      exact submissions_turnBoundary reference.playersValid
        fun active => reference.started (hands.wasActive active)
    · rw [lastHanded, getLast?_of_handsOverNow hands taken]
      rfl
    · rw [step_impl taken]
      exact hands.data

/-- A previous player gets a bonus when the next one is up. -/
def bonusTurn : List GameStateEvent :=
  [.operation {} (.setGameStarted .startButton), .sessionCreated {} 1,
    .operation {} (.setActivePlayer 2), .operation {} (.setScore 1 100 0)]

theorem turnBoundaryLaw_bonusTurn :
    ∃ state next, Transition.run step {} bonusTurn = some state ∧
      state.step (.operation {} .commit) = some next ∧
      TurnBoundary state.lastHanded
        (GameStateEvent.handedData state.impl (.operation {} .commit))
        (GameStateEvent.handed state.impl (.operation {} .commit)) ∧
      (GameStateEvent.handed state.impl (.operation {} .commit)).length = 2 := by
  have evaluated : ((Transition.run step {} bonusTurn).any fun state =>
      (GameStateEvent.handed state.impl (.operation {} .commit)).length = 2) =
        true := by
    decide +kernel
  obtain ⟨state, reached, isTwo⟩ := (Option.any_eq_true _ _).mp evaluated
  have two : (GameStateEvent.handed state.impl
      (.operation {} .commit)).length = 2 := by simpa using isTwo
  have handsOver : GameStateEvent.handed state.impl (.operation {} .commit) ≠
      [] := by
    intro nothing
    rw [nothing] at two
    cases two
  exact ⟨state, _, reached, rfl,
    (turnBoundaryLaw reached rfl handsOver).1, two⟩

/-- A commit of a game in progress hands its data over, unless that is what
was handed over last. -/
theorem commit_cases {env : GameEnvironment} (reference : state.Reference)
    (isActive : state.impl.data.isGameActive = true)
    (allowed : env.status ≠ .authenticationFailed) :
    ((state.lastHanded == state.impl.data) = false ∧
        HandsOverNow state.impl (.operation env .commit)) ∨
      ((state.lastHanded == state.impl.data) = true ∧
        (GameStateEvent.operation env .commit).perform state.impl =
          (state.impl, [])) := by
  have committed : (GameStateEvent.operation env .commit).perform state.impl =
      state.impl.submitGameData env false := by
    simp [GameStateEvent.perform, GameStateOp.apply, commit, isActive]
  rw [← reference.last]
  rcases submitGameData_eq state.impl env false with
    ⟨-, due, submitted⟩ | ⟨notDue, nothing⟩
  · exact Or.inl ⟨due.resolve_left Bool.false_ne_true,
      handsOverNow_of_submitted (not_or_intro Bool.false_ne_true allowed) rfl rfl
        (committed.trans submitted)⟩
  · exact Or.inr ⟨notDue.resolve_left allowed, committed.trans nothing⟩

/-- An event that is refused hands nothing over. -/
theorem handsOverNothing_of_refused (impl : GameStateImpl)
    (refused : event.Refused) : HandsOverNothing impl event := by
  rcases perform_handover impl event with
    nothing | ⟨allowed, -⟩ | hands
  · exact nothing
  · exact absurd refused allowed
  · exact absurd refused hands.allowed

/-- Refused events leave the reference as it is. -/
theorem lastHanded_of_refused {middle : GameStateRun}
    (refused : ∀ event ∈ events, event.Refused)
    (reached : Transition.run step middle events = some state) :
    state.lastHanded = middle.lastHanded := by
  have preserved : ∀ (state : GameStateRun) event next,
      state.lastHanded = middle.lastHanded → event.Refused →
        state.step event = some next → next.lastHanded = middle.lastHanded :=
    fun state _ _ same refused taken =>
      (lastHanded_of_handsOverNothing
        (handsOverNothing_of_refused state.impl refused) taken).trans same
  exact Transition.run_preserves preserved reached (.of_forall_mem refused) rfl

/-- After a commit that is allowed the data of the game is what was handed
over last; the commit hands it over unless it is that already, whatever has
been refused before. -/
theorem commitLaw {env : GameEnvironment}
    (reached : Transition.run step {} events = some state)
    (isActive : state.impl.data.isGameActive = true)
    (allowed : env.status ≠ .authenticationFailed)
    (taken : state.step (.operation env .commit) = some next) :
    (∃ last, next.handedInGame.getLast? = some last ∧
        (last == next.impl.data) = true) ∧
      (GameStateEvent.handed state.impl (.operation env .commit) = [] ↔
        (state.lastHanded == state.impl.data) = true) ∧
      ∀ earlier refused middle, events = earlier ++ refused →
        Transition.run step {} earlier = some middle →
        (∀ event ∈ refused, event.Refused) →
        (middle.lastHanded == state.impl.data) = false →
          (GameStateEvent.handed state.impl
            (.operation env .commit)).getLast?.map (·.1) =
              some next.impl.data := by
  obtain ⟨reference, -⟩ := run_reference reached
  have implEq := step_impl taken
  rcases commit_cases reference isActive allowed with
    ⟨changed, hands⟩ | ⟨same, nothing⟩
  · have dataEq : next.impl.data = GameStateEvent.handedData state.impl
        (.operation env .commit) := by
      rw [implEq]
      exact hands.data fun _ => nofun
    have last : (GameStateEvent.handed state.impl
        (.operation env .commit)).getLast?.map (·.1) =
          some next.impl.data := by
      rw [handed_of_handsOverNow hands, dataEq]
      exact (submissions_turnBoundary reference.playersValid
        fun active => reference.started (hands.wasActive active)).last
    refine ⟨⟨_, getLast?_of_handsOverNow hands taken, ?_⟩, ?_,
      fun _ _ _ _ _ _ _ => last⟩
    · rw [dataEq]
      exact GameData.stamped_beq _ _
    · constructor
      · intro noneHanded
        rw [noneHanded] at last
        cases last
      · intro unchanged
        rw [changed] at unchanged
        cases unchanged
  · have noneHanded : GameStateEvent.handed state.impl
        (.operation env .commit) = [] := by
      rw [GameStateEvent.handed, nothing]
      rfl
    have handedEq : next.handedInGame = state.handedInGame := by
      rw [step_handedInGame taken, nothing]
      rfl
    have dataEq : next.impl.data = state.impl.data := by
      rw [implEq, nothing]
    refine ⟨?_, by simp [noneHanded, same], ?_⟩
    · rw [handedEq, dataEq]
      cases isLast : state.handedInGame.getLast? with
      | some last =>
          rw [lastHanded, isLast] at same
          exact ⟨last, rfl, same⟩
      | none =>
          -- `GameData{}` is not the data of a game in progress.
          rw [lastHanded, isLast] at same
          have inactive := (GameData.beq_iff.mp same).1
          rw [isActive] at inactive
          cases inactive
    · intro earlier refused middle split toMiddle allRefused changed
      rw [split] at reached
      obtain ⟨between, toBetween, toState⟩ := Transition.run_append.mp reached
      rw [toMiddle, Option.some.injEq] at toBetween
      subst toBetween
      rw [← lastHanded_of_refused allRefused toState, same] at changed
      cases changed

/-- A game that is started and committed. -/
def committedGame : List GameStateEvent :=
  [.operation {} (.setGameStarted .startButton), .operation {} .commit]

/-- A score is set and its commit refused. -/
def refusedCommit : List GameStateEvent :=
  [.operation {} (.setScore 1 100 0),
    .operation { status := .authenticationFailed } .commit]

theorem commitLaw_refusedCommit :
    ∃ state next, Transition.run step {} (committedGame ++ refusedCommit) =
        some state ∧
      state.step (.operation {} .commit) = some next ∧
      (∃ last, next.handedInGame.getLast? = some last ∧
        (last == next.impl.data) = true) ∧
      (GameStateEvent.handed state.impl
        (.operation {} .commit)).getLast?.map (·.1) = some next.impl.data := by
  have evaluated : ((Transition.run step {} committedGame).any fun middle =>
      (Transition.run step middle refusedCommit).any fun state =>
        state.impl.data.isGameActive &&
          !(middle.lastHanded == state.impl.data)) = true := by
    decide +kernel
  obtain ⟨middle, toMiddle, goesOn⟩ := (Option.any_eq_true _ _).mp evaluated
  obtain ⟨state, toState, facts⟩ := (Option.any_eq_true _ _).mp goesOn
  rw [Bool.and_eq_true, Bool.not_eq_true'] at facts
  have reached : Transition.run step {} (committedGame ++ refusedCommit) =
      some state := Transition.run_append.mpr ⟨middle, toMiddle, toState⟩
  have allRefused : ∀ event ∈ refusedCommit, event.Refused := by
    simp [refusedCommit, GameStateEvent.Refused, GameStateOp.isQuiet]
  have allowed : ({} : GameEnvironment).status ≠ .authenticationFailed := by
    decide
  obtain ⟨last, -, handed⟩ := commitLaw reached facts.1 allowed rfl
  exact ⟨state, _, reached, rfl, last,
    handed _ _ middle rfl toMiddle allRefused facts.2⟩

end GameStateRun

end ScorbitSdk
