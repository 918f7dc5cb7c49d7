import ScorbitSdk.PublishedOrder
import ScorbitSdk.SessionErasure

/-!
# The session table

`sessionCreate` inserts the entry of a session and the reply to its last update
erases it.  The closures of `submitGameData` store through an inserting
`operator[]` as well, so the table is sound for as long as every one of them
finds the entry of its session.
-/

namespace ScorbitSdk

/-- The session that an action inserts. -/
def NetAction.created? : NetAction → Option Nat
  | sessionCreate data _ => some data.id
  | _ => none

theorem NetAction.created?_of_isWork {action : NetAction}
    (isWork : action.isWork = true) : action.created? = none := by
  cases action <;> first | rfl | cases isWork

theorem NetCall.created?_of_netAction? {call : NetCall} {action : NetAction}
    (isAction : call.netAction? = some action) :
    call.created? = action.created? := by
  cases call <;> cases isAction <;> rfl

namespace NetState

/-- Every entry was inserted by `sessionCreate`, and no session that was erased
has one. -/
structure Table (state : NetState) (inserted : List Nat) : Prop where
  keys : ∀ id ∈ state.gameSessions, id ∈ inserted
  known : ∀ erased ∈ state.erased, erased.sessionId ∈ inserted
  gone : ∀ erased ∈ state.erased, erased.sessionId ∉ state.gameSessions

/-- A closure that stores its data finds the entry of its session. -/
def StoresKnown (state : NetState) : NetAction → Prop
  | .runJob thread => ∀ data flags,
      state.pool.threads thread = some (.submitGameData data flags) →
        data.id ∈ state.gameSessions
  | _ => True

variable {state next : NetState} {action : NetAction} {rows : List GameData}
  {inserted : List Nat}

theorem Table.insert (table : state.Table inserted) {id : Nat}
    {session : GameSession} (there : id ∈ state.gameSessions)
    (sessionsEq : next.gameSessions = state.gameSessions.insert id session)
    (erasedEq : next.erased = state.erased) : next.Table inserted where
  keys other member := by
    rw [sessionsEq, Finmap.mem_insert] at member
    rcases member with rfl | old
    · exact table.keys other there
    · exact table.keys other old
  known := erasedEq ▸ table.known
  gone := by
    rw [erasedEq, sessionsEq]
    intro erased member
    rw [Finmap.mem_insert, not_or]
    have gone := table.gone erased member
    exact ⟨fun same => gone (same ▸ there), gone⟩

/-- A session that is created now has neither been inserted nor erased. -/
theorem Table.create (table : state.Table inserted) {id : Nat}
    {session : GameSession} (fresh : id ∉ inserted)
    (sessionsEq : next.gameSessions = state.gameSessions.insert id session)
    (erasedEq : next.erased = state.erased) :
    next.Table (inserted ++ [id]) where
  keys other member := by
    rw [sessionsEq, Finmap.mem_insert] at member
    rcases member with rfl | old
    · exact List.mem_append_right _ (List.mem_singleton_self other)
    · exact List.mem_append_left _ (table.keys other old)
  known erased member :=
    List.mem_append_left _ (table.known erased (erasedEq ▸ member))
  gone := by
    rw [erasedEq, sessionsEq]
    intro erased member
    rw [Finmap.mem_insert, not_or]
    have wasInserted := table.known erased member
    exact ⟨fun same => fresh (same ▸ wasInserted), table.gone erased member⟩

theorem Table.erase (table : state.Table inserted) {erased : ErasedSession}
    (known : erased.sessionId ∈ inserted)
    (sessionsEq : next.gameSessions = state.gameSessions.erase erased.sessionId)
    (erasedEq : next.erased = state.erased ++ [erased]) :
    next.Table inserted where
  keys other member := by
    rw [sessionsEq, Finmap.mem_erase] at member
    exact table.keys other member.2
  known := by
    rw [erasedEq]
    exact List.forall_mem_append.mpr
      ⟨table.known, List.forall_mem_singleton.mpr known⟩
  gone := by
    rw [erasedEq, sessionsEq]
    refine List.forall_mem_append.mpr
      ⟨fun old member => ?_, List.forall_mem_singleton.mpr ?_⟩
    · rw [Finmap.mem_erase]
      exact fun there => table.gone old member there.2
    · rw [Finmap.mem_erase]
      exact fun there => there.1 rfl

/-- A step keeps the table when it stores into the entries that are there and
creates a session that is new. -/
theorem Table.step (table : state.Table inserted)
    (sourced : state.Sourced rows inserted)
    (storesKnown : state.StoresKnown action)
    (fresh : ∀ id, action.created? = some id → id ∉ inserted)
    (taken : Step state action next) :
    next.Table (inserted ++ action.created?.toList) := by
  have creates : (∃ data origin, action = .sessionCreate data origin) ∨
      action.created?.toList = [] := by
    cases action with
    | sessionCreate data origin => exact Or.inl ⟨data, origin, rfl⟩
    | _ => exact Or.inr rfl
  rcases creates with ⟨data, origin, rfl⟩ | noCreate
  · cases taken with
    | sessionCreate idle => exact table.create (fresh _ rfl) rfl rfl
  · rw [noCreate, List.append_nil]
    rcases taken.gameSessions_cases with
      ⟨sessionsEq, erasedEq⟩ |
        ⟨data, sessionsEq, erasedEq,
          ⟨origin, rfl⟩ | ⟨thread, flags, rfl, running⟩⟩ |
        ⟨sessionId, session, changed, present, sessionsEq, -, -, erasedEq⟩ |
        ⟨patch, attempt, sessionUuid, -, running, -, sessionsEq, erasedEq, -⟩
    · exact {
        keys := sessionsEq ▸ table.keys
        known := erasedEq ▸ table.known
        gone := erasedEq ▸ sessionsEq ▸ table.gone }
    · cases noCreate
    · exact table.insert (storesKnown data flags running) sessionsEq erasedEq
    · have there : sessionId ∈ state.gameSessions :=
        Finmap.mem_of_lookup_eq_some present
      exact table.insert there sessionsEq erasedEq
    · have known : patch.sessionId ∈ inserted :=
        sourced.running (.update patch) (by rw [running]; rfl)
      exact table.erase known sessionsEq erasedEq

end NetState

namespace SdkState

/-- The calls of the state machine that have reached `Net`. -/
def delivered (state : SdkState) : List NetCall :=
  state.game.calls.take (state.game.calls.length - state.outbox.length)

/-- The sessions that `sessionCreate` has inserted. -/
def inserted (state : SdkState) : List Nat :=
  state.delivered.filterMap NetCall.created?

/-- Every session in the table was inserted by `sessionCreate`, and no session
that an update has erased is there again. -/
structure SoundTable (state : SdkState) : Prop where
  inserted : ∀ id ∈ state.net.gameSessions, id ∈ state.inserted
  gone : ∀ erased ∈ state.net.erased,
    erased.sessionId ∉ state.net.gameSessions

/-- Every closure that stores its data finds the entry of its session. -/
def StoresKnown (state : SdkState) : SdkAction → Prop
  | .work action => state.net.StoresKnown action
  | _ => True

theorem delivered_eq {state : SdkState} {calls : List NetCall}
    (handed : state.game.calls = calls ++ state.outbox) :
    state.delivered = calls := by
  simp [delivered, handed]

/-- What the runs keep whose closures all find their sessions. -/
structure TableKept (state : SdkState) : Prop where
  valid : state.Valid
  handed : state.game.calls = state.delivered ++ state.outbox
  sourced : state.net.Sourced state.game.rows state.inserted
  table : state.net.Table state.inserted

theorem tableKept_initially : TableKept {} where
  valid := valid_initially
  handed := rfl
  sourced := valid_initially.net
  table := {
    keys := fun id member => absurd member Finmap.notMem_empty
    known := fun _ impossible => by cases impossible
    gone := fun _ impossible => by cases impossible }

/-- A session that is still to be created has not been inserted. -/
theorem TableKept.fresh {state : SdkState} (kept : state.TableKept) {id : Nat}
    (waiting : id ∈ state.outbox.filterMap NetCall.created?) :
    id ∉ state.inserted := by
  have nodup := kept.valid.game.created_nodup
  rw [GameStateRun.created, kept.handed, List.filterMap_append,
    List.nodup_append] at nodup
  intro member
  exact nodup.2.2 id member id waiting rfl

/-- A step of `Net` whose action is among the calls that have been handed over
by then. -/
theorem TableKept.netStep {state next : SdkState} {action : NetAction}
    {calls : List NetCall} (kept : state.TableKept) (valid : next.Valid)
    (gameEq : next.game = state.game)
    (handed : state.game.calls = state.delivered ++ calls ++ next.outbox)
    (createdEq : calls.filterMap NetCall.created? = action.created?.toList)
    (waiting : ∀ id, action.created? = some id →
      id ∈ state.outbox.filterMap NetCall.created?)
    (input : action.Sourced state.game.rows
      (state.inserted ++ action.created?.toList))
    (storesKnown : state.net.StoresKnown action)
    (taken : NetState.Step state.net action next.net) : next.TableKept := by
  have handedNext : next.game.calls =
      (state.delivered ++ calls) ++ next.outbox := by
    rw [gameEq, handed]
  have deliveredEq := delivered_eq handedNext
  have insertedEq : next.inserted =
      state.inserted ++ action.created?.toList := by
    rw [inserted, deliveredEq, List.filterMap_append, createdEq, inserted]
  have sourced : state.net.Sourced state.game.rows
      (state.inserted ++ action.created?.toList) :=
    kept.sourced.mono (List.Subset.refl _) (List.subset_append_left _ _)
  exact {
    valid := valid
    handed := deliveredEq.symm ▸ handedNext
    sourced := by
      rw [insertedEq, gameEq]
      exact sourced.step input taken
    table := by
      rw [insertedEq]
      exact kept.table.step kept.sourced storesKnown
        (fun id isCreated => kept.fresh (waiting id isCreated)) taken }

theorem TableKept.perform {state : SdkState} (kept : state.TableKept)
    (noCalls : state.outbox = []) (event : GameStateEvent)
    (valid : (state.perform event).Valid) : (state.perform event).TableKept := by
  have handed : (state.perform event).game.calls =
      state.delivered ++ (state.perform event).outbox := by
    change state.game.calls ++ (event.perform state.game.impl).2 = _
    rw [kept.handed, noCalls, List.append_nil]
    rfl
  have deliveredEq := delivered_eq handed
  have insertedEq : (state.perform event).inserted = state.inserted := by
    rw [inserted, deliveredEq, inserted]
  have rowsSubset : state.game.rows ⊆ (state.perform event).game.rows := by
    change _ ⊆ (state.game.record _).rows
    rw [GameStateRun.record_rows]
    exact List.subset_append_left _ _
  exact {
    valid := valid
    handed := deliveredEq.symm ▸ handed
    sourced := insertedEq.symm ▸
      kept.sourced.mono rowsSubset (List.Subset.refl _)
    table := insertedEq.symm ▸ kept.table }

theorem TableKept.step {state next : SdkState} {action : SdkAction}
    (kept : state.TableKept) (storesKnown : state.StoresKnown action)
    (taken : state.step action = some next) : next.TableKept := by
  have valid : next.Valid := step_valid kept.valid taken
  rcases step_cases taken with
    ⟨noCalls, event, net, netCases, rfl⟩ | ⟨call, outbox, outboxEq, noRow, rfl⟩ |
      ⟨call, outbox, netAction, net, outboxEq, isAction, netTaken, -, rfl⟩ |
      ⟨netAction, net, isWork, netTaken, rfl, rfl⟩
  · have middle : TableKept { state with net := net } := by
      rcases netCases with rfl | netTaken
      · exact kept
      · have input : ∀ {rows created}, NetAction.onCreated.Sourced rows created :=
          trivial
        have netValid : Valid { state with net := net } :=
          { kept.valid with net := kept.valid.net.step input netTaken }
        have handed : state.game.calls =
            state.delivered ++ [] ++ state.outbox := by
          rw [List.append_nil, kept.handed]
        exact kept.netStep netValid rfl handed rfl
          (fun _ isCreated => by cases isCreated)
          input trivial netTaken
    exact middle.perform noCalls event valid
  · have noCreate : call.created? = none := by
      cases call <;> simp_all [NetCall.row?, NetCall.created?]
    have handed : state.game.calls = state.delivered ++ [call] ++ outbox := by
      rw [kept.handed, outboxEq, List.append_assoc, List.singleton_append]
    have deliveredEq : SdkState.delivered { state with outbox := outbox } =
        state.delivered ++ [call] := delivered_eq handed
    have insertedEq : SdkState.inserted { state with outbox := outbox } =
        state.inserted := by
      simp [inserted, deliveredEq, noCreate]
    exact {
      valid := valid
      handed := deliveredEq.symm ▸ handed
      sourced := insertedEq.symm ▸ kept.sourced
      table := insertedEq.symm ▸ kept.table }
  · have createdEq := NetCall.created?_of_netAction? isAction
    have handed : state.game.calls = state.delivered ++ [call] ++ outbox := by
      rw [kept.handed, outboxEq, List.append_assoc, List.singleton_append]
    have called : call ∈ state.game.calls := by
      rw [handed]
      simp
    have input : netAction.Sourced state.game.rows
        (state.inserted ++ netAction.created?.toList) := by
      have known := NetCall.netAction_sourced called isAction
      cases call <;> cases isAction
      · exact ⟨known.1, List.mem_append_right _ (List.mem_singleton_self _)⟩
      · exact known
    have storesKnown : state.net.StoresKnown netAction := by
      cases call <;> cases isAction <;> trivial
    refine kept.netStep valid rfl handed ?_ ?_ input storesKnown netTaken
    · rw [← createdEq]
      cases isCreated : call.created? <;> simp [isCreated]
    · intro id isCreated
      rw [outboxEq]
      exact List.mem_filterMap.mpr
        ⟨call, List.mem_cons_self, createdEq.trans isCreated⟩
  · have noCreate := NetAction.created?_of_isWork isWork
    have handed : state.game.calls =
        state.delivered ++ [] ++ state.outbox := by
      rw [List.append_nil, kept.handed]
    refine kept.netStep valid rfl handed (by rw [noCreate]; rfl) ?_
      (NetAction.sourced_of_isWork isWork) storesKnown netTaken
    intro id isCreated
    rw [noCreate] at isCreated
    cases isCreated

/-- In a run whose closures all find their sessions, the table stays sound. -/
theorem soundTable {actions : List SdkAction} {final : SdkState}
    (reached : Transition.run step {} actions = some final)
    (storesKnown : Transition.HoldsAlong step StoresKnown {} actions) :
    final.SoundTable := by
  have preserved : ∀ (state : SdkState) action next, state.TableKept →
      state.StoresKnown action → state.step action = some next →
        next.TableKept :=
    fun _ _ _ kept holds taken => kept.step holds taken
  have kept := Transition.run_preserves preserved reached storesKnown
    tableKept_initially
  exact {
    inserted := kept.table.keys
    gone := kept.table.gone }

/-- Whether a closure that stores its data finds its session. -/
def storesKnown (state : SdkState) : SdkAction → Bool
  | .work (.runJob thread) =>
      match state.net.pool.threads thread with
      | some (.submitGameData data _) => decide (data.id ∈ state.net.gameSessions)
      | _ => true
  | _ => true

theorem storesKnown_sound (state : SdkState) (action : SdkAction)
    (known : state.storesKnown action = true) : state.StoresKnown action := by
  unfold StoresKnown
  split
  · rename_i netAction
    unfold NetState.StoresKnown
    split
    · intro data flags running
      simpa [storesKnown, running] using known
    · trivial
  · trivial

/-- A game whose session is erased by the reply to its update. -/
theorem soundTable_finishedGame :
    ∃ final, Transition.run step {}
        (finishedGame ++ [.work (.replySessionTask (.success none))]) =
          some final ∧ final.net.erased.length = 1 ∧ final.SoundTable := by
  have evaluated : ((Transition.run step {}
      (finishedGame ++ [.work (.replySessionTask (.success none))])).any
        fun final => final.net.erased.length = 1) = true := by
    decide +kernel
  obtain ⟨final, reached, oneErased⟩ := (Option.any_eq_true _ _).mp evaluated
  refine ⟨final, reached, by simpa using oneErased, soundTable reached ?_⟩
  exact .of_checksAlong storesKnown_sound (by decide +kernel)

/-- The closure of the bonus brings the session back that the reply to an
earlier update has erased. -/
theorem notSoundTable_storedAnewGame :
    ∃ final, Transition.run step {} storedAnewGame = some final ∧
      ¬ final.SoundTable := by
  have evaluated : ((Transition.run step {} storedAnewGame).any fun final =>
      final.net.erased.any fun erased =>
        decide (erased.sessionId ∈ final.net.gameSessions)) = true := by
    decide +kernel
  obtain ⟨final, reached, cameBack⟩ := (Option.any_eq_true _ _).mp evaluated
  obtain ⟨erased, member, there⟩ := List.any_eq_true.mp cameBack
  refine ⟨final, reached, fun sound => ?_⟩
  exact sound.gone erased member (by simpa using there)

end SdkState

end ScorbitSdk
