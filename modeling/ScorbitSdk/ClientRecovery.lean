import ScorbitSdk.RetiredClients

/-!
# The centrifugo client comes back

A client that is retired leaves none behind, and the next one is made only when
the timer has expired, its handler has run and a token has been fetched.  Other
restarts, disconnects and handlers may come in between, each of which cancels
timers or makes setups of its own.
-/

namespace ScorbitSdk

namespace CentrifugoNet

/-- What goes on without the server and the application. -/
def IsOwn : ClientAction → Prop
  | .wait _ => True
  | .timerExpires => True
  | .runHandler _ => True
  | .tokenFetched => True
  | _ => False

/-- There is a client, or one is on its way: a setup fetches its token, or the
handler that sets one up is ready, or the timer waits for it. -/
def Recovers (state : CentrifugoNet) : Prop :=
  state.clients.m_centrifugo ≠ none ∨ 0 < state.fetching ∨
    .rebuild ∈ state.reconnectTimer.ready ∨
    ∃ expiry, state.reconnectTimer.wait = some (expiry, .rebuild) ∧
      expiry ≤ state.clients.now + RESTART_DELAY

variable {state next : CentrifugoNet} {action : ClientAction}

theorem recovers_of_client
    (active : state.clients.m_centrifugo ≠ none) : state.Recovers :=
  Or.inl active

theorem recovers_of_fetching (fetching : 0 < state.fetching) : state.Recovers :=
  Or.inr (Or.inl fetching)

theorem recovers_of_ready
    (ready : .rebuild ∈ state.reconnectTimer.ready) : state.Recovers :=
  Or.inr (Or.inr (Or.inl ready))

/-- Nothing but the clients' deque and the clock has changed. -/
theorem Recovers.congr (recovers : state.Recovers)
    (client : next.clients.m_centrifugo = state.clients.m_centrifugo)
    (fetching : next.fetching = state.fetching)
    (timer : next.reconnectTimer = state.reconnectTimer)
    (later : state.clients.now ≤ next.clients.now) : next.Recovers := by
  rcases recovers with active | isFetching | ready | ⟨expiry, isWait, soon⟩
  · exact recovers_of_client (client ▸ active)
  · exact recovers_of_fetching (fetching ▸ isFetching)
  · exact recovers_of_ready (timer ▸ ready)
  · exact Or.inr (Or.inr (Or.inr ⟨expiry, timer ▸ isWait, by omega⟩))

@[simp]
theorem now_pruneRetiredCentrifugoClients (clients : CentrifugoClients) :
    clients.pruneRetiredCentrifugoClients.now = clients.now :=
  rfl

@[simp]
theorem m_centrifugo_pruneRetiredCentrifugoClients
    (clients : CentrifugoClients) :
    clients.pruneRetiredCentrifugoClients.m_centrifugo = clients.m_centrifugo :=
  rfl

theorem recovers_setupAndConnectCentrifugo (state : CentrifugoNet) :
    state.setupAndConnectCentrifugo.Recovers :=
  recovers_of_fetching (Nat.succ_pos _)

theorem Recovers.onDisconnected (recovers : state.Recovers) (client : Nat)
    (code : Int) : (state.onDisconnected client code).Recovers := by
  unfold CentrifugoNet.onDisconnected
  split_ifs with other pending ended
  · exact recovers
  · -- The client is retired, and the timer waits for its successor.
    refine Or.inr (Or.inr (Or.inr ⟨_, rfl, ?_⟩))
    exact Int.le_refl _
  · have isActive : state.clients.m_centrifugo = some client :=
      not_not.mp other
    exact recovers_of_client (by simp [startReconnectTimer, isActive])
  · exact recovers

theorem recovers_restartCentrifugo (state : CentrifugoNet)
    (disconnected : Bool) : (state.restartCentrifugo disconnected).Recovers := by
  simp only [restartCentrifugo]
  split_ifs with none isDisconnected
  · exact recovers_setupAndConnectCentrifugo _
  · exact recovers_setupAndConnectCentrifugo _
  · exact recovers_of_client none

/-- The handler that is taken to run is the only one to go. -/
theorem Recovers.runHandler {index : Nat} {handler : ReconnectHandler}
    {timer : SteadyTimer ReconnectHandler} (recovers : state.Recovers)
    (taken : state.reconnectTimer.take index = some (handler, timer)) :
    ({ state with reconnectTimer := timer }.runHandler handler).Recovers := by
  obtain ⟨found, isFound, same⟩ := Option.map_eq_some_iff.mp taken
  obtain ⟨rfl, rfl⟩ := Prod.mk.inj same
  cases found with
  | rebuild =>
      simp only [CentrifugoNet.runHandler]
      split_ifs with none
      · exact recovers_of_client none
      · exact recovers_setupAndConnectCentrifugo _
  | setup client =>
      simp only [CentrifugoNet.runHandler]
      split_ifs with other
      · rcases recovers with active | fetching | ready | waits
        · exact recovers_of_client active
        · exact recovers_of_fetching fetching
        · -- Another handler has been taken than the one that sets a client up.
          apply recovers_of_ready
          obtain ⟨place, isPlace⟩ := List.mem_iff_getElem?.mp ready
          apply List.mem_eraseIdx_iff_getElem?.mpr
          refine ⟨place, ?_, isPlace⟩
          rintro rfl
          rw [isFound] at isPlace
          cases isPlace
        · exact Or.inr (Or.inr (Or.inr waits))
      · exact recovers_setupAndConnectCentrifugo _

/-- The wait that ends leaves its handler ready. -/
theorem Recovers.timerExpires {timer : SteadyTimer ReconnectHandler}
    (recovers : state.Recovers)
    (expired : state.reconnectTimer.expire state.clients.now = some timer) :
    { state with reconnectTimer := timer }.Recovers := by
  obtain ⟨expiry, handler, isWait, -, rfl⟩ := SteadyTimer.eq_of_expire expired
  rcases recovers with active | fetching | ready | ⟨_, isRebuild, -⟩
  · exact recovers_of_client active
  · exact recovers_of_fetching fetching
  · exact recovers_of_ready (List.mem_append_left _ ready)
  · apply recovers_of_ready
    rw [isWait] at isRebuild
    obtain ⟨-, rfl⟩ := Prod.mk.inj (Option.some.inj isRebuild)
    simp

theorem Recovers.step (recovers : state.Recovers)
    (taken : state.step action = some next) : next.Recovers := by
  cases action with
  | wait duration =>
      obtain rfl := Option.some.inj taken
      have later : state.clients.now ≤ state.clients.now + duration := by
        omega
      exact recovers.congr rfl rfl rfl later
  | onConnected client =>
      simp only [CentrifugoNet.step] at taken
      split at taken <;> obtain rfl := Option.some.inj taken
      · exact recovers
      · exact recovers.congr rfl rfl rfl (Int.le_refl _)
  | onDisconnected client code =>
      obtain rfl := Option.some.inj taken
      exact recovers.onDisconnected client code
  | restartCentrifugo disconnected =>
      obtain rfl := Option.some.inj taken
      exact recovers_restartCentrifugo state disconnected
  | timerExpires =>
      obtain ⟨timer, expired, rfl⟩ := Option.map_eq_some_iff.mp taken
      exact recovers.timerExpires expired
  | runHandler index =>
      obtain ⟨⟨handler, timer⟩, isTaken, rfl⟩ :=
        Option.map_eq_some_iff.mp taken
      exact recovers.runHandler isTaken
  | tokenFetched =>
      simp only [CentrifugoNet.step] at taken
      split at taken
      · cases taken
      · obtain rfl := Option.some.inj taken
        exact recovers_of_client (Option.some_ne_none _)
  | prune =>
      obtain rfl := Option.some.inj taken
      exact recovers.congr rfl rfl rfl (Int.le_refl _)

/-! ## The way back -/

/-- Own steps, no more than `bound` of them, that give a client by `deadline`. -/
def ComesBack (state : CentrifugoNet) (bound : Nat) (deadline : Int) : Prop :=
  ∃ more next, Transition.run CentrifugoNet.step state more = some next ∧
    (∀ action ∈ more, IsOwn action) ∧ more.length ≤ bound ∧
    next.clients.m_centrifugo ≠ none ∧ next.clients.now ≤ deadline

theorem comesBack_of_client {bound : Nat} {deadline : Int}
    (active : state.clients.m_centrifugo ≠ none)
    (early : state.clients.now ≤ deadline) : state.ComesBack bound deadline :=
  ⟨[], state, rfl, nofun, Nat.zero_le _, active, early⟩

theorem ComesBack.cons {bound : Nat} {deadline : Int}
    (taken : state.step action = some next) (own : IsOwn action)
    (comesBack : next.ComesBack bound deadline) :
    state.ComesBack (bound + 1) deadline := by
  obtain ⟨more, final, reached, allOwn, short, active, early⟩ := comesBack
  refine ⟨action :: more, final, Transition.run_cons.mpr ⟨next, taken, reached⟩,
    ?_, Nat.succ_le_succ short, active, early⟩
  exact List.forall_mem_cons.mpr ⟨own, allOwn⟩

theorem comesBack_of_fetching {deadline : Int} (fetching : 0 < state.fetching)
    (early : state.clients.now ≤ deadline) : state.ComesBack 1 deadline := by
  obtain ⟨fetches, isFetching⟩ := Nat.exists_eq_succ_of_ne_zero fetching.ne'
  have taken : state.step .tokenFetched = some
      { state with
        fetching := fetches
        clients := state.clients.setClient } := by
    simp [CentrifugoNet.step, isFetching]
  exact ComesBack.cons taken trivial
    (comesBack_of_client (Option.some_ne_none _) early)

theorem comesBack_of_ready {deadline : Int}
    (ready : .rebuild ∈ state.reconnectTimer.ready)
    (early : state.clients.now ≤ deadline) : state.ComesBack 2 deadline := by
  obtain ⟨index, isReady⟩ := List.mem_iff_getElem?.mp ready
  have taken : state.step (.runHandler index) = some
      ({ state with reconnectTimer :=
          { state.reconnectTimer with
            ready := state.reconnectTimer.ready.eraseIdx index }
        }.runHandler .rebuild) := by
    simp [CentrifugoNet.step, SteadyTimer.take, isReady]
  refine ComesBack.cons taken trivial ?_
  simp only [CentrifugoNet.runHandler]
  split_ifs with active
  · exact comesBack_of_client active early
  · exact comesBack_of_fetching (Nat.succ_pos _) early

theorem comesBack_of_wait {expiry deadline : Int}
    (isWait : state.reconnectTimer.wait = some (expiry, .rebuild))
    (soon : expiry ≤ deadline) (early : state.clients.now ≤ deadline) :
    state.ComesBack 4 deadline := by
  -- Nothing is waited for when the time has come already.
  let remaining := (expiry - state.clients.now).toNat
  let later : CentrifugoNet := { state with clients :=
    { state.clients with now := state.clients.now + remaining } }
  have come : expiry ≤ later.clients.now := by
    dsimp only [later, remaining]
    omega
  have inTime : later.clients.now ≤ deadline := by
    dsimp only [later, remaining]
    omega
  have expires : later.step .timerExpires = some
      { later with reconnectTimer :=
        { wait := none, ready := state.reconnectTimer.ready ++ [.rebuild] } } := by
    simp [CentrifugoNet.step, SteadyTimer.expire, later, isWait, remaining]
    omega
  have ready : ReconnectHandler.rebuild ∈
      state.reconnectTimer.ready ++ [.rebuild] := by
    simp
  have waits : state.step (.wait remaining) = some later := rfl
  exact ComesBack.cons waits trivial
    (ComesBack.cons expires trivial (comesBack_of_ready ready inTime))

theorem Recovers.comesBack (recovers : state.Recovers) :
    state.ComesBack 4 (state.clients.now + RESTART_DELAY) := by
  have early : state.clients.now ≤ state.clients.now + RESTART_DELAY := by
    rw [RESTART_DELAY]
    omega
  rcases recovers with active | fetching | ready | ⟨expiry, isWait, soon⟩
  · exact comesBack_of_client active early
  · obtain ⟨more, final, reached, own, short, ends⟩ :=
      comesBack_of_fetching fetching early
    exact ⟨more, final, reached, own, by omega, ends⟩
  · obtain ⟨more, final, reached, own, short, ends⟩ :=
      comesBack_of_ready ready early
    exact ⟨more, final, reached, own, by omega, ends⟩
  · exact comesBack_of_wait isWait soon early

/-- In every state that a run reaches there is a client, or at most four steps
of the timer, of its handlers and of a token's fetch give one, and that within
100 milliseconds, whatever restarts and disconnects have come before. -/
theorem clientComesBack {actions : List ClientAction} {final : CentrifugoNet}
    (reached : Transition.run CentrifugoNet.step {} actions = some final) :
    final.Recovers ∧ final.ComesBack 4 (final.clients.now + RESTART_DELAY) := by
  have recovers : final.Recovers := by
    apply Transition.run_invariant _ reached
    · exact recovers_of_client (Option.some_ne_none _)
    · intro state action next recovers taken
      exact recovers.step taken
  exact ⟨recovers, recovers.comesBack⟩

/-- A restart takes the first client down, and its timer begins to wait. -/
theorem clientComesBack_restart :
    ∃ final : CentrifugoNet,
      Transition.run CentrifugoNet.step {}
        [.restartCentrifugo false, .onDisconnected 0 0] = some final ∧
      final.clients.m_centrifugo = none ∧
      final.ComesBack 4 (final.clients.now + RESTART_DELAY) := by
  have reached : Transition.run CentrifugoNet.step {}
      [.restartCentrifugo false, .onDisconnected 0 0] =
        some _ := rfl
  exact ⟨_, reached, rfl, (clientComesBack reached).2⟩

end CentrifugoNet

end ScorbitSdk
