import ScorbitSdk.SteadyTimers
import ScorbitSdk.TransitionRuns
import Mathlib.Data.List.TakeWhile

/-!
# Retired centrifugo clients

A client that is replaced must outlive the callbacks of its transport, so it is
put into a deque and destroyed only when it has been there for 30 seconds.  A
setup fetches a token before it makes the new client, and other setups, timers
and disconnects may come meanwhile.  `Net` is not being destroyed.
-/

namespace ScorbitSdk

/-- In nanoseconds. -/
def CF_RETIRED_CLIENT_GRACE_PERIOD : Int := 30000000000

def RECONNECT_DELAY : Int := 10000000000

def RESTART_DELAY : Int := 100000000

structure RetiredCentrifugoClient where
  retiredAt : Int
  client : Nat
  deriving DecidableEq

/-- The handlers of the timer `CentrifugoReconnect`. -/
inductive ReconnectHandler
  | rebuild
  | setup (client : Nat)

/-- Clients are told apart by numbers in the order in which they are made, the
first one by the constructor of `Net`.  The program does not keep `replaced`:
the clients that are `m_centrifugo` no longer, each with the time at which it
was replaced. -/
structure CentrifugoClients where
  now : Int := 0
  m_centrifugo : Option Nat := some 0
  m_retiredCentrifugoClients : List RetiredCentrifugoClient := []
  made : Nat := 1
  replaced : List (Int × Nat) := []

/-- The part of `Net` that makes and retires clients; `fetching` counts the
setups that have not made their client yet. -/
structure CentrifugoNet where
  clients : CentrifugoClients := {}
  m_restartCentrifugoPending : Bool := false
  reconnectTimer : SteadyTimer ReconnectHandler := {}
  fetching : Nat := 0

inductive ClientAction
  | wait (duration : Nat)
  | onConnected (client : Nat)
  | onDisconnected (client : Nat) (code : Int)
  /-- The active client's state is what the library says. -/
  | restartCentrifugo (disconnected : Bool)
  | timerExpires
  | runHandler (index : Nat)
  | tokenFetched
  | prune

namespace CentrifugoClients

def pruneRetiredCentrifugoClients (clients : CentrifugoClients) :
    CentrifugoClients :=
  let cutoff := clients.now - CF_RETIRED_CLIENT_GRACE_PERIOD
  { clients with m_retiredCentrifugoClients :=
      clients.m_retiredCentrifugoClients.dropWhile (·.retiredAt ≤ cutoff) }

def retireCentrifugoClient (clients : CentrifugoClients) : CentrifugoClients :=
  match clients.m_centrifugo with
  | none => clients
  | some client =>
      let clients := clients.pruneRetiredCentrifugoClients
      { clients with
        m_retiredCentrifugoClients :=
          clients.m_retiredCentrifugoClients ++ [⟨clients.now, client⟩]
        m_centrifugo := none
        replaced := (clients.now, client) :: clients.replaced }

/-- Where `centrifugoSetup` sets `m_centrifugo`: the new client takes the place
of the active one, if there is one, which is destroyed. -/
def setClient (clients : CentrifugoClients) : CentrifugoClients :=
  { clients with
    m_centrifugo := some clients.made
    made := clients.made + 1
    replaced :=
      (clients.m_centrifugo.map (clients.now, ·)).toList ++ clients.replaced }

end CentrifugoClients

namespace CentrifugoNet

/-- `setupAndConnectCentrifugo`, until the token is fetched. -/
def setupAndConnectCentrifugo (state : CentrifugoNet) : CentrifugoNet :=
  { state with
    clients := state.clients.pruneRetiredCentrifugoClients
    fetching := state.fetching + 1 }

def startReconnectTimer (state : CentrifugoNet) (delay : Int)
    (handler : ReconnectHandler) : CentrifugoNet :=
  { state with reconnectTimer :=
      state.reconnectTimer.start (state.clients.now + delay) handler }

def onDisconnected (state : CentrifugoNet) (client : Nat) (code : Int) :
    CentrifugoNet :=
  if state.clients.m_centrifugo ≠ some client then state
  else if state.m_restartCentrifugoPending then
    { state with
      m_restartCentrifugoPending := false
      clients := state.clients.retireCentrifugoClient
        }.startReconnectTimer RESTART_DELAY .rebuild
  else if code = 3500 ∨ code = 3501 ∨ code = 3502 then
    state.startReconnectTimer RECONNECT_DELAY (.setup client)
  else state

def restartCentrifugo (state : CentrifugoNet) (disconnected : Bool) :
    CentrifugoNet :=
  let state := { state with reconnectTimer := state.reconnectTimer.cancel }
  if state.clients.m_centrifugo = none then
    { state with m_restartCentrifugoPending := false }.setupAndConnectCentrifugo
  else if disconnected then
    { state with
      m_restartCentrifugoPending := false
      clients := state.clients.retireCentrifugoClient
        }.setupAndConnectCentrifugo
  else { state with m_restartCentrifugoPending := true }

def runHandler (state : CentrifugoNet) : ReconnectHandler → CentrifugoNet
  | .rebuild =>
      if state.clients.m_centrifugo ≠ none then state
      else state.setupAndConnectCentrifugo
  | .setup client =>
      if state.clients.m_centrifugo ≠ some client then state
      else state.setupAndConnectCentrifugo

def step (state : CentrifugoNet) : ClientAction → Option CentrifugoNet
  | .wait duration =>
      some { state with clients :=
        { state.clients with now := state.clients.now + duration } }
  | .onConnected client =>
      if state.clients.m_centrifugo ≠ some client then some state
      else some { state with
        clients := state.clients.pruneRetiredCentrifugoClients }
  | .onDisconnected client code => some (state.onDisconnected client code)
  | .restartCentrifugo disconnected => some (state.restartCentrifugo disconnected)
  | .timerExpires =>
      (state.reconnectTimer.expire state.clients.now).map fun timer =>
        { state with reconnectTimer := timer }
  | .runHandler index =>
      (state.reconnectTimer.take index).map fun (handler, timer) =>
        { state with reconnectTimer := timer }.runHandler handler
  | .tokenFetched =>
      match state.fetching with
      | 0 => none
      | fetching + 1 =>
          some { state with fetching, clients := state.clients.setClient }
  | .prune =>
      some { state with clients := state.clients.pruneRetiredCentrifugoClients }

/-- A setup that makes its client finds no active one. -/
def OverwritesNothing (state : CentrifugoNet) : ClientAction → Prop
  | .tokenFetched => state.clients.m_centrifugo = none
  | _ => True

end CentrifugoNet

/-! ## The clients that are kept -/

namespace CentrifugoClients

/-- A client that has been replaced is alive while its grace period lasts. -/
def Kept (clients : CentrifugoClients) : Prop :=
  ∀ replacedAt client, (replacedAt, client) ∈ clients.replaced →
    clients.now < replacedAt + CF_RETIRED_CLIENT_GRACE_PERIOD →
      ∃ entry ∈ clients.m_retiredCentrifugoClients, entry.client = client

def Ordered (clients : CentrifugoClients) : Prop :=
  clients.m_retiredCentrifugoClients.Pairwise (·.retiredAt ≤ ·.retiredAt)

/-- What holds in every run: the deque is ordered, its entries have the times at
which their clients were replaced, and no client comes back. -/
structure Sound (clients : CentrifugoClients) : Prop where
  ordered : clients.Ordered
  past : ∀ entry ∈ clients.m_retiredCentrifugoClients,
    entry.retiredAt ≤ clients.now
  times : ∀ entry ∈ clients.m_retiredCentrifugoClients,
    ∀ replacedAt, (replacedAt, entry.client) ∈ clients.replaced →
      replacedAt = entry.retiredAt
  retired : ∀ entry ∈ clients.m_retiredCentrifugoClients,
    entry.client < clients.made ∧ clients.m_centrifugo ≠ some entry.client
  replaced : ∀ replacedAt client, (replacedAt, client) ∈ clients.replaced →
    client < clients.made ∧ clients.m_centrifugo ≠ some client
  active : ∀ client, clients.m_centrifugo = some client → client < clients.made

variable {clients next : CentrifugoClients}

theorem mem_of_mem_pruned {entry : RetiredCentrifugoClient}
    (member : entry ∈
      clients.pruneRetiredCentrifugoClients.m_retiredCentrifugoClients) :
    entry ∈ clients.m_retiredCentrifugoClients :=
  (List.dropWhile_suffix _).subset member

/-- Pruning keeps the clients whose grace period lasts. -/
theorem mem_pruned {entry : RetiredCentrifugoClient}
    (member : entry ∈ clients.m_retiredCentrifugoClients)
    (lasts : clients.now < entry.retiredAt + CF_RETIRED_CLIENT_GRACE_PERIOD) :
    entry ∈
      clients.pruneRetiredCentrifugoClients.m_retiredCentrifugoClients := by
  simp only [pruneRetiredCentrifugoClients]
  rw [← List.takeWhile_append_dropWhile
    (p := (·.retiredAt ≤ clients.now - CF_RETIRED_CLIENT_GRACE_PERIOD))
    (l := clients.m_retiredCentrifugoClients)] at member
  rcases List.mem_append.mp member with dropped | kept
  · have old := List.mem_takeWhile_imp dropped
    simp only [decide_eq_true_eq] at old
    omega
  · exact kept

theorem Sound.prune (sound : Sound clients) :
    Sound clients.pruneRetiredCentrifugoClients where
  ordered := sound.ordered.sublist (List.dropWhile_suffix _).sublist
  past entry member := sound.past entry (mem_of_mem_pruned member)
  times entry member := sound.times entry (mem_of_mem_pruned member)
  retired entry member := sound.retired entry (mem_of_mem_pruned member)
  replaced := sound.replaced
  active := sound.active

theorem Kept.prune (kept : Kept clients) (sound : Sound clients) :
    Kept clients.pruneRetiredCentrifugoClients := by
  intro replacedAt client replaced lasts
  obtain ⟨entry, member, rfl⟩ := kept replacedAt client replaced lasts
  have time := sound.times entry member replacedAt replaced
  exact ⟨entry, mem_pruned member (time ▸ lasts), rfl⟩

/-- Retiring the active client is pruning and then moving it into the deque. -/
theorem retireCentrifugoClient_of_active {client : Nat}
    (active : clients.m_centrifugo = some client) :
    clients.retireCentrifugoClient =
      { now := clients.now
        m_centrifugo := none
        m_retiredCentrifugoClients :=
          clients.pruneRetiredCentrifugoClients.m_retiredCentrifugoClients ++
            [⟨clients.now, client⟩]
        made := clients.made
        replaced := (clients.now, client) :: clients.replaced } := by
  unfold retireCentrifugoClient
  rw [active]
  rfl

theorem Sound.retire (sound : Sound clients) :
    Sound clients.retireCentrifugoClient := by
  cases active : clients.m_centrifugo with
  | none => rwa [retireCentrifugoClient, active]
  | some client =>
      have pruned := sound.prune
      rw [retireCentrifugoClient_of_active active]
      refine ⟨?_, ?_, ?_, ?_, ?_, nofun⟩
      · refine List.pairwise_append.mpr
          ⟨pruned.ordered, List.pairwise_singleton .., ?_⟩
        intro entry member last isLast
        obtain rfl := List.mem_singleton.mp isLast
        exact pruned.past entry member
      · intro entry member
        rcases List.mem_append.mp member with before | isLast
        · exact pruned.past entry before
        · obtain rfl := List.mem_singleton.mp isLast
          exact Int.le_refl _
      · intro entry member replacedAt replaced
        rcases List.mem_append.mp member with before | isLast
        · rcases List.mem_cons.mp replaced with same | earlier
          · obtain ⟨-, sameClient⟩ := Prod.mk.inj same
            apply absurd active
            rw [← sameClient]
            exact (pruned.retired entry before).2
          · exact pruned.times entry before replacedAt earlier
        · obtain rfl := List.mem_singleton.mp isLast
          rcases List.mem_cons.mp replaced with same | earlier
          · exact (Prod.mk.inj same).1
          · exact absurd active (sound.replaced replacedAt client earlier).2
      · intro entry member
        refine ⟨?_, nofun⟩
        rcases List.mem_append.mp member with before | isLast
        · exact (pruned.retired entry before).1
        · obtain rfl := List.mem_singleton.mp isLast
          exact sound.active client active
      · intro replacedAt other replaced
        refine ⟨?_, nofun⟩
        rcases List.mem_cons.mp replaced with same | earlier
        · rw [(Prod.mk.inj same).2]
          exact sound.active client active
        · exact (sound.replaced replacedAt other earlier).1

theorem Kept.retire (kept : Kept clients) (sound : Sound clients) :
    Kept clients.retireCentrifugoClient := by
  cases active : clients.m_centrifugo with
  | none => rwa [retireCentrifugoClient, active]
  | some client =>
      rw [retireCentrifugoClient_of_active active]
      intro replacedAt other replaced lasts
      rcases List.mem_cons.mp replaced with same | earlier
      · exact ⟨⟨clients.now, client⟩, List.mem_append_right _ (by simp),
          (Prod.mk.inj same).2.symm⟩
      · obtain ⟨entry, member, rfl⟩ :=
          kept.prune sound replacedAt other earlier lasts
        exact ⟨entry, List.mem_append_left _ member, rfl⟩

theorem Sound.wait (sound : Sound clients) (duration : Nat) :
    Sound { clients with now := clients.now + duration } where
  ordered := sound.ordered
  past entry member := by
    have := sound.past entry member
    dsimp only
    omega
  times := sound.times
  retired := sound.retired
  replaced := sound.replaced
  active := sound.active

theorem Kept.wait (kept : Kept clients) (duration : Nat) :
    Kept { clients with now := clients.now + duration } := by
  intro replacedAt client replaced lasts
  exact kept replacedAt client replaced (by dsimp only at lasts; omega)

theorem mem_replaced_setClient {replacedAt : Int} {client : Nat} :
    (replacedAt, client) ∈ clients.setClient.replaced ↔
      (clients.m_centrifugo = some client ∧ replacedAt = clients.now) ∨
        (replacedAt, client) ∈ clients.replaced := by
  simp only [setClient, List.mem_append, Option.mem_toList,
    Option.map_eq_some_iff, Prod.mk.injEq]
  constructor
  · rintro (⟨_, active, now, rfl⟩ | earlier)
    · exact Or.inl ⟨active, now.symm⟩
    · exact Or.inr earlier
  · rintro (⟨active, rfl⟩ | earlier)
    · exact Or.inl ⟨client, active, rfl, rfl⟩
    · exact Or.inr earlier

theorem Sound.setClient (sound : Sound clients) : Sound clients.setClient where
  ordered := sound.ordered
  past := sound.past
  times entry member replacedAt replaced := by
    rcases mem_replaced_setClient.mp replaced with ⟨active, -⟩ | earlier
    · exact absurd active (sound.retired entry member).2
    · exact sound.times entry member replacedAt earlier
  retired entry member := by
    have old := (sound.retired entry member).1
    refine ⟨Nat.lt_succ_of_lt old, fun isNew => ?_⟩
    have := Option.some.inj isNew
    omega
  replaced replacedAt client replaced := by
    have old : client < clients.made := by
      rcases mem_replaced_setClient.mp replaced with ⟨active, -⟩ | earlier
      · exact sound.active client active
      · exact (sound.replaced replacedAt client earlier).1
    refine ⟨Nat.lt_succ_of_lt old, fun isNew => ?_⟩
    have := Option.some.inj isNew
    omega
  active client isNew := by
    obtain rfl := Option.some.inj isNew
    exact Nat.lt_succ_self _

/-- Setting `m_centrifugo` keeps all clients just if there is none active. -/
theorem kept_setClient_iff (kept : Kept clients) (sound : Sound clients) :
    Kept clients.setClient ↔ clients.m_centrifugo = none := by
  constructor
  · intro keptNext
    cases active : clients.m_centrifugo with
    | none => rfl
    | some client =>
        have replaced : (clients.now, client) ∈ clients.setClient.replaced :=
          mem_replaced_setClient.mpr (Or.inl ⟨active, rfl⟩)
        have lasts : clients.now <
            clients.now + CF_RETIRED_CLIENT_GRACE_PERIOD := by
          rw [CF_RETIRED_CLIENT_GRACE_PERIOD]
          omega
        obtain ⟨entry, member, same⟩ := keptNext _ client replaced lasts
        apply absurd active
        rw [← same]
        exact (sound.retired entry member).2
  · intro noneActive replacedAt client replaced lasts
    rcases mem_replaced_setClient.mp replaced with ⟨active, -⟩ | earlier
    · rw [noneActive] at active
      exact nomatch active
    · exact kept replacedAt client earlier lasts

/-- What the steps do that make no client. -/
inductive Tidies (clients : CentrifugoClients) : CentrifugoClients → Prop
  | refl : Tidies clients clients
  | wait (duration : Nat) :
      Tidies clients { clients with now := clients.now + duration }
  | prune {middle : CentrifugoClients} (before : Tidies clients middle) :
      Tidies clients middle.pruneRetiredCentrifugoClients
  | retire {middle : CentrifugoClients} (before : Tidies clients middle) :
      Tidies clients middle.retireCentrifugoClient

theorem Tidies.sound (tidies : Tidies clients next) (sound : Sound clients) :
    Sound next := by
  induction tidies with
  | refl => exact sound
  | wait duration => exact sound.wait duration
  | prune _ ih => exact ih.prune
  | retire _ ih => exact ih.retire

theorem Tidies.kept (tidies : Tidies clients next) (sound : Sound clients)
    (kept : Kept clients) : Kept next := by
  induction tidies with
  | refl => exact kept
  | wait duration => exact kept.wait duration
  | prune before ih => exact ih.prune (before.sound sound)
  | retire before ih => exact ih.retire (before.sound sound)

end CentrifugoClients

namespace CentrifugoNet

open CentrifugoClients

variable {state next : CentrifugoNet} {action : ClientAction}

theorem tidies_onDisconnected (client : Nat) (code : Int) :
    Tidies state.clients (state.onDisconnected client code).clients := by
  unfold onDisconnected
  split_ifs
  · exact .refl
  · exact .retire .refl
  · exact .refl
  · exact .refl

theorem tidies_restartCentrifugo (disconnected : Bool) :
    Tidies state.clients (state.restartCentrifugo disconnected).clients := by
  simp only [restartCentrifugo]
  split_ifs
  · exact .prune .refl
  · exact .prune (.retire .refl)
  · exact .refl

theorem tidies_runHandler (state : CentrifugoNet) (handler : ReconnectHandler) :
    Tidies state.clients (state.runHandler handler).clients := by
  cases handler with
  | rebuild =>
      simp only [runHandler]
      split_ifs
      · exact .refl
      · exact .prune .refl
  | setup client =>
      simp only [runHandler]
      split_ifs
      · exact .refl
      · exact .prune .refl

/-- What a step does to the clients. -/
theorem step_clients (taken : state.step action = some next) :
    Tidies state.clients next.clients ∨
      (action = .tokenFetched ∧ next.clients = state.clients.setClient) := by
  cases action with
  | wait duration =>
      obtain rfl := Option.some.inj taken
      exact Or.inl (.wait duration)
  | onConnected client =>
      simp only [step] at taken
      split at taken <;> obtain rfl := Option.some.inj taken
      · exact Or.inl .refl
      · exact Or.inl (.prune .refl)
  | onDisconnected client code =>
      obtain rfl := Option.some.inj taken
      exact Or.inl (tidies_onDisconnected client code)
  | restartCentrifugo disconnected =>
      obtain rfl := Option.some.inj taken
      exact Or.inl (tidies_restartCentrifugo disconnected)
  | timerExpires =>
      obtain ⟨timer, -, rfl⟩ := Option.map_eq_some_iff.mp taken
      exact Or.inl .refl
  | runHandler index =>
      obtain ⟨⟨handler, timer⟩, -, rfl⟩ := Option.map_eq_some_iff.mp taken
      exact Or.inl
        (tidies_runHandler { state with reconnectTimer := timer } handler)
  | tokenFetched =>
      simp only [step] at taken
      split at taken
      · exact nomatch taken
      · obtain rfl := Option.some.inj taken
        exact Or.inr ⟨rfl, rfl⟩
  | prune =>
      obtain rfl := Option.some.inj taken
      exact Or.inl (.prune .refl)

theorem step_sound (sound : Sound state.clients)
    (taken : state.step action = some next) : Sound next.clients := by
  rcases step_clients taken with tidies | ⟨-, set⟩
  · exact tidies.sound sound
  · rw [set]
    exact sound.setClient

theorem step_kept_iff (sound : Sound state.clients) (kept : Kept state.clients)
    (taken : state.step action = some next) :
    Kept next.clients ↔ state.OverwritesNothing action := by
  cases action with
  | tokenFetched =>
      simp only [step] at taken
      split at taken
      · exact nomatch taken
      · obtain rfl := Option.some.inj taken
        exact kept_setClient_iff kept sound
  | _ =>
      refine iff_of_true ?_ trivial
      rcases step_clients taken with tidies | ⟨isSetup, -⟩
      · exact tidies.kept sound kept
      · exact nomatch isSetup

/-- Along a run every replaced client lives as long as its grace period, and the
deque stays ordered, just if no setup overwrites an active client. -/
theorem keepsReplaced_iff (actions : List ClientAction) :
    Transition.HoldsAlong step
        (fun state action => ∀ next, state.step action = some next →
          next.clients.Kept ∧ next.clients.Ordered) {} actions ↔
      Transition.HoldsAlong step OverwritesNothing {} actions := by
  have sound : Sound ({} : CentrifugoNet).clients :=
    ⟨List.Pairwise.nil, nofun, nofun, nofun, nofun, fun client isFirst => by
      obtain rfl := Option.some.inj isFirst
      exact Nat.zero_lt_one⟩
  have exact : ∀ (state : CentrifugoNet) action next,
      Sound state.clients ∧ Kept state.clients →
      state.step action = some next →
        (Sound next.clients ∧ Kept next.clients ↔
          state.OverwritesNothing action) := by
    intro state action next holds taken
    rw [← step_kept_iff holds.1 holds.2 taken]
    exact and_iff_right (step_sound holds.1 taken)
  rw [← Transition.holdsAlong_kept_iff exact ⟨sound, nofun⟩]
  refine Transition.holdsAlong_congr
    (fun state action next holds taken => step_sound holds taken) ?_ sound
  intro state action next holds _
  constructor
  · intro kept other taken
    exact ⟨step_sound holds taken, (kept other taken).1⟩
  · intro kept other taken
    exact ⟨(kept other taken).2, (kept other taken).1.ordered⟩

/-- The server ends the connection with the code 3500; ten seconds later the
timer's handler sets up another client. -/
def reconnectsAfter3500 : List ClientAction :=
  [.onDisconnected 0 3500, .wait 10000000000, .timerExpires, .runHandler 0,
    .tokenFetched]

/-- The first client is gone at once. -/
theorem notKept_reconnectsAfter3500 :
    ∃ final, Transition.run step {} reconnectsAfter3500 = some final ∧
      ¬ final.clients.Kept := by
  have evaluated : ((Transition.run step {} reconnectsAfter3500).any
      fun final => decide (final.clients.now = 10000000000) &&
        decide (final.clients.replaced = [(10000000000, 0)]) &&
          decide (final.clients.m_retiredCentrifugoClients = [])) = true := by
    decide +kernel
  obtain ⟨final, reached, lost⟩ := (Option.any_eq_true _ _).mp evaluated
  simp only [Bool.and_eq_true, decide_eq_true_eq] at lost
  obtain ⟨⟨now, replaced⟩, deque⟩ := lost
  refine ⟨final, reached, fun kept => ?_⟩
  obtain ⟨entry, member, -⟩ := kept 10000000000 0 (by rw [replaced]; simp)
    (by rw [now]; decide)
  rw [deque] at member
  exact List.not_mem_nil member

end CentrifugoNet

end ScorbitSdk
