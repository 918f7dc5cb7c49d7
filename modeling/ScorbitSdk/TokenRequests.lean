import ScorbitSdk.GameData
import ScorbitSdk.HttpDates
import ScorbitSdk.JsonWriting
import ScorbitSdk.SigningKeys
import ScorbitSdk.TransitionRuns

/-!
# Token requests

An `authenticate` task asks for the server's time, resolves the keys where there
is no signer yet, and sends token requests until it is told a token or has to
give up.  A device is started again and again with the same configuration, and
its application stores what it is given.

Several tasks may be under way, and nothing but the schedule keeps them from the
keys that another one is at: there is no lock while a task resolves the keys,
while it provisions them anew, and between its signature and the request that
carries it.
-/

namespace ScorbitSdk

open BoundedMemory ByteArrays HttpDates

/-- Where the task of `createAuthenticateTask` stands, with the number of the
round of its loop. -/
inductive AuthPoint
  | serverTime (attempt : Nat)
  | resolve
  /-- In `resolveKeys`. -/
  | resolving
  | request (attempt : Nat)
  /-- The signer has signed, and the request is to be made. -/
  | signed (attempt : Nat) (signer : Signer) (signature : List Char)
  | reply (attempt : Nat)
  /-- In `reprovisionSoftKey`, which has forgotten the key. -/
  | reprovision (attempt : Nat)

/-- The program does not keep `answered`, the number of the task's requests that
have been answered. -/
structure AuthTask where
  normalAuthentication : Bool
  timestamp : List Char := []
  point : AuthPoint := .serverTime 0
  answered : Nat := 0

/-- The task is at the keys. -/
def AuthTask.inKeys (task : AuthTask) : Bool :=
  match task.point with
  | .resolving => true
  | .signed _ _ _ => true
  | .reprovision _ => true
  | _ => false

/-- The part of `Net` that authenticates. -/
structure AuthNet where
  keys : SigningKeys
  m_status : AuthStatus := .notAuthenticated
  m_isRefreshingToken : Bool := false
  m_stoken : List Char := []
  m_stop : Bool := false
  tasks : List AuthTask := []

/-- The body of a token request. -/
structure TokenRequest where
  provider : List Char
  uuid : List Char
  timestamp : List Char
  signature : List Char

/-- A request that has been sent, the signer that signed it, the number of times
that the device had not been found by then, and the number of the requests of the
same task that had been answered. -/
structure SentTokenRequest where
  request : TokenRequest
  signer : Signer
  notFounds : Nat
  answered : Nat

/-- What lasts while the SDK is started and ended.  The program keeps `store`
only: the rest are the provisionings that the server has confirmed, the requests
that have been sent, the newest first, and the number of the replies that made
the device forget its key. -/
structure SigningDevice (Random : Type) where
  store : List Char := []
  net : Option AuthNet := none
  provisionings : List (ProvisioningCalls Random) := []
  requests : List SentTokenRequest := []
  notFounds : Nat := 0

/-- What a step of a task meets: the date in a reply's header, the clock of the
device, what the resolvers meet, a signature by the application or the TPM, and
the status and the token of the reply. -/
structure AuthInputs (Random : Type) where
  date : List Char
  localTime : Int
  calls : KeyCalls Random
  signRandom : Random
  external : List Byte
  statusCode : Int
  token : Option (List Char)

/-- Other tasks set the status and the flag, and ask for authentication. -/
inductive AuthAction (Random : Type)
  | start
  | exit
  | stop
  | interfere (status : AuthStatus) (isRefreshingToken : Bool)
  | authenticate
  | run (index : Nat) (inputs : AuthInputs Random)

/-- The libraries, and the configuration of the device. -/
structure SigningSystem (Random : Type) where
  libraries : SoftKeyLibraries Random
  parseUuid : List Char → List Char
  config : SoftKeyDeviceInfo
  signerCallback : Bool

/-- What a task leaves behind. -/
structure AuthResult (Random : Type) where
  device : SigningDevice Random
  net : AuthNet
  left : Option AuthTask := none

/-- `std::to_string`. -/
def timeText (time : Int) : List Char :=
  if time < 0 then '-' :: decimal time.natAbs else decimal time.natAbs

namespace AuthNet

/-- The statements that give up. -/
def fail (net : AuthNet) : AuthNet :=
  { net with m_status := .authenticationFailed, m_isRefreshingToken := false }

/-- A reply with the status 200 has come; reading the token may throw. -/
def readToken (net : AuthNet) (normalAuthentication : Bool) :
    Option (List Char) → AuthNet
  | none => net.fail
  | some token =>
      { net with
        m_stoken := token
        m_status :=
          if normalAuthentication then .authenticatedCheckingPairing
          else net.m_status }

/-- The task at an index has gone on. -/
def goOn (net : AuthNet) (index : Nat) : Option AuthTask → AuthNet
  | none => { net with tasks := net.tasks.eraseIdx index }
  | some task => { net with tasks := net.tasks.set index task }

/-- A task begins; one that authenticates waits until no other one does. -/
def authenticate (net : AuthNet) : Option AuthNet :=
  let normalAuthentication := !net.m_isRefreshingToken
  if normalAuthentication then
    if net.tasks.any (·.normalAuthentication) then none
    else if net.m_status ≠ .notAuthenticated then some net
    else
      some { net with
        m_status := .authenticating
        m_isRefreshingToken := true
        tasks := net.tasks ++ [{ normalAuthentication }] }
  else some { net with tasks := net.tasks ++ [{ normalAuthentication }] }

@[simp]
theorem keys_fail (net : AuthNet) : net.fail.keys = net.keys :=
  rfl

@[simp]
theorem keys_readToken (net : AuthNet) (normalAuthentication : Bool)
    (token : Option (List Char)) :
    (net.readToken normalAuthentication token).keys = net.keys := by
  cases token <;> rfl

@[simp]
theorem keys_goOn (net : AuthNet) (index : Nat) (left : Option AuthTask) :
    (net.goOn index left).keys = net.keys := by
  cases left <;> rfl

theorem length_goOn (net : AuthNet) (index : Nat) (left : Option AuthTask) :
    (net.goOn index left).tasks.length ≤ net.tasks.length := by
  cases left with
  | none => exact List.length_eraseIdx_le ..
  | some left => exact List.length_set.le

theorem mem_goOn {net : AuthNet} {index : Nat} {left : Option AuthTask}
    {task : AuthTask} (member : task ∈ (net.goOn index left).tasks) :
    task ∈ net.tasks ∨ left = some task := by
  cases left with
  | none => exact Or.inl (List.mem_of_mem_eraseIdx member)
  | some left =>
      rcases List.mem_or_eq_of_mem_set member with old | rfl
      · exact Or.inl old
      · exact Or.inr rfl

theorem mem_authenticate {net next : AuthNet}
    (began : net.authenticate = some next) {task : AuthTask}
    (member : task ∈ next.tasks) :
    task ∈ net.tasks ∨ ∃ normalAuthentication, task = { normalAuthentication } := by
  simp only [authenticate] at began
  split_ifs at began <;> obtain rfl := Option.some.inj began
  · exact Or.inl member
  · exact (List.mem_append.mp member).imp_right fun isNew =>
      ⟨_, List.mem_singleton.mp isNew⟩
  · exact (List.mem_append.mp member).imp_right fun isNew =>
      ⟨_, List.mem_singleton.mp isNew⟩

theorem keys_authenticate {net next : AuthNet}
    (began : net.authenticate = some next) : next.keys = net.keys := by
  simp only [authenticate] at began
  split_ifs at began <;> obtain rfl := Option.some.inj began
  · rfl
  · rfl
  · rfl

end AuthNet

namespace SigningSystem

variable {Random : Type} (system : SigningSystem Random)

/-- `sb_create_game_state`. -/
def createNet : AuthNet where
  keys :=
    { m_deviceInfo := system.config
      m_keyResolvers :=
        if system.signerCallback then [.signer]
        else [.nfcTpm, .softKey .fresh] }

section Points

variable (device : SigningDevice Random) (net : AuthNet) (task : AuthTask)
variable (inputs : AuthInputs Random)

/-- The noop request, where the loop has not ended. -/
def requestServerTime (attempt : Nat) : AuthResult Random :=
  if 10 ≤ attempt ∨ net.m_stop = true then
    { device, net
      left := some { task with
        timestamp := timeText inputs.localTime, point := .resolve } }
  else
    let timestampUtc := parseHttpDateToUnixTimestamp inputs.date
    if 1770153380 < timestampUtc then
      { device, net
        left := some { task with
          timestamp := timeText timestampUtc, point := .resolve } }
    else
      { device, net
        left := some { task with point := .serverTime (attempt + 1) } }

/-- What provisioning meets, at the time that the task knows. -/
def keyCalls : KeyCalls Random :=
  { inputs.calls with
    provisioning :=
      { inputs.calls.provisioning with serverTimestamp := task.timestamp } }

def settle (outcome : KeyOutcome) : SigningDevice Random :=
  { device with
    store := outcome.store
    provisionings := confirmedBy (keyCalls task inputs).provisioning
      outcome.provisioned device.provisionings }

def resolve : AuthResult Random :=
  if net.keys.m_signer.isNone && !net.keys.m_keyResolvers.isEmpty then
    { device, net, left := some { task with point := .resolving } }
  else { device, net, left := some { task with point := .request 0 } }

def resolving : Option (AuthResult Random) := do
  let outcome ← net.keys.resolveKeys system.libraries system.parseUuid
    (keyCalls task inputs) device.store
  let device := settle device task inputs outcome
  let net := { net with keys := outcome.keys }
  if outcome.returned then
    some { device, net, left := some { task with point := .request 0 } }
  else some { device, net := { net with m_status := .authenticationFailed } }

/-- Calling an empty signer throws. -/
def signRequest (attempt : Nat) : Option (AuthResult Random) := do
  let signer ← net.keys.m_signer
  let signature ← getSignature system.libraries inputs.signRandom
    inputs.external signer net.keys.m_deviceInfo.uuid task.timestamp
  if signature = [] then some { device, net := net.fail }
  else
    some
      { device
        net
        left := some { task with point := .signed attempt signer signature } }

/-- The request has the device's UUID as it is by now. -/
def sendRequest (attempt : Nat) (signer : Signer) (signature : List Char) :
    AuthResult Random :=
  let request : TokenRequest :=
    { provider := net.keys.m_deviceInfo.provider
      uuid := net.keys.m_deviceInfo.uuid
      timestamp := task.timestamp
      signature }
  let sent : SentTokenRequest :=
    { request
      signer
      notFounds := device.notFounds
      answered := task.answered }
  { device := { device with requests := sent :: device.requests }
    net
    left := some { task with point := .reply attempt } }

/-- The task when a reply has come. -/
def readReply : AuthTask :=
  let parsedTimestamp := parseHttpDateToUnixTimestamp inputs.date
  { task with
    timestamp :=
      if 0 < parsedTimestamp then timeText parsedTimestamp else task.timestamp
    answered :=
      if inputs.statusCode = 0 then task.answered else task.answered + 1 }

def handleReply (attempt : Nat) : AuthResult Random :=
  if net.m_stop then { device, net := net.fail }
  else
    let task := readReply task inputs
    if inputs.statusCode = 200 then
      { device, net := net.readToken task.normalAuthentication inputs.token }
    else if inputs.statusCode = 400 ∧ attempt < 10 then
      { device, net, left := some { task with point := .request (attempt + 1) } }
    else if inputs.statusCode = 404 ∧
        net.keys.m_deviceInfo.hasSoftKeyProvisioning = true then
      { device := { device with
          store := [], notFounds := device.notFounds + 1 }
        net := { net with keys := { net.keys with m_signer := none } }
        left := some { task with point := .reprovision attempt } }
    else if inputs.statusCode = 0 then
      { device, net, left := some { task with point := .request (attempt + 1) } }
    else { device, net := net.fail }

def reprovision (attempt : Nat) : Option (AuthResult Random) := do
  let outcome ← net.keys.reprovisionSoftKey system.libraries system.parseUuid
    (keyCalls task inputs) device.store
  let device := settle device task inputs outcome
  let net := { net with keys := outcome.keys }
  if outcome.returned ∧ attempt < 10 then
    some
      { device, net, left := some { task with point := .request (attempt + 1) } }
  else some { device, net := net.fail }

/-- Nothing where an exception leaves the task. -/
def runTask : Option (AuthResult Random) :=
  match task.point with
  | .serverTime attempt =>
      some (requestServerTime device net task inputs attempt)
  | .resolve => some (resolve device net task)
  | .resolving => system.resolving device net task inputs
  | .request attempt => system.signRequest device net task inputs attempt
  | .signed attempt signer signature =>
      some (sendRequest device net task attempt signer signature)
  | .reply attempt => some (handleReply device net task inputs attempt)
  | .reprovision attempt => system.reprovision device net task inputs attempt

end Points

/-- The step of a task at one of these points may bring it to the keys. -/
def entersKeys (point : AuthPoint) (inputs : AuthInputs Random) : Bool :=
  match point with
  | .resolve => true
  | .request _ => true
  | .reply _ => inputs.statusCode = 404
  | _ => false

/-- A task that may come to the keys finds no other one there. -/
def keysApart (device : SigningDevice Random) : AuthAction Random → Bool
  | .run index inputs =>
      match device.net with
      | none => true
      | some net =>
          match net.tasks[index]? with
          | none => true
          | some task => !entersKeys task.point inputs ||
              (net.tasks.eraseIdx index).all (!·.inKeys)
  | _ => true

/-- An exception that leaves a task ends the process. -/
def step (device : SigningDevice Random) :
    AuthAction Random → Option (SigningDevice Random)
  | .start =>
      match device.net with
      | none => some { device with net := some system.createNet }
      | some _ => none
  | .exit => some { device with net := none }
  | .stop => do
      let net ← device.net
      some { device with net := some { net with m_stop := true } }
  | .interfere status isRefreshingToken => do
      let net ← device.net
      some { device with
        net := some { net with
          m_status := status, m_isRefreshingToken := isRefreshingToken } }
  | .authenticate => do
      let net ← (← device.net).authenticate
      some { device with net := some net }
  | .run index inputs => do
      let net ← device.net
      let task ← net.tasks[index]?
      match system.runTask device net task inputs with
      | none => some { device with net := none }
      | some result =>
          some { result.device with
            net := some (result.net.goOn index result.left) }

/-! ## What a step of a task does -/

/-- What is signed with a generated key is verified with the other one. -/
structure Correct : Prop where
  libraries : system.libraries.Correct
  verifies : ∀ keyRandom signRandom digest signature,
    (system.libraries.crypto.generateEcdsaKeyPair keyRandom).1 = true →
      system.libraries.crypto.ecdsaSign signRandom
        (system.libraries.crypto.generateEcdsaKeyPair keyRandom).2.2 digest =
          some signature →
        system.libraries.crypto.ecdsaVerify
          (system.libraries.crypto.generateEcdsaKeyPair keyRandom).2.1 digest
            signature = true

/-- What a step of a task does to the keys, to what is stored and to what is
sent, and whether the task is at the keys after it. -/
inductive Effect (device : SigningDevice Random) (net : AuthNet)
    (task : AuthTask) (inputs : AuthInputs Random) : AuthResult Random → Prop
  | unchanged {next : AuthNet} {left : Option AuthTask}
      (keys : next.keys = net.keys)
      (away : ∀ left', left = some left' → left'.inKeys = false) :
      Effect device net task inputs { device, net := next, left }
  | resolving (enters : entersKeys task.point inputs = true)
      (noSigner : net.keys.m_signer = none) :
      Effect device net task inputs
        { device, net, left := some { task with point := .resolving } }
  | resolved {outcome : KeyOutcome} {next : AuthNet} {left : Option AuthTask}
      (isPoint : task.point = .resolving)
      (returned : net.keys.resolveKeys system.libraries system.parseUuid
        (keyCalls task inputs) device.store = some outcome)
      (keys : next.keys = outcome.keys)
      (away : ∀ left', left = some left' → left'.inKeys = false) :
      Effect device net task inputs
        { device := settle device task inputs outcome, net := next, left }
  | signed {attempt : Nat} {signer : Signer} {signature : List Char}
      (enters : entersKeys task.point inputs = true)
      (isSigner : net.keys.m_signer = some signer)
      (isSignature : getSignature system.libraries inputs.signRandom
        inputs.external signer net.keys.m_deviceInfo.uuid task.timestamp =
          some signature)
      (nonempty : signature ≠ []) :
      Effect device net task inputs
        { device, net
          left := some { task with point := .signed attempt signer signature } }
  | sent {attempt : Nat} {signer : Signer} {signature : List Char}
      (isPoint : task.point = .signed attempt signer signature) :
      Effect device net task inputs
        (sendRequest device net task attempt signer signature)
  | forgotten {attempt : Nat} {next : AuthNet} {left : AuthTask}
      (enters : entersKeys task.point inputs = true)
      (keys : next.keys = { net.keys with m_signer := none })
      (isPoint : left.point = .reprovision attempt) :
      Effect device net task inputs
        { device := { device with
            store := [], notFounds := device.notFounds + 1 }
          net := next
          left := some left }
  | reprovisioned {attempt : Nat} {outcome : KeyOutcome} {next : AuthNet}
      {left : Option AuthTask} (isPoint : task.point = .reprovision attempt)
      (returned : net.keys.reprovisionSoftKey system.libraries system.parseUuid
        (keyCalls task inputs) device.store = some outcome)
      (keys : next.keys = outcome.keys)
      (away : ∀ left', left = some left' → left'.inKeys = false) :
      Effect device net task inputs
        { device := settle device task inputs outcome, net := next, left }

variable {system}
variable {device next : SigningDevice Random} {net : AuthNet} {task : AuthTask}
variable {inputs : AuthInputs Random} {result : AuthResult Random}

theorem effect_requestServerTime (attempt : Nat) :
    Effect system device net task inputs
      (requestServerTime device net task inputs attempt) := by
  unfold requestServerTime
  dsimp only
  split_ifs
  · exact .unchanged rfl fun _ isLeft => Option.some.inj isLeft ▸ rfl
  · exact .unchanged rfl fun _ isLeft => Option.some.inj isLeft ▸ rfl
  · exact .unchanged rfl fun _ isLeft => Option.some.inj isLeft ▸ rfl

theorem effect_resolve (isPoint : task.point = .resolve) :
    Effect system device net task inputs (resolve device net task) := by
  unfold resolve
  split_ifs with asks
  · simp only [Bool.and_eq_true, Option.isNone_iff_eq_none] at asks
    exact .resolving (by rw [isPoint]; rfl) asks.1
  · exact .unchanged rfl fun _ isLeft => Option.some.inj isLeft ▸ rfl

theorem effect_resolving (isPoint : task.point = .resolving)
    (ran : system.resolving device net task inputs = some result) :
    Effect system device net task inputs result := by
  obtain ⟨outcome, returned, rest⟩ := Option.bind_eq_some_iff.mp ran
  split_ifs at rest <;> obtain rfl := Option.some.inj rest
  · exact .resolved isPoint returned rfl
      fun _ isLeft => Option.some.inj isLeft ▸ rfl
  · exact .resolved isPoint returned rfl nofun

theorem effect_signRequest {attempt : Nat} (isPoint : task.point = .request attempt)
    (ran : system.signRequest device net task inputs attempt = some result) :
    Effect system device net task inputs result := by
  obtain ⟨signer, isSigner, ran⟩ := Option.bind_eq_some_iff.mp ran
  obtain ⟨signature, isSignature, rest⟩ := Option.bind_eq_some_iff.mp ran
  split_ifs at rest with empty <;> obtain rfl := Option.some.inj rest
  · exact .unchanged rfl nofun
  · exact .signed (by rw [isPoint]; rfl) isSigner isSignature empty

theorem effect_handleReply {attempt : Nat} (isPoint : task.point = .reply attempt) :
    Effect system device net task inputs
      (handleReply device net task inputs attempt) := by
  unfold handleReply
  dsimp only
  split_ifs with stopped isOk isRetried isNotFound isError
  · exact .unchanged rfl nofun
  · exact .unchanged (AuthNet.keys_readToken _ _ _) nofun
  · exact .unchanged rfl fun _ isLeft => Option.some.inj isLeft ▸ rfl
  · have enters : entersKeys task.point inputs = true := by
      rw [isPoint]
      exact decide_eq_true isNotFound.1
    exact .forgotten enters rfl rfl
  · exact .unchanged rfl fun _ isLeft => Option.some.inj isLeft ▸ rfl
  · exact .unchanged rfl nofun

theorem effect_reprovision {attempt : Nat}
    (isPoint : task.point = .reprovision attempt)
    (ran : system.reprovision device net task inputs attempt = some result) :
    Effect system device net task inputs result := by
  obtain ⟨outcome, returned, rest⟩ := Option.bind_eq_some_iff.mp ran
  split_ifs at rest <;> obtain rfl := Option.some.inj rest
  · exact .reprovisioned isPoint returned rfl
      fun _ isLeft => Option.some.inj isLeft ▸ rfl
  · exact .reprovisioned isPoint returned rfl nofun

theorem runTask_effect
    (ran : system.runTask device net task inputs = some result) :
    Effect system device net task inputs result := by
  unfold runTask at ran
  split at ran
  · obtain rfl := Option.some.inj ran
    exact effect_requestServerTime _
  · next isPoint =>
    obtain rfl := Option.some.inj ran
    exact effect_resolve isPoint
  · next isPoint => exact effect_resolving isPoint ran
  · next isPoint => exact effect_signRequest isPoint ran
  · next isPoint =>
    obtain rfl := Option.some.inj ran
    exact .sent isPoint
  · next isPoint =>
    obtain rfl := Option.some.inj ran
    exact effect_handleReply isPoint
  · next isPoint => exact effect_reprovision isPoint ran

/-- The process has the tasks that it had. -/
theorem tasks_runTask
    (ran : system.runTask device net task inputs = some result) :
    result.net.tasks = net.tasks := by
  unfold runTask at ran
  split at ran
  · obtain rfl := Option.some.inj ran
    unfold requestServerTime
    dsimp only
    split_ifs <;> rfl
  · obtain rfl := Option.some.inj ran
    unfold resolve
    split_ifs <;> rfl
  · obtain ⟨outcome, -, rest⟩ := Option.bind_eq_some_iff.mp ran
    split_ifs at rest <;> obtain rfl := Option.some.inj rest <;> rfl
  · obtain ⟨signer, -, ran⟩ := Option.bind_eq_some_iff.mp ran
    obtain ⟨signature, -, rest⟩ := Option.bind_eq_some_iff.mp ran
    split_ifs at rest <;> obtain rfl := Option.some.inj rest <;> rfl
  · obtain rfl := Option.some.inj ran
    rfl
  · obtain rfl := Option.some.inj ran
    unfold handleReply
    dsimp only
    split_ifs
    · rfl
    · cases inputs.token <;> rfl
    all_goals rfl
  · obtain ⟨outcome, -, rest⟩ := Option.bind_eq_some_iff.mp ran
    split_ifs at rest <;> obtain rfl := Option.some.inj rest <;> rfl

/-! ## Requests and the key that is stored -/

/-- The request is verified with a public key that the server has confirmed for
the UUID the request names. -/
def Verifies (system : SigningSystem Random)
    (provisionings : List (ProvisioningCalls Random)) (request : TokenRequest) :
    Prop :=
  ∃ calls ∈ provisionings, ∃ confirmed,
    ProvisioningClient.readConfirmed system.libraries.texts calls.confirmReply =
      some confirmed ∧
    request.uuid = normalizeUuid system.parseUuid confirmed.uuid ∧
    ∃ signature, request.signature = hex signature ∧
      system.libraries.crypto.ecdsaVerify
        (system.libraries.crypto.generateEcdsaKeyPair calls.keyRandom).2.1
        (signedDigest system.libraries request.uuid request.timestamp)
        signature = true

/-- The request has been made with the key that is stored. -/
def IsCurrent (system : SigningSystem Random) (device : SigningDevice Random)
    (request : TokenRequest) (resolver : SoftKeyResolver) : Prop :=
  ∃ uuid, IsStored system.libraries system.config device.provisionings
      device.store resolver uuid ∧
    request.uuid = normalizeUuid system.parseUuid uuid

def KeysSound (system : SigningSystem Random) (device : SigningDevice Random)
    (keys : SigningKeys) : Prop :=
  SameConfig system.config keys.m_deviceInfo ∧
    keys.InStep system.libraries system.parseUuid system.config
      device.provisionings device.store

/-- What holds of the requests that have been signed with soft keys. -/
structure LogSound (system : SigningSystem Random)
    (device : SigningDevice Random) : Prop where
  storeSound : StoreSound system.libraries system.config device.provisionings
    device.store
  verified : ∀ sent ∈ device.requests, ∀ resolver,
    sent.signer = .softKey resolver →
      Verifies system device.provisionings sent.request
  past : ∀ sent ∈ device.requests, sent.notFounds ≤ device.notFounds
  current : ∀ sent ∈ device.requests, ∀ resolver,
    sent.signer = .softKey resolver → sent.notFounds = device.notFounds →
      IsCurrent system device sent.request resolver
  agree : ∀ first ∈ device.requests, ∀ second ∈ device.requests,
    ∀ firstKey secondKey, first.signer = .softKey firstKey →
      second.signer = .softKey secondKey → first.notFounds = second.notFounds →
        firstKey = secondKey ∧ first.request.uuid = second.request.uuid

theorem Verifies.mono {provisionings more : List (ProvisioningCalls Random)}
    {request : TokenRequest} (verifies : Verifies system provisionings request)
    (subset : provisionings ⊆ more) : Verifies system more request := by
  obtain ⟨calls, member, rest⟩ := verifies
  exact ⟨calls, subset member, rest⟩

/-- A soft key that is in step with what is stored signs for its own device. -/
theorem verifies_sent (correct : system.Correct) {sent : SentTokenRequest}
    {signRandom : Random} {external : List Byte} {resolver : SoftKeyResolver}
    (current : IsCurrent system device sent.request resolver)
    (isSoft : sent.signer = .softKey resolver)
    (signature : getSignature system.libraries signRandom external sent.signer
      sent.request.uuid sent.request.timestamp = some sent.request.signature)
    (nonempty : sent.request.signature ≠ []) :
    Verifies system device.provisionings sent.request := by
  obtain ⟨_, ⟨calls, confirmed, password, stored, rfl, rfl⟩, isUuid⟩ := current
  refine ⟨calls, stored.provisioned, confirmed, stored.isConfirmed, isUuid, ?_⟩
  obtain ⟨bytes, isBytes, isHex⟩ := Option.bind_eq_some_iff.mp signature
  rw [isSoft] at isBytes
  have signs := SoftKeyResolver.createSigner_savedRecord correct.libraries
    stored.generated system.config password confirmed signRandom
    (signedDigest system.libraries sent.request.uuid sent.request.timestamp)
  rw [Signer.sign, signs, Option.some.injEq] at isBytes
  obtain isHex := Option.some.inj isHex
  cases signed : system.libraries.crypto.ecdsaSign signRandom
      (system.libraries.crypto.generateEcdsaKeyPair calls.keyRandom).2.2
      (signedDigest system.libraries sent.request.uuid
        sent.request.timestamp) with
  | none =>
      rw [signed, Option.getD_none] at isBytes
      rw [← isHex, ← isBytes] at nonempty
      exact absurd rfl nonempty
  | some made =>
      rw [signed, Option.getD_some] at isBytes
      refine ⟨made, ?_, ?_⟩
      · rw [← isHex, isBytes]
      · exact correct.verifies _ _ _ _ stored.generated signed

theorem IsCurrent.unique (correct : system.Correct) {first second : TokenRequest}
    {firstKey secondKey : SoftKeyResolver}
    (isFirst : IsCurrent system device first firstKey)
    (isSecond : IsCurrent system device second secondKey) :
    firstKey = secondKey ∧ first.uuid = second.uuid := by
  obtain ⟨firstUuid, firstStored, isFirstUuid⟩ := isFirst
  obtain ⟨secondUuid, secondStored, isSecondUuid⟩ := isSecond
  obtain ⟨sameKey, rfl⟩ := firstStored.unique correct.libraries secondStored
  exact ⟨sameKey, isFirstUuid.trans isSecondUuid.symm⟩

/-- A key that a resolver stores takes the place of none that has been used. -/
theorem LogSound.settle (correct : system.Correct) (log : LogSound system device)
    {outcome : KeyOutcome}
    (sound : outcome.Sound system.libraries system.parseUuid system.config
      (confirmedBy (keyCalls task inputs).provisioning outcome.provisioned
        device.provisionings) device.store) :
    LogSound system (settle device task inputs outcome) where
  storeSound := sound.storeSound
  verified sent member resolver isSoft :=
    (log.verified sent member resolver isSoft).mono (subset_confirmedBy _ _ _)
  past := log.past
  current sent member resolver isSoft now := by
    obtain ⟨uuid, isStored, isUuid⟩ := log.current sent member resolver isSoft now
    rcases sound.kept with kept | empty
    · have stays := isStored.mono (subset_confirmedBy
        (keyCalls task inputs).provisioning outcome.provisioned
        device.provisionings)
      rw [← kept] at stays
      exact ⟨uuid, stays, isUuid⟩
    · exact absurd empty (isStored.ne_nil correct.libraries)
  agree := log.agree

/-- The request that is sent is made with the stored key. -/
theorem LogSound.send (correct : system.Correct) (log : LogSound system device)
    {sent : SentTokenRequest}
    (notFounds : sent.notFounds = device.notFounds)
    (current : ∀ resolver, sent.signer = .softKey resolver →
      IsCurrent system device sent.request resolver)
    (verified : ∀ resolver, sent.signer = .softKey resolver →
      Verifies system device.provisionings sent.request) :
    LogSound system { device with requests := sent :: device.requests } where
  storeSound := log.storeSound
  verified := List.forall_mem_cons.mpr ⟨verified, log.verified⟩
  past := List.forall_mem_cons.mpr ⟨notFounds.le, log.past⟩
  current := List.forall_mem_cons.mpr
    ⟨fun resolver isSoft _ => current resolver isSoft, log.current⟩
  agree := by
    have agrees : ∀ other ∈ device.requests, ∀ otherKey resolver,
        other.signer = .softKey otherKey → sent.signer = .softKey resolver →
          other.notFounds = sent.notFounds →
            otherKey = resolver ∧ other.request.uuid = sent.request.uuid := by
      intro other member otherKey resolver otherSoft isSoft same
      exact (log.current other member otherKey otherSoft
        (same.trans notFounds)).unique correct (current resolver isSoft)
    intro first isFirst second isSecond firstKey secondKey firstSoft secondSoft
      same
    rcases List.mem_cons.mp isFirst with rfl | first_old
    · rcases List.mem_cons.mp isSecond with rfl | second_old
      · rw [firstSoft] at secondSoft
        exact ⟨Signer.softKey.inj secondSoft, rfl⟩
      · obtain ⟨sameKey, sameUuid⟩ := agrees second second_old secondKey firstKey
          secondSoft firstSoft same.symm
        exact ⟨sameKey.symm, sameUuid.symm⟩
    · rcases List.mem_cons.mp isSecond with rfl | second_old
      · exact agrees first first_old firstKey secondKey firstSoft secondSoft same
      · exact log.agree first first_old second second_old firstKey secondKey
          firstSoft secondSoft same

/-- No request has been sent yet since the key has been forgotten. -/
theorem LogSound.forget (log : LogSound system device) :
    LogSound system
      { device with store := [], notFounds := device.notFounds + 1 } where
  storeSound := Or.inl rfl
  verified := log.verified
  past sent member := Nat.le_succ_of_le (log.past sent member)
  current sent member _ _ now := by
    have past := log.past sent member
    dsimp only at now
    omega
  agree := log.agree

/-! ## Tasks at the keys -/

/-- What a task that is at the keys relies on: there is no signer yet, or what it
has signed is for the device as it is. -/
def Relies (system : SigningSystem Random) (keys : SigningKeys)
    (task : AuthTask) : Prop :=
  match task.point with
  | .resolving => keys.m_signer = none
  | .signed _ signer signature =>
      keys.m_signer = some signer ∧ signature ≠ [] ∧
        ∃ signRandom external, getSignature system.libraries signRandom external
          signer keys.m_deviceInfo.uuid task.timestamp = some signature
  | _ => True

theorem relies_away {keys : SigningKeys} (away : task.inKeys = false) :
    Relies system keys task := by
  unfold Relies
  split
  · next isPoint =>
    rw [AuthTask.inKeys, isPoint] at away
    cases away
  · next isPoint =>
    rw [AuthTask.inKeys, isPoint] at away
    cases away
  · trivial

/-- One task at most is at the keys, and finds what it relies on. -/
structure TasksSound (system : SigningSystem Random) (net : AuthNet) : Prop where
  apart : net.tasks.countP AuthTask.inKeys ≤ 1
  relies : ∀ task ∈ net.tasks, Relies system net.keys task

theorem Effect.sound (correct : system.Correct) (log : LogSound system device)
    (keys : KeysSound system device net.keys)
    (relies : Relies system net.keys task)
    (effect : Effect system device net task inputs result) :
    LogSound system result.device ∧
      KeysSound system result.device result.net.keys := by
  unfold Relies at relies
  cases effect with
  | unchanged same _ =>
      rw [same]
      exact ⟨log, keys⟩
  | resolving _ _ => exact ⟨log, keys⟩
  | resolved isPoint returned same _ =>
      rw [isPoint] at relies
      have sound := SigningKeys.resolveKeys_sound correct.libraries keys.1
        log.storeSound relies returned
      rw [same]
      exact ⟨log.settle correct sound, sound.sameConfig, sound.inStep⟩
  | signed _ _ _ _ => exact ⟨log, keys⟩
  | @sent _ signer signature isPoint =>
      rw [isPoint] at relies
      obtain ⟨isSigner, nonempty, _, _, isSignature⟩ := relies
      have current : ∀ resolver, signer = .softKey resolver →
          IsCurrent system device
            { provider := net.keys.m_deviceInfo.provider
              uuid := net.keys.m_deviceInfo.uuid
              timestamp := task.timestamp
              signature } resolver := by
        intro resolver isSoft
        rw [isSoft] at isSigner
        obtain ⟨confirmed, isStored, isUuid⟩ := keys.2 resolver isSigner
        exact ⟨confirmed, isStored, isUuid⟩
      refine ⟨log.send correct rfl current ?_, keys⟩
      intro resolver isSoft
      exact verifies_sent correct (current resolver isSoft) isSoft isSignature
        nonempty
  | forgotten _ same _ =>
      rw [same]
      exact ⟨log.forget, keys.1, nofun⟩
  | reprovisioned _ returned same _ =>
      have sound := SigningKeys.reprovisionSoftKey_sound correct.libraries keys.1
        log.storeSound keys.2 returned
      rw [same]
      exact ⟨log.settle correct sound, sound.sameConfig, sound.inStep⟩

/-- The task goes on with what it relies on, and is at the keys only if it has come
to them or has been there. -/
theorem Effect.left (effect : Effect system device net task inputs result)
    {left : AuthTask} (isLeft : result.left = some left) :
    Relies system result.net.keys left ∧
      (left.inKeys = true → entersKeys task.point inputs = true ∨
        task.inKeys = true) := by
  have unneeded (away : left.inKeys = false) :
      Relies system result.net.keys left ∧
        (left.inKeys = true → entersKeys task.point inputs = true ∨
          task.inKeys = true) :=
    ⟨relies_away away, fun atKeys => absurd (away.symm.trans atKeys) nofun⟩
  cases effect with
  | unchanged _ away => exact unneeded (away left isLeft)
  | resolving enters noSigner =>
      obtain rfl := Option.some.inj isLeft
      exact ⟨noSigner, fun _ => Or.inl enters⟩
  | resolved _ _ _ away => exact unneeded (away left isLeft)
  | signed enters isSigner isSignature nonempty =>
      obtain rfl := Option.some.inj isLeft
      exact ⟨⟨isSigner, nonempty, _, _, isSignature⟩, fun _ => Or.inl enters⟩
  | sent _ =>
      obtain rfl := Option.some.inj isLeft
      exact unneeded rfl
  | forgotten enters _ isPoint =>
      obtain rfl := Option.some.inj isLeft
      refine ⟨?_, fun _ => Or.inl enters⟩
      unfold Relies
      rw [isPoint]
      trivial
  | reprovisioned _ _ _ away => exact unneeded (away left isLeft)

/-- The keys change for the tasks at them only by one that has come there. -/
theorem Effect.relies_other (effect : Effect system device net task inputs result)
    {other : AuthTask} (relies : Relies system net.keys other)
    (away : entersKeys task.point inputs = true ∨ task.inKeys = true →
      other.inKeys = false) :
    Relies system result.net.keys other := by
  cases effect with
  | unchanged same _ =>
      rw [same]
      exact relies
  | resolving _ _ => exact relies
  | resolved isPoint _ _ _ =>
      exact relies_away (away (Or.inr (by rw [AuthTask.inKeys, isPoint])))
  | signed _ _ _ _ => exact relies
  | sent _ => exact relies
  | forgotten enters _ _ => exact relies_away (away (Or.inl enters))
  | reprovisioned isPoint _ _ _ =>
      exact relies_away (away (Or.inr (by rw [AuthTask.inKeys, isPoint])))

/-- The other tasks are not at the keys while one comes to them or is there. -/
theorem others_away {index : Nat} (isNet : device.net = some net)
    (isTask : net.tasks[index]? = some task)
    (apart : net.tasks.countP AuthTask.inKeys ≤ 1)
    (now : keysApart device (.run index inputs) = true)
    (busy : entersKeys task.point inputs = true ∨ task.inKeys = true)
    {other : AuthTask} (member : other ∈ net.tasks.eraseIdx index) :
    other.inKeys = false := by
  rcases busy with enters | atKeys
  · simp only [keysApart, isNet, isTask, enters, Bool.not_true, Bool.false_or,
      List.all_eq_true] at now
    simpa using now other member
  · obtain ⟨inside, rfl⟩ := List.getElem?_eq_some_iff.mp isTask
    have count := (List.getElem_cons_eraseIdx_perm inside).countP_eq
      AuthTask.inKeys
    rw [List.countP_cons_of_pos atKeys] at count
    have none : (net.tasks.eraseIdx index).countP AuthTask.inKeys = 0 := by
      omega
    simpa using List.countP_eq_zero.mp none other member

/-- A task that goes on leaves the others at rest. -/
theorem TasksSound.run {index : Nat} (sound : TasksSound system net)
    (isNet : device.net = some net) (isTask : net.tasks[index]? = some task)
    (now : keysApart device (.run index inputs) = true)
    (tasks : result.net.tasks = net.tasks)
    (effect : Effect system device net task inputs result) :
    TasksSound system (result.net.goOn index result.left) := by
  have away := @others_away _ device net task inputs index isNet isTask
    sound.apart now
  have fewer := ((net.tasks.eraseIdx_sublist index).countP_le
    (p := AuthTask.inKeys)).trans sound.apart
  have others : ∀ other ∈ net.tasks.eraseIdx index,
      Relies system result.net.keys other := fun other member =>
    effect.relies_other (sound.relies other (List.mem_of_mem_eraseIdx member))
      fun busy => away busy member
  obtain ⟨inside, -⟩ := List.getElem?_eq_some_iff.mp isTask
  cases isLeft : result.left with
  | none =>
      constructor
      · rw [AuthNet.goOn, tasks]
        exact fewer
      · rw [AuthNet.keys_goOn, AuthNet.goOn, tasks]
        exact others
  | some left =>
      obtain ⟨relies, atKeys⟩ := effect.left isLeft
      have reordered := List.set_perm_cons_eraseIdx inside left
      constructor
      · rw [AuthNet.goOn, tasks, reordered.countP_eq]
        cases isAtKeys : left.inKeys with
        | false =>
            rw [List.countP_cons_of_neg (by simp [isAtKeys])]
            exact fewer
        | true =>
            have none : (net.tasks.eraseIdx index).countP AuthTask.inKeys = 0 :=
              List.countP_eq_zero.mpr fun other member => by
                simp [away (atKeys isAtKeys) member]
            rw [List.countP_cons_of_pos isAtKeys, none]
      · intro other member
        rw [AuthNet.keys_goOn]
        rw [AuthNet.goOn, tasks] at member
        rcases List.mem_cons.mp (reordered.mem_iff.mp member) with rfl | old
        · exact relies
        · exact others other old

/-! ## Runs -/

/-- What holds in every state that is reached. -/
def Sound (system : SigningSystem Random) (device : SigningDevice Random) :
    Prop :=
  LogSound system device ∧ ∀ net, device.net = some net →
    KeysSound system device net.keys ∧ TasksSound system net

/-- The log does not depend on the process. -/
theorem LogSound.withNet (log : LogSound system device) (net : Option AuthNet) :
    LogSound system { device with net } :=
  ⟨log.storeSound, log.verified, log.past, log.current, log.agree⟩

theorem Sound.withNet (log : LogSound system device)
    (keys : KeysSound system device net.keys) (tasks : TasksSound system net) :
    Sound system { device with net := some net } :=
  ⟨log.withNet _, fun _ isNet => by
    obtain rfl := Option.some.inj isNet
    exact ⟨keys, tasks⟩⟩

/-- A task that begins is not at the keys. -/
theorem TasksSound.append {next : AuthNet} {begun : AuthTask}
    (sound : TasksSound system net) (away : begun.inKeys = false)
    (keys : next.keys = net.keys) (tasks : next.tasks = net.tasks ++ [begun]) :
    TasksSound system next := by
  constructor
  · rw [tasks, List.countP_append, List.countP_singleton, away]
    exact sound.apart
  · intro task member
    rw [keys]
    rw [tasks] at member
    rcases List.mem_append.mp member with old | isNew
    · exact sound.relies task old
    · obtain rfl := List.mem_singleton.mp isNew
      exact relies_away away

theorem TasksSound.authenticate {next : AuthNet} (sound : TasksSound system net)
    (began : net.authenticate = some next) : TasksSound system next := by
  simp only [AuthNet.authenticate] at began
  split_ifs at began <;> obtain rfl := Option.some.inj began
  · exact sound
  · exact sound.append rfl rfl rfl
  · exact sound.append rfl rfl rfl

theorem Sound.step (correct : system.Correct) {action : AuthAction Random}
    (sound : Sound system device) (apart : keysApart device action = true)
    (taken : system.step device action = some next) : Sound system next := by
  obtain ⟨log, nets⟩ := sound
  cases action with
  | start =>
      simp only [SigningSystem.step] at taken
      split at taken
      · obtain rfl := Option.some.inj taken
        exact Sound.withNet log ⟨⟨rfl, rfl, rfl, rfl⟩, nofun⟩
          ⟨Nat.zero_le 1, nofun⟩
      · exact nomatch taken
  | exit =>
      obtain rfl := Option.some.inj taken
      exact ⟨log.withNet none, nofun⟩
  | stop =>
      obtain ⟨net, isNet, rest⟩ := Option.bind_eq_some_iff.mp taken
      obtain rfl := Option.some.inj rest
      obtain ⟨keys, tasks⟩ := nets net isNet
      exact Sound.withNet log keys ⟨tasks.apart, tasks.relies⟩
  | interfere status isRefreshingToken =>
      obtain ⟨net, isNet, rest⟩ := Option.bind_eq_some_iff.mp taken
      obtain rfl := Option.some.inj rest
      obtain ⟨keys, tasks⟩ := nets net isNet
      exact Sound.withNet log keys ⟨tasks.apart, tasks.relies⟩
  | authenticate =>
      obtain ⟨net, isNet, taken⟩ := Option.bind_eq_some_iff.mp taken
      obtain ⟨began, isBegun, rest⟩ := Option.bind_eq_some_iff.mp taken
      obtain rfl := Option.some.inj rest
      obtain ⟨keys, tasks⟩ := nets net isNet
      apply Sound.withNet log _ (tasks.authenticate isBegun)
      rw [AuthNet.keys_authenticate isBegun]
      exact keys
  | run index inputs =>
      obtain ⟨net, isNet, taken⟩ := Option.bind_eq_some_iff.mp taken
      obtain ⟨task, isTask, rest⟩ := Option.bind_eq_some_iff.mp taken
      split at rest
      · obtain rfl := Option.some.inj rest
        exact ⟨log.withNet none, nofun⟩
      · next result ran =>
        obtain rfl := Option.some.inj rest
        obtain ⟨keys, tasks⟩ := nets net isNet
        have effect := runTask_effect ran
        obtain ⟨nextLog, nextKeys⟩ := effect.sound correct log keys
          (tasks.relies task (List.mem_of_getElem? isTask))
        apply Sound.withNet nextLog
        · rw [AuthNet.keys_goOn]
          exact nextKeys
        · exact tasks.run isNet isTask apart (tasks_runTask ran) effect

theorem sound_reached (correct : system.Correct)
    {actions : List (AuthAction Random)} {final : SigningDevice Random}
    (reached : Transition.run system.step {} actions = some final)
    (apart : Transition.HoldsAlong system.step
      (fun device action => keysApart device action = true) {} actions) :
    Sound system final := by
  have preserved : ∀ device action next, Sound system device →
      keysApart device action = true →
        system.step device action = some next → Sound system next :=
    fun device action next sound now taken => sound.step correct now taken
  apply Transition.run_preserves preserved reached apart
  exact ⟨⟨Or.inl rfl, nofun, nofun, nofun, nofun⟩, nofun⟩

/-- Where no task comes to the keys while another one is at them, every token
request that is signed with a soft key is verified with a public key that the
server has confirmed for the UUID the request names, whatever the server has
answered, and however often the SDK has been ended and started. -/
theorem tokenRequests_verify (correct : system.Correct)
    {actions : List (AuthAction Random)} {final : SigningDevice Random}
    (reached : Transition.run system.step {} actions = some final)
    (apart : Transition.HoldsAlong system.step
      (fun device action => keysApart device action = true) {} actions)
    {sent : SentTokenRequest} (isSent : sent ∈ final.requests)
    {resolver : SoftKeyResolver} (isSoft : sent.signer = .softKey resolver) :
    Verifies system final.provisionings sent.request :=
  (sound_reached correct reached apart).1.verified sent isSent resolver isSoft

/-- Between two requests that are signed with soft keys, the key and the UUID do
not change unless the server has answered in between that it does not find the
device, where no task comes to the keys while another one is at them; starting
the SDK anew changes neither. -/
theorem identity_kept (correct : system.Correct)
    {actions : List (AuthAction Random)} {final : SigningDevice Random}
    (reached : Transition.run system.step {} actions = some final)
    (apart : Transition.HoldsAlong system.step
      (fun device action => keysApart device action = true) {} actions)
    {first second : SentTokenRequest} (isFirst : first ∈ final.requests)
    (isSecond : second ∈ final.requests)
    {firstKey secondKey : SoftKeyResolver}
    (firstSoft : first.signer = .softKey firstKey)
    (secondSoft : second.signer = .softKey secondKey)
    (noneBetween : first.notFounds = second.notFounds) :
    firstKey = secondKey ∧ first.request.uuid = second.request.uuid :=
  (sound_reached correct reached apart).1.agree first isFirst second isSecond
    firstKey secondKey firstSoft secondSoft noneBetween

/-! ## One task at a time -/

/-- No more than one task is under way. -/
def IsSingle (device : SigningDevice Random) : Prop :=
  ∀ net, device.net = some net → net.tasks.length ≤ 1

theorem IsSingle.keysApart (single : IsSingle device)
    (action : AuthAction Random) :
    SigningSystem.keysApart device action = true := by
  cases action with
  | run index inputs =>
      simp only [SigningSystem.keysApart]
      split
      · rfl
      · next net isNet =>
        split
        · rfl
        · next task isTask =>
          obtain ⟨inBounds, -⟩ := List.getElem?_eq_some_iff.mp isTask
          have atMostOne := single net isNet
          have length := List.length_eraseIdx_of_lt inBounds
          have noOther : net.tasks.eraseIdx index = [] := by
            apply List.eq_nil_of_length_eq_zero
            omega
          rw [noOther, List.all_nil, Bool.or_true]
  | _ => rfl

theorem IsSingle.step {action : AuthAction Random} (single : IsSingle device)
    (notBegun : action ≠ .authenticate)
    (taken : system.step device action = some next) : IsSingle next := by
  cases action with
  | start =>
      simp only [SigningSystem.step] at taken
      split at taken
      · obtain rfl := Option.some.inj taken
        rintro net ⟨⟩
        exact Nat.zero_le 1
      · exact nomatch taken
  | exit =>
      obtain rfl := Option.some.inj taken
      exact nofun
  | stop =>
      obtain ⟨net, isNet, rest⟩ := Option.bind_eq_some_iff.mp taken
      obtain rfl := Option.some.inj rest
      rintro _ ⟨⟩
      exact single net isNet
  | interfere status isRefreshingToken =>
      obtain ⟨net, isNet, rest⟩ := Option.bind_eq_some_iff.mp taken
      obtain rfl := Option.some.inj rest
      rintro _ ⟨⟩
      exact single net isNet
  | authenticate => exact absurd rfl notBegun
  | run index inputs =>
      obtain ⟨net, isNet, taken⟩ := Option.bind_eq_some_iff.mp taken
      obtain ⟨task, isTask, rest⟩ := Option.bind_eq_some_iff.mp taken
      split at rest
      · obtain rfl := Option.some.inj rest
        exact nofun
      · next result ran =>
        obtain rfl := Option.some.inj rest
        rintro _ ⟨⟩
        have atMostOne := single net isNet
        rw [← tasks_runTask ran] at atMostOne
        exact (AuthNet.length_goOn ..).trans atMostOne

/-- A process in which the authentication is begun once keeps the tasks at the
keys apart. -/
theorem keysApart_of_begunOnce (isOff : device.net = none)
    {actions : List (AuthAction Random)} (begunOnce : .authenticate ∉ actions) :
    Transition.HoldsAlong system.step
      (fun device action => keysApart device action = true) device
      (.start :: .authenticate :: actions) := by
  intro started isStarted
  refine ⟨rfl, ?_⟩
  simp only [SigningSystem.step, isOff] at isStarted
  obtain rfl := Option.some.inj isStarted
  intro begun isBegun
  refine ⟨rfl, ?_⟩
  have single : IsSingle begun := by
    obtain rfl := Option.some.inj isBegun
    rintro _ ⟨⟩
    exact Nat.le_refl 1
  have noneBegins : Transition.HoldsAlong system.step
      (fun _ action => action ≠ .authenticate) begun actions :=
    Transition.HoldsAlong.of_forall_mem fun action isAction same =>
      begunOnce (same ▸ isAction)
  exact noneBegins.weaken
    (fun _ _ _ single notBegun taken => single.step notBegun taken)
    (fun _ action _ single _ _ => single.keysApart action) single

/-! ## The number of answers -/

/-- Each answer after which a task goes on is that of a round of its own among
the first ten ones. -/
def IsBounded (task : AuthTask) : Prop :=
  match task.point with
  | .serverTime _ => task.answered = 0
  | .resolve => task.answered = 0
  | .resolving => task.answered = 0
  | .request attempt => task.answered ≤ min attempt 10
  | .signed attempt _ _ => task.answered ≤ min attempt 10
  | .reply attempt => task.answered ≤ min attempt 10
  | .reprovision attempt => task.answered ≤ attempt + 1

/-- All tasks are, and so are the requests that have been sent. -/
structure AnswersBounded (device : SigningDevice Random) : Prop where
  sent : ∀ sent ∈ device.requests, sent.answered ≤ 10
  tasks : ∀ net, device.net = some net → ∀ task ∈ net.tasks, IsBounded task

/-- What a step does to the numbers of answers. -/
structure BoundedResult (device : SigningDevice Random)
    (result : AuthResult Random) : Prop where
  left : ∀ left, result.left = some left → IsBounded left
  sent : ∀ sent ∈ result.device.requests,
    sent ∈ device.requests ∨ sent.answered ≤ 10

theorem boundedResult_ended {ended : AuthNet} :
    BoundedResult device { device, net := ended } :=
  ⟨nofun, fun _ member => Or.inl member⟩

theorem boundedResult_left {left : AuthTask} (bounded : IsBounded left) :
    BoundedResult device { device, net, left := some left } :=
  ⟨fun _ isLeft => Option.some.inj isLeft ▸ bounded,
    fun _ member => Or.inl member⟩

theorem boundedResult_requestServerTime {attempt : Nat}
    (none : task.answered = 0) :
    BoundedResult device (requestServerTime device net task inputs attempt) := by
  unfold requestServerTime
  dsimp only
  split_ifs
  · exact boundedResult_left none
  · exact boundedResult_left none
  · exact boundedResult_left none

theorem boundedResult_resolve (none : task.answered = 0) :
    BoundedResult device (resolve device net task) := by
  unfold resolve
  split_ifs
  · exact boundedResult_left none
  · exact boundedResult_left (by simp [IsBounded, none])

theorem boundedResult_resolving (none : task.answered = 0)
    (ran : system.resolving device net task inputs = some result) :
    BoundedResult device result := by
  have bounded : IsBounded { task with point := .request 0 } := by
    simp [IsBounded, none]
  obtain ⟨outcome, -, rest⟩ := Option.bind_eq_some_iff.mp ran
  split_ifs at rest <;> obtain rfl := Option.some.inj rest
  · exact ⟨fun _ isLeft => Option.some.inj isLeft ▸ bounded,
      fun _ member => Or.inl member⟩
  · exact ⟨nofun, fun _ member => Or.inl member⟩

theorem boundedResult_signRequest {attempt : Nat}
    (bounded : task.answered ≤ min attempt 10)
    (ran : system.signRequest device net task inputs attempt = some result) :
    BoundedResult device result := by
  obtain ⟨signer, -, ran⟩ := Option.bind_eq_some_iff.mp ran
  obtain ⟨signature, -, rest⟩ := Option.bind_eq_some_iff.mp ran
  split_ifs at rest with empty <;> obtain rfl := Option.some.inj rest
  · exact boundedResult_ended
  · exact boundedResult_left bounded

theorem boundedResult_sendRequest {attempt : Nat} {signer : Signer}
    {signature : List Char} (bounded : task.answered ≤ min attempt 10) :
    BoundedResult device
      (sendRequest device net task attempt signer signature) := by
  refine ⟨fun _ isLeft => Option.some.inj isLeft ▸ bounded, ?_⟩
  intro sent member
  rcases List.mem_cons.mp member with rfl | earlier
  · exact Or.inr (bounded.trans (Nat.min_le_right _ _))
  · exact Or.inl earlier

theorem answered_readReply_le (task : AuthTask) (inputs : AuthInputs Random) :
    (readReply task inputs).answered ≤ task.answered + 1 := by
  unfold readReply
  dsimp only
  split_ifs <;> omega

theorem boundedResult_handleReply {attempt : Nat}
    (bounded : task.answered ≤ min attempt 10) :
    BoundedResult device (handleReply device net task inputs attempt) := by
  have read := answered_readReply_le task inputs
  unfold handleReply
  dsimp only
  split_ifs with stopped isOk isRetried isNotFound isError
  · exact boundedResult_ended
  · exact boundedResult_ended
  · apply boundedResult_left
    simp only [IsBounded]
    omega
  · refine ⟨?_, fun _ member => Or.inl member⟩
    intro left isLeft
    obtain rfl := Option.some.inj isLeft
    simp only [IsBounded]
    omega
  · -- A network error is no answer.
    have same : (readReply task inputs).answered = task.answered := by
      simp [readReply, isError]
    apply boundedResult_left
    simp only [IsBounded]
    omega
  · exact boundedResult_ended

theorem boundedResult_reprovision {attempt : Nat}
    (bounded : task.answered ≤ attempt + 1)
    (ran : system.reprovision device net task inputs attempt = some result) :
    BoundedResult device result := by
  obtain ⟨outcome, -, rest⟩ := Option.bind_eq_some_iff.mp ran
  split_ifs at rest with goesOn <;> obtain rfl := Option.some.inj rest
  · refine ⟨?_, fun _ member => Or.inl member⟩
    intro left isLeft
    obtain rfl := Option.some.inj isLeft
    simp only [IsBounded]
    omega
  · exact ⟨nofun, fun _ member => Or.inl member⟩

theorem boundedResult_runTask (bounded : IsBounded task)
    (ran : system.runTask device net task inputs = some result) :
    BoundedResult device result := by
  unfold runTask at ran
  unfold IsBounded at bounded
  split at ran
  · next isPoint =>
    obtain rfl := Option.some.inj ran
    rw [isPoint] at bounded
    exact boundedResult_requestServerTime bounded
  · next isPoint =>
    obtain rfl := Option.some.inj ran
    rw [isPoint] at bounded
    exact boundedResult_resolve bounded
  · next isPoint =>
    rw [isPoint] at bounded
    exact boundedResult_resolving bounded ran
  · next isPoint =>
    rw [isPoint] at bounded
    exact boundedResult_signRequest bounded ran
  · next isPoint =>
    obtain rfl := Option.some.inj ran
    rw [isPoint] at bounded
    exact boundedResult_sendRequest bounded
  · next isPoint =>
    obtain rfl := Option.some.inj ran
    rw [isPoint] at bounded
    exact boundedResult_handleReply bounded
  · next isPoint =>
    rw [isPoint] at bounded
    exact boundedResult_reprovision bounded ran

theorem AnswersBounded.step {action : AuthAction Random}
    (bounded : AnswersBounded device)
    (taken : system.step device action = some next) : AnswersBounded next := by
  obtain ⟨sentBounded, tasksBounded⟩ := bounded
  -- The requests are the old ones, and so are the tasks of the process.
  have same : ∀ changed : AuthNet, (∀ task ∈ changed.tasks, IsBounded task) →
      AnswersBounded { device with net := some changed } := by
    intro changed tasks
    refine ⟨sentBounded, fun net isNet => ?_⟩
    obtain rfl := Option.some.inj isNet
    exact tasks
  cases action with
  | start =>
      simp only [SigningSystem.step] at taken
      split at taken
      · obtain rfl := Option.some.inj taken
        exact same _ nofun
      · exact nomatch taken
  | exit =>
      obtain rfl := Option.some.inj taken
      exact ⟨sentBounded, nofun⟩
  | stop =>
      obtain ⟨net, isNet, rest⟩ := Option.bind_eq_some_iff.mp taken
      obtain rfl := Option.some.inj rest
      exact same _ (tasksBounded net isNet)
  | interfere status isRefreshingToken =>
      obtain ⟨net, isNet, rest⟩ := Option.bind_eq_some_iff.mp taken
      obtain rfl := Option.some.inj rest
      exact same _ (tasksBounded net isNet)
  | authenticate =>
      obtain ⟨net, isNet, taken⟩ := Option.bind_eq_some_iff.mp taken
      obtain ⟨began, isBegun, rest⟩ := Option.bind_eq_some_iff.mp taken
      obtain rfl := Option.some.inj rest
      apply same
      intro task member
      rcases AuthNet.mem_authenticate isBegun member with old | ⟨_, rfl⟩
      · exact tasksBounded net isNet task old
      · exact rfl
  | run index inputs =>
      obtain ⟨net, isNet, taken⟩ := Option.bind_eq_some_iff.mp taken
      obtain ⟨task, isTask, rest⟩ := Option.bind_eq_some_iff.mp taken
      have allBounded := tasksBounded net isNet
      split at rest
      · obtain rfl := Option.some.inj rest
        exact ⟨sentBounded, nofun⟩
      · next result ran =>
        obtain rfl := Option.some.inj rest
        obtain ⟨left, sent⟩ := boundedResult_runTask
          (allBounded task (List.mem_of_getElem? isTask)) ran
        constructor
        · intro request member
          exact (sent request member).elim (sentBounded request) id
        · intro goesOn isNext other member
          obtain rfl := Option.some.inj isNext
          rcases AuthNet.mem_goOn member with old | isLeft
          · rw [tasks_runTask ran] at old
            exact allBounded other old
          · exact left other isLeft

/-- Before any request of a task is sent, at most ten of the task's requests have
been answered, whatever the answers are; a request that is not answered is tried
again without an end. -/
theorem answers_bounded {actions : List (AuthAction Random)}
    {final : SigningDevice Random}
    (reached : Transition.run system.step {} actions = some final)
    {sent : SentTokenRequest} (isSent : sent ∈ final.requests) :
    sent.answered ≤ 10 := by
  have preserved : ∀ device action next, AnswersBounded device →
      system.step device action = some next → AnswersBounded next :=
    fun device action next bounded taken => bounded.step taken
  have bounded : AnswersBounded final :=
    Transition.run_invariant preserved reached ⟨nofun, nofun⟩
  exact bounded.sent sent isSent

end SigningSystem

/-! ## A device that is started twice -/

namespace TokenRequestSample

open SoftKeySample (random)

/-- The HMAC of a message is its length. -/
def openSsl : OpenSsl :=
  { SoftKeySample.openSsl with
    hmacSha256 := fun _ message => [BitVec.ofNat 8 message.length] }

theorem openSsl_correct : openSsl.Correct :=
  { SoftKeySample.openSsl_correct with }

def scalarJson : JsonNode → Json
  | .unsigned value => .int value.toNat
  | .string text => .str (String.ofList text)
  | _ => .null

def scalarNode : Json → JsonNode
  | .int value => .unsigned (BitVec.ofInt 64 value)
  | .str value => .string value.toList
  | _ => .null

/-- JSON for objects whose members are scalars. -/
def texts : JsonTexts where
  dump
    | .object members =>
        some (Json.write (.obj (members.map fun member =>
          (member.1, scalarJson member.2))))
    | _ => none
  parse text :=
    match Json.readValue (2 * text.length + 2) text with
    | some (.obj members, []) =>
        some (.object (members.map fun member =>
          (member.1, scalarNode member.2)))
    | _ => none

theorem scalarNode_scalarJson {node : JsonNode} (isScalar : node.IsScalar) :
    scalarNode (scalarJson node) = node := by
  cases node with
  | unsigned value => simp [scalarJson, scalarNode]
  | string text => simp [scalarJson, scalarNode]
  | _ => exact isScalar.elim

theorem texts_correct : texts.Correct where
  parse_nil := rfl
  parse_dump := by
    intro node text isFlat written
    cases node with
    | object members =>
        obtain rfl := Option.some.inj written
        let value := Json.obj (members.map fun member =>
          (member.1, scalarJson member.2))
        have exact : value.IsExact := by
          rw [Json.IsExact, Json.membersExact_iff]
          intro member isMember
          obtain ⟨old, -, rfl⟩ := List.mem_map.mp isMember
          cases old.2 <;> trivial
        have short := Json.steps_lt value exact
        have read := Json.readValue_write value (2 * value.write.length + 1) []
          exact (by omega) (by intro c isHead; cases isHead)
        rw [List.append_nil] at read
        have back : (members.map fun member =>
            (member.1, scalarJson member.2)).map (fun member =>
              (member.1, scalarNode member.2)) = members := by
          rw [List.map_map]
          conv_rhs => rw [← List.map_id members]
          apply List.map_congr_left
          intro member isMember
          simp [scalarNode_scalarJson (isFlat.2 member isMember)]
        simp only [texts, read, value, back]
    | _ => exact isFlat.elim

/-- The private key begins each signature. -/
def crypto : Crypto Unit where
  sha256Hash message := message
  generateEcdsaKeyPair _ := (true, List.replicate 65 4, List.replicate 32 7)
  ecdsaSign _ key hash := some (key ++ hash)
  ecdsaVerify _ hash signature := signature = List.replicate 32 7 ++ hash

def system : SigningSystem Unit where
  libraries := { crypto, openSsl, texts, sdkEncryptSecret := "secret".toList }
  parseUuid := id
  config :=
    { provider := "maker".toList
      uuid := []
      serialNumber := 0
      encryptedKey := encryptSecret openSsl random [171] "makersecret".toList
      saveKeyCallback := true
      loadKeyCallback := some [] }
  signerCallback := false

theorem system_correct : system.Correct where
  libraries :=
    { openSsl := openSsl_correct
      texts := texts_correct
      length_privateKey := fun _ _ => rfl }
  verifies _ _ digest signature _ signed := by
    obtain rfl := Option.some.inj signed
    exact decide_eq_true rfl

def answer : List Char :=
  "\x7b\"serial_number\":42,\"uuid\":\"7a16ea98-48e8-4b2e-a1eb-cf282e3b81cc\"\x7d".toList

def inputs : AuthInputs Unit where
  date := []
  localTime := 1772323200
  calls :=
    { tpm := none
      provisioning :=
        { serverTimestamp := []
          keyRandom := ()
          initiateReply := { statusCode := 200, text := answer }
          signRandom := ()
          confirmReply := { statusCode := 201, text := answer }
          encryptionRandom := random } }
  signRandom := ()
  external := []
  statusCode := 0
  token := none

/-- The SDK is started, ten noop requests are not answered, and a token request
is sent at the time of the device. -/
def firstStart : List (AuthAction Unit) :=
  .start :: .authenticate :: List.replicate 15 (.run 0 inputs)

def isSoft (sent : SentTokenRequest) : Bool :=
  match sent.signer with
  | .softKey _ => true
  | _ => false

theorem exists_of_isSoft {sent : SentTokenRequest} (soft : isSoft sent = true) :
    ∃ resolver, sent.signer = .softKey resolver := by
  unfold isSoft at soft
  split at soft
  next resolver isSigner => exact ⟨resolver, isSigner⟩
  next => cases soft

/-- Both requests are signed with soft keys, with no answer 404 in between. -/
def isSentTwice : List SentTokenRequest → Bool
  | [second, first] => isSoft second && isSoft first &&
      decide (first.notFounds = second.notFounds)
  | _ => false

theorem exists_of_isSentTwice {requests : List SentTokenRequest}
    (twice : isSentTwice requests = true) :
    ∃ first second, requests = [second, first] ∧ isSoft first = true ∧
      isSoft second = true ∧ first.notFounds = second.notFounds := by
  unfold isSentTwice at twice
  split at twice
  next second first =>
    simp only [Bool.and_eq_true, decide_eq_true_eq] at twice
    exact ⟨first, second, rfl, twice.1.2, twice.1.1, twice.2⟩
  next => cases twice

theorem firstStart_sent :
    ∃ final, Transition.run system.step {} firstStart = some final ∧
      ∃ sent ∈ final.requests, isSoft sent = true := by
  have evaluated : ((Transition.run system.step {} firstStart).any fun final =>
      final.requests.any isSoft) = true := by
    decide +kernel
  obtain ⟨final, reached, isSent⟩ := (Option.any_eq_true _ _).mp evaluated
  exact ⟨final, reached, List.any_eq_true.mp isSent⟩

theorem firstStart_apart {device : SigningDevice Unit} (isOff : device.net = none) :
    Transition.HoldsAlong system.step
      (fun device action => SigningSystem.keysApart device action = true) device
      firstStart :=
  SigningSystem.keysApart_of_begunOnce isOff (by simp)

theorem secondStart_apart :
    Transition.HoldsAlong system.step
      (fun device action => SigningSystem.keysApart device action = true) {}
      (firstStart ++ .exit :: firstStart) := by
  apply (firstStart_apart rfl).append
  intro middle _ exited isExited
  obtain rfl := Option.some.inj isExited
  exact ⟨rfl, firstStart_apart rfl⟩

def otherAnswer : List Char :=
  "\x7b\"serial_number\":42,\"uuid\":\"00000000-48e8-4b2e-a1eb-cf282e3b81cc\"\x7d".toList

/-- The device is not found, and provisioned for another UUID. -/
def notFound : AuthInputs Unit :=
  { inputs with
    statusCode := 404
    calls := { inputs.calls with
      provisioning := { inputs.calls.provisioning with
        initiateReply := { statusCode := 200, text := otherAnswer }
        confirmReply := { statusCode := 201, text := otherAnswer } } } }

/-- Between the signature of the first task and its request, a second one that
refreshes the token has the device provisioned anew. -/
def overtaken : List (AuthAction Unit) :=
  .start :: .authenticate :: List.replicate 14 (.run 0 inputs) ++
    .authenticate :: List.replicate 14 (.run 1 inputs) ++
      [.run 1 notFound, .run 1 notFound, .run 0 inputs]

/-- The request names the new UUID, and has not been signed for it. -/
example :
    ((Transition.run system.step {} overtaken).any fun final =>
      final.requests.head?.any fun sent =>
        decide (sent.request.uuid =
          "00000000-48e8-4b2e-a1eb-cf282e3b81cc".toList) &&
        decide (sent.request.signature ≠ hex (List.replicate 32 7 ++
          signedDigest system.libraries sent.request.uuid
            sent.request.timestamp))) = true := by
  decide +kernel

end TokenRequestSample

namespace SigningSystem

open TokenRequestSample

theorem tokenRequests_verify_firstStart :
    ∃ final, Transition.run system.step {} firstStart = some final ∧
      ∃ sent ∈ final.requests,
        Verifies system final.provisionings sent.request := by
  obtain ⟨final, reached, sent, isSent, soft⟩ := firstStart_sent
  obtain ⟨resolver, isSigner⟩ := exists_of_isSoft soft
  exact ⟨final, reached, sent, isSent,
    tokenRequests_verify system_correct reached (firstStart_apart rfl) isSent
      isSigner⟩

/-- The process ends, and the SDK is started again. -/
theorem identity_kept_secondStart :
    ∃ final, Transition.run system.step {}
        (firstStart ++ .exit :: firstStart) = some final ∧
      ∃ first second, final.requests = [second, first] ∧
        first.request.uuid = second.request.uuid := by
  have evaluated : ((Transition.run system.step {}
      (firstStart ++ .exit :: firstStart)).any fun final =>
        isSentTwice final.requests) = true := by
    decide +kernel
  obtain ⟨final, reached, twice⟩ := (Option.any_eq_true _ _).mp evaluated
  obtain ⟨first, second, requests, firstSoft, secondSoft, noneBetween⟩ :=
    exists_of_isSentTwice twice
  obtain ⟨firstKey, isFirstKey⟩ := exists_of_isSoft firstSoft
  obtain ⟨secondKey, isSecondKey⟩ := exists_of_isSoft secondSoft
  refine ⟨final, reached, first, second, requests, ?_⟩
  exact (identity_kept system_correct reached secondStart_apart
    (by simp [requests]) (by simp [requests]) isFirstKey isSecondKey
    noneBetween).2

theorem answers_bounded_firstStart :
    ∃ final, Transition.run system.step {} firstStart = some final ∧
      ∃ sent ∈ final.requests, sent.answered ≤ 10 := by
  obtain ⟨final, reached, sent, isSent, -⟩ := firstStart_sent
  exact ⟨final, reached, sent, isSent, answers_bounded reached isSent⟩

end SigningSystem

end ScorbitSdk
