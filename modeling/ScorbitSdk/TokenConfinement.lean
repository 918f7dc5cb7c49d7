import ScorbitSdk.UrlHosts
import ScorbitSdk.GameData
import ScorbitSdk.TransitionRuns

/-!
# Where the token goes

`Net` puts the token into the Authorization header of its requests.  Most of
them go to an endpoint behind `m_hostname`; downloads go to any URL, and have
the token if its host is that of `m_hostname`; and the release track is asked
for at the URL that a reply has given.  Which statuses a request is allowed in
and what the replies are is arbitrary.
-/

namespace ScorbitSdk

/-- What `boost::urls::parse_uri` tells of a URL. -/
structure ParsedUrl where
  scheme : List Char
  host : List Char
  port : Option (List Char)

/-- A parsed URL has the scheme and the host of the text. -/
def ParsesHosts (parse_uri : List Char → Option ParsedUrl) : Prop :=
  ∀ url parsed, parse_uri url = some parsed →
    parsed.host = Url.host url ∧ ':' ∉ parsed.scheme

/-- `fmt::format` with named arguments, which throws on a malformed text. -/
abbrev TextFormat :=
  List Char → List (String × List Char) → Option (List Char)

/-- Text before the first brace is copied. -/
def CopiesText (format : TextFormat) : Prop :=
  ∀ text rest arguments formatted, (∀ c ∈ text, c ≠ '{' ∧ c ≠ '}') →
    format (text ++ rest) arguments = some formatted → text <+: formatted

/-! ## The host name -/

structure UrlInfo where
  protocol : List Char := []
  hostname : List Char := []
  port : List Char := []

section Hostname

variable (parse_uri : List Char → Option ParsedUrl)

def exctractHostAndPort (url : List Char) : UrlInfo :=
  match parse_uri url with
  | none => {}
  | some parsed =>
      match parsed.port with
      | some port => ⟨parsed.scheme, parsed.host, port⟩
      | none =>
          if parsed.scheme = "https".toList ∨ parsed.scheme = "wss".toList then
            ⟨parsed.scheme, parsed.host, "443".toList⟩
          else if parsed.scheme = "http".toList ∨ parsed.scheme = "ws".toList then
            ⟨parsed.scheme, parsed.host, "80".toList⟩
          else {}

def PRODUCTION_HOSTNAME : List Char := "https://api.scorbit.io".toList
def STAGING_HOSTNAME : List Char := "https://staging.scorbit.io".toList

/-- The `m_hostname` that `setHostname` sets. -/
def setHostname (hostname : List Char) : List Char :=
  let hostname :=
    if hostname = "production".toList ∨ hostname = [] then PRODUCTION_HOSTNAME
    else if hostname = "staging".toList then STAGING_HOSTNAME
    else hostname
  let host := exctractHostAndPort parse_uri hostname
  host.protocol ++ "://".toList ++ host.hostname ++ ":".toList ++ host.port

def isHostMatching (url hostname : List Char) : Bool :=
  match parse_uri url, parse_uri hostname with
  | some urlResult, some hostResult => urlResult.host = hostResult.host
  | _, _ => false

variable {parse_uri}

theorem noColon_exctractHostAndPort (parses : ParsesHosts parse_uri)
    (url : List Char) : ':' ∉ (exctractHostAndPort parse_uri url).protocol := by
  unfold exctractHostAndPort
  cases parsedUrl : parse_uri url with
  | none => exact List.not_mem_nil
  | some parsed =>
      have noColon := (parses url parsed parsedUrl).2
      dsimp only
      split
      · exact noColon
      · split_ifs
        · exact noColon
        · exact noColon
        · exact List.not_mem_nil

theorem hasAuthority_setHostname (parses : ParsesHosts parse_uri)
    (hostname : List Char) : Url.HasAuthority (setHostname parse_uri hostname) :=
  ⟨_, _, noColon_exctractHostAndPort parses _, by
    simp only [setHostname, List.append_assoc]; rfl⟩

theorem host_of_isHostMatching (parses : ParsesHosts parse_uri)
    {url hostname : List Char}
    (internal : isHostMatching parse_uri url hostname = true) :
    Url.host url = Url.host hostname := by
  unfold isHostMatching at internal
  split at internal
  · next urlResult hostResult isUrl isHost =>
      rw [← (parses _ _ isUrl).1, ← (parses _ _ isHost).1]
      exact of_decide_eq_true internal
  · exact nomatch internal

end Hostname

/-! ## Requests -/

/-- The value of an Authorization header: made of `m_stoken`, or given by the
caller of a download. -/
inductive Authorization
  | bearer (stoken : List Char)
  | given (value : List Char)
  deriving DecidableEq

structure SentRequest where
  url : List Char
  authorization : Option Authorization := none
  deriving DecidableEq

/-- The endpoints that are asked for with the token. -/
inductive ApiEndpoint
  | centrifugoToken
  | config
  | sessions
  | sessionUpdate
  | object
  | nonceCreate
  | creditDropCreate
  | firmwaresList
  | machineObject
  | machineLeaders
  | variantLeaders
  | gameLeaders
  | diagnostics
  | diagnosticsAck
  | sessionCsv

def ApiEndpoint.text : ApiEndpoint → String
  | centrifugoToken => "api/v2/scorbitrons/\x7bscorbitron_uuid\x7d/socket/"
  | config => "api/v2/scorbitrons/\x7bscorbitron_uuid\x7d/config/"
  | sessions => "api/v2/scorbitrons/\x7bscorbitron_uuid\x7d/sessions/"
  | sessionUpdate =>
      "api/v2/scorbitrons/\x7bscorbitron_uuid\x7d/sessions/\x7bsession_uuid\x7d/"
  | object => "api/v2/scorbitrons/\x7bscorbitron_uuid\x7d/"
  | nonceCreate => "api/v2/scorbitrons/\x7bscorbitron_uuid\x7d/nonce/"
  | creditDropCreate => "api/v2/scorbitrons/\x7bscorbitron_uuid\x7d/credit-drop/"
  | firmwaresList => "api/v2/scorbitrons/\x7bscorbitron_uuid\x7d/firmwares/"
  | machineObject => "api/v2/machines/\x7bmachine_uuid\x7d/"
  | machineLeaders => "api/v2/machines/\x7bmachine_uuid\x7d/leaders/"
  | variantLeaders => "api/v2/variants/\x7bvariant_uuid\x7d/leaders/"
  | gameLeaders => "api/v2/games/\x7bgame_slug\x7d/leaders/"
  | diagnostics => "api/v2/scorbitrons/\x7bscorbitron_uuid\x7d/diagnostics/"
  | diagnosticsAck => "internal/api/diagnostics/ack/"
  | sessionCsv => "session_log/"

def URL_SCORBITRON_TOKEN : String :=
  "api/v2/scorbitrons/\x7bscorbitron_uuid\x7d/token/"

def NOOP_URL : List Char := "http://api.scorbit.io/api/noop/".toList

/-- What `Net` reads when it builds a request, and the requests it has sent. -/
structure TokenNet where
  m_hostname : List Char
  uuid : List Char := []
  machineUuid : List Char := []
  m_stoken : List Char := []
  m_status : AuthStatus := .notAuthenticated
  m_releaseTrackUrl : List Char := []
  sent : List SentRequest := []

inductive TokenAction
  | statusChanges (status : AuthStatus)
  | uuidChanges (uuid : List Char)
  | machineUuidChanges (machineUuid : List Char)
  | tokenReply (token : List Char)
  /-- `parseScorbitronObject`, with the release track's URL if there is one. -/
  | scorbitronObject (releaseUrl : Option (List Char))
  /-- One try of a task that `createHttpRequestTask` has made, for an endpoint
  with more arguments. -/
  | apiRequest (endpoint : ApiEndpoint) (arguments : List (String × List Char))
      (allowedStatuses : List AuthStatus)
  /-- One try of the task of `requestReleaseTrackInfo`. -/
  | releaseTrackRequest
  /-- `getJwtToken`, with the token of now. -/
  | jwtRequest
  /-- One try of a download, of a file or into a buffer. -/
  | download (url : List Char) (extraHeaders : List (String × List Char))
  | tokenRequest
  | noopRequest

namespace TokenNet

variable (parse_uri : List Char → Option ParsedUrl) (format : TextFormat)

def url (state : TokenNet) (endpoint : List Char)
    (arguments : List (String × List Char)) : Option (List Char) :=
  (format endpoint (("scorbitron_uuid", state.uuid) ::
    ("machine_uuid", state.machineUuid) :: arguments)).map
      fun formattedEndpoint =>
        if "http://".toList.isPrefixOf formattedEndpoint ∨
            "https://".toList.isPrefixOf formattedEndpoint then
          formattedEndpoint
        else state.m_hostname ++ '/' :: formattedEndpoint

def authHeader (state : TokenNet) : Authorization :=
  .bearer state.m_stoken

/-- The names of headers do not depend on the case of their letters. -/
def isAuthorizationKey (key : String) : Bool :=
  key.toList.map Char.toLower = "authorization".toList

/-- The Authorization header of a download, which an extra header replaces. -/
def downloadAuthorization (state : TokenNet) (isInternal : Bool)
    (extraHeaders : List (String × List Char)) : Option Authorization :=
  extraHeaders.foldl
    (fun authorization (key, value) =>
      if isAuthorizationKey key then some (.given value) else authorization)
    (if isInternal then some state.authHeader else none)

def send (state : TokenNet) (request : SentRequest) : TokenNet :=
  { state with sent := request :: state.sent }

/-- Where a task sends its request, if the status is an allowed one.  The task has
its URL from `deferredSetup` just before it looks at the status; the two are one
step here. -/
def sendAuthorized (state : TokenNet) (allowedStatuses : List AuthStatus)
    (url : List Char) : TokenNet :=
  if state.m_status ∈ allowedStatuses then
    state.send { url, authorization := some state.authHeader }
  else state

/-- A text that cannot be formatted is thrown out before anything is sent. -/
def step (state : TokenNet) : TokenAction → Option TokenNet
  | .statusChanges status => some { state with m_status := status }
  | .uuidChanges uuid => some { state with uuid }
  | .machineUuidChanges machineUuid => some { state with machineUuid }
  | .tokenReply token => some { state with m_stoken := token }
  | .scorbitronObject releaseUrl =>
      some { state with
        m_releaseTrackUrl := releaseUrl.getD state.m_releaseTrackUrl }
  | .apiRequest endpoint arguments allowedStatuses =>
      (state.url format endpoint.text.toList arguments).map fun url =>
        state.sendAuthorized allowedStatuses url
  | .releaseTrackRequest =>
      some (state.sendAuthorized
        [.authenticatedUnpaired, .authenticatedPaired] state.m_releaseTrackUrl)
  | .jwtRequest =>
      (state.url format ApiEndpoint.centrifugoToken.text.toList []).map
        fun url => state.send { url, authorization := some state.authHeader }
  | .download url extraHeaders =>
      (state.url format url []).map fun fullUrl =>
        let isInternal := isHostMatching parse_uri fullUrl state.m_hostname
        state.send
          { url := fullUrl
            authorization :=
              state.downloadAuthorization isInternal extraHeaders }
  | .tokenRequest =>
      (state.url format URL_SCORBITRON_TOKEN.toList []).map fun url =>
        state.send { url }
  | .noopRequest => some (state.send { url := NOOP_URL })

/-! ## Confinement -/

/-- The token has been sent to the host of `m_hostname` only. -/
def Confined (state : TokenNet) : Prop :=
  ∀ request ∈ state.sent, ∀ stoken,
    request.authorization = some (.bearer stoken) →
      Url.host request.url = Url.host state.m_hostname

/-- Where the release track is asked for, its URL has the host of `m_hostname`.
As long as no object has named a URL, the request is made with the empty one, the
token in its header; it counts here as one to another host, though the client
library then finds no host to send it to. -/
def ReleaseTrackInternal (state : TokenNet) : TokenAction → Prop
  | .releaseTrackRequest =>
      state.m_status = .authenticatedUnpaired ∨
          state.m_status = .authenticatedPaired →
        Url.host state.m_releaseTrackUrl = Url.host state.m_hostname
  | _ => True

variable {parse_uri format} {state next : TokenNet} {action : TokenAction}

/-- An endpoint begins with a letter that is not that of a scheme. -/
theorem text_cons (endpoint : ApiEndpoint) :
    ∃ c rest, endpoint.text.toList = c :: rest ∧ c ≠ 'h' ∧ c ≠ '{' ∧ c ≠ '}' := by
  cases endpoint <;>
    exact ⟨_, _, String.toList_ofList, by decide, by decide, by decide⟩

/-- An endpoint is asked for at the host of `m_hostname`. -/
theorem host_url (copies : CopiesText format)
    (hasAuthority : Url.HasAuthority state.m_hostname) (endpoint : ApiEndpoint)
    {arguments : List (String × List Char)} {url : List Char}
    (formatted : state.url format endpoint.text.toList arguments = some url) :
    Url.host url = Url.host state.m_hostname := by
  obtain ⟨c, rest, text, notH, notOpen, notClose⟩ := text_cons endpoint
  obtain ⟨formattedEndpoint, isFormatted, rfl⟩ :=
    Option.map_eq_some_iff.mp formatted
  rw [text] at isFormatted
  obtain ⟨behind, rfl⟩ := copies [c] rest _ _ (by simp [notOpen, notClose])
    isFormatted
  have relative : ¬("http://".toList.isPrefixOf ([c] ++ behind) ∨
      "https://".toList.isPrefixOf ([c] ++ behind)) := by
    simp [List.isPrefixOf, Ne.symm notH]
  rw [if_neg relative]
  exact Url.host_append_path hasAuthority _

/-- An extra header never brings the token in. -/
theorem isInternal_of_bearer {isInternal : Bool}
    {extraHeaders : List (String × List Char)} {stoken : List Char}
    (bearer : state.downloadAuthorization isInternal extraHeaders =
      some (.bearer stoken)) : isInternal = true := by
  have initially : ∀ authorization : Option Authorization,
      extraHeaders.foldl (fun authorization (key, value) =>
        if isAuthorizationKey key then some (.given value) else authorization)
          authorization = some (.bearer stoken) →
        authorization = some (.bearer stoken) := by
    clear bearer
    induction extraHeaders with
    | nil => exact fun _ same => same
    | cons header extraHeaders ih =>
        intro authorization folded
        have later := ih _ folded
        dsimp only at later
        split at later
        · exact nomatch later
        · exact later
  have start := initially _ bearer
  split at start
  · next internal => exact internal
  · exact nomatch start

theorem confined_send {request : SentRequest} (confined : state.Confined)
    (isConfined : ∀ stoken, request.authorization = some (.bearer stoken) →
      Url.host request.url = Url.host state.m_hostname) :
    (state.send request).Confined := by
  intro other member
  rcases List.mem_cons.mp member with rfl | earlier
  · exact isConfined
  · exact confined other earlier

theorem confined_sendAuthorized_iff {allowedStatuses : List AuthStatus}
    {url : List Char} (confined : state.Confined) :
    (state.sendAuthorized allowedStatuses url).Confined ↔
      (state.m_status ∈ allowedStatuses →
        Url.host url = Url.host state.m_hostname) := by
  unfold sendAuthorized
  split
  · next allowed =>
      refine ⟨fun sent _ => ?_, fun internal => ?_⟩
      · exact sent _ (List.mem_cons_self ..) state.m_stoken rfl
      · exact confined_send confined fun _ _ => internal allowed
  · next notAllowed =>
      exact iff_of_true confined fun allowed => absurd allowed notAllowed

/-- Every request but that for the release track keeps the token confined. -/
theorem step_confined_iff (parses : ParsesHosts parse_uri)
    (copies : CopiesText format)
    (hasAuthority : Url.HasAuthority state.m_hostname)
    (confined : state.Confined)
    (taken : state.step parse_uri format action = some next) :
    next.Confined ↔ state.ReleaseTrackInternal action := by
  cases action with
  | releaseTrackRequest =>
      obtain rfl := Option.some.inj taken
      rw [confined_sendAuthorized_iff confined]
      simp [ReleaseTrackInternal]
  | apiRequest endpoint arguments allowedStatuses =>
      obtain ⟨url, formatted, rfl⟩ := Option.map_eq_some_iff.mp taken
      refine iff_of_true ((confined_sendAuthorized_iff confined).mpr fun _ => ?_)
        trivial
      exact host_url copies hasAuthority endpoint formatted
  | jwtRequest =>
      obtain ⟨url, formatted, rfl⟩ := Option.map_eq_some_iff.mp taken
      exact iff_of_true (confined_send confined fun _ _ =>
        host_url copies hasAuthority _ formatted) trivial
  | download url extraHeaders =>
      obtain ⟨fullUrl, -, rfl⟩ := Option.map_eq_some_iff.mp taken
      refine iff_of_true (confined_send confined fun stoken bearer => ?_) trivial
      exact host_of_isHostMatching parses (isInternal_of_bearer bearer)
  | tokenRequest =>
      obtain ⟨url, -, rfl⟩ := Option.map_eq_some_iff.mp taken
      exact iff_of_true (confined_send confined fun _ => nofun) trivial
  | noopRequest =>
      obtain rfl := Option.some.inj taken
      exact iff_of_true (confined_send confined fun _ => nofun) trivial
  | statusChanges status =>
      obtain rfl := Option.some.inj taken
      exact iff_of_true confined trivial
  | uuidChanges uuid =>
      obtain rfl := Option.some.inj taken
      exact iff_of_true confined trivial
  | machineUuidChanges machineUuid =>
      obtain rfl := Option.some.inj taken
      exact iff_of_true confined trivial
  | tokenReply token =>
      obtain rfl := Option.some.inj taken
      exact iff_of_true confined trivial
  | scorbitronObject releaseUrl =>
      obtain rfl := Option.some.inj taken
      exact iff_of_true confined trivial

theorem step_m_hostname
    (taken : state.step parse_uri format action = some next) :
    next.m_hostname = state.m_hostname := by
  have authorized (allowedStatuses : List AuthStatus) (url : List Char) :
      (state.sendAuthorized allowedStatuses url).m_hostname =
        state.m_hostname := by
    unfold sendAuthorized
    split <;> rfl
  cases action with
  | releaseTrackRequest =>
      obtain rfl := Option.some.inj taken
      exact authorized _ _
  | apiRequest endpoint arguments allowedStatuses =>
      obtain ⟨url, -, rfl⟩ := Option.map_eq_some_iff.mp taken
      exact authorized _ _
  | jwtRequest =>
      obtain ⟨url, -, rfl⟩ := Option.map_eq_some_iff.mp taken
      rfl
  | download url extraHeaders =>
      obtain ⟨fullUrl, -, rfl⟩ := Option.map_eq_some_iff.mp taken
      rfl
  | tokenRequest =>
      obtain ⟨url, -, rfl⟩ := Option.map_eq_some_iff.mp taken
      rfl
  | _ =>
      obtain rfl := Option.some.inj taken
      rfl

variable (parse_uri) in
/-- A `Net` that has been constructed with a host name. -/
def constructed (hostname : List Char) : TokenNet where
  m_hostname := setHostname parse_uri hostname

/-- The token stays confined along exactly the runs in which the release track
is only asked for at the host of `m_hostname`. -/
theorem confined_iff (parses : ParsesHosts parse_uri)
    (copies : CopiesText format) (hostname : List Char)
    (actions : List TokenAction) :
    Transition.HoldsAlong (step parse_uri format)
        (fun state action => ∀ next,
          state.step parse_uri format action = some next → next.Confined)
        (constructed parse_uri hostname) actions ↔
      Transition.HoldsAlong (step parse_uri format) ReleaseTrackInternal
        (constructed parse_uri hostname) actions := by
  have exact : ∀ (state : TokenNet) action next,
      Url.HasAuthority state.m_hostname ∧ state.Confined →
      state.step parse_uri format action = some next →
        (Url.HasAuthority next.m_hostname ∧ next.Confined ↔
          state.ReleaseTrackInternal action) := by
    intro state action next holds taken
    rw [← step_confined_iff parses copies holds.1 holds.2 taken,
      step_m_hostname taken]
    exact and_iff_right holds.1
  have initially : Url.HasAuthority (constructed parse_uri hostname).m_hostname :=
    hasAuthority_setHostname parses hostname
  have preserved : ∀ (state : TokenNet) action next,
      Url.HasAuthority state.m_hostname →
      state.step parse_uri format action = some next →
        Url.HasAuthority next.m_hostname :=
    fun state action next holds taken => step_m_hostname taken ▸ holds
  rw [← Transition.holdsAlong_kept_iff exact ⟨initially, nofun⟩]
  refine Transition.holdsAlong_congr preserved ?_ initially
  intro state action next holds _
  refine forall₂_congr fun other taken => ?_
  exact (and_iff_right (preserved state action other holds taken)).symm

end TokenNet

/-! ## A release track elsewhere -/

namespace TokenNet

namespace Sample

/-- The scheme, the host and the port of a URL with an authority. -/
def parse_uri (url : List Char) : Option ParsedUrl :=
  let port := (Url.hostAndPort url).dropWhile (· ≠ ':')
  if Url.authority url = [] then none
  else some
    { scheme := url.takeWhile (· ≠ ':')
      host := Url.host url
      port := if port = [] then none else some port.tail }

/-- Replace the names in braces by their values; a brace that stands alone is
thrown out. -/
def formatFrom (arguments : List (String × List Char)) :
    Option (List Char) → List Char → Option (List Char)
  | none, [] => some []
  | none, '{' :: rest => formatFrom arguments (some []) rest
  | none, '}' :: _ => none
  | none, c :: rest => (formatFrom arguments none rest).map (c :: ·)
  | some _, [] => none
  | some name, '}' :: rest => do
      let value ← arguments.lookup (String.ofList name)
      let behind ← formatFrom arguments none rest
      some (value ++ behind)
  | some name, c :: rest => formatFrom arguments (some (name ++ [c])) rest

def format : TextFormat :=
  fun text arguments => formatFrom arguments none text

theorem parses : ParsesHosts parse_uri := by
  intro url parsed isParsed
  simp only [parse_uri] at isParsed
  split at isParsed
  · exact nomatch isParsed
  · obtain rfl := Option.some.inj isParsed
    refine ⟨rfl, fun member => ?_⟩
    simpa using List.mem_takeWhile_imp member

theorem copies : CopiesText format := by
  intro text rest arguments formatted plain isFormatted
  induction text generalizing formatted with
  | nil => exact List.nil_prefix
  | cons c text ih =>
      have noBrace := plain c (List.mem_cons_self ..)
      have unfolded : formatFrom arguments none (c :: (text ++ rest)) =
          (formatFrom arguments none (text ++ rest)).map (c :: ·) := by
        rw [formatFrom]
        · exact noBrace.1
        · exact noBrace.2
      rw [List.cons_append, format, unfolded] at isFormatted
      obtain ⟨behind, isBehind, rfl⟩ := Option.map_eq_some_iff.mp isFormatted
      have later := ih behind
        (fun d member => plain d (List.mem_cons_of_mem _ member)) isBehind
      exact List.cons_prefix_cons.mpr ⟨rfl, later⟩

/-- The machine is authenticated and paired, its avatars come from elsewhere,
and the release track is asked for at `releaseUrl`. -/
def actions (releaseUrl : String) : List TokenAction :=
  [.uuidChanges "7a16ea98".toList, .tokenRequest,
    .tokenReply "secret".toList, .statusChanges .authenticatedPaired,
    .apiRequest .object [] [.authenticatedUnpaired, .authenticatedPaired],
    .scorbitronObject (some releaseUrl.toList),
    .download "https://cdn.example.com/avatar.png".toList
      [("Accept", "application/octet-stream".toList)],
    .download "https://api.scorbit.io/v2/sdk.tgz".toList [],
    .releaseTrackRequest]

def releaseTrackInternal (state : TokenNet) : TokenAction → Bool
  | .releaseTrackRequest =>
      Url.host state.m_releaseTrackUrl = Url.host state.m_hostname
  | _ => true

theorem releaseTrackInternal_sound (state : TokenNet) (action : TokenAction)
    (internal : releaseTrackInternal state action = true) :
    state.ReleaseTrackInternal action := by
  cases action with
  | releaseTrackRequest => exact fun _ => of_decide_eq_true internal
  | _ => trivial

end Sample

/-- The release track at the host of `m_hostname`. -/
theorem confined_internalTrack :
    Transition.HoldsAlong (step Sample.parse_uri Sample.format)
      (fun state action => ∀ next,
        state.step Sample.parse_uri Sample.format action = some next →
          next.Confined)
      (constructed Sample.parse_uri [])
      (Sample.actions "https://api.scorbit.io/tracks/1/") := by
  apply (confined_iff Sample.parses Sample.copies [] _).mpr
  refine Transition.HoldsAlong.of_checksAlong
    Sample.releaseTrackInternal_sound ?_
  decide +kernel

/-- The release track elsewhere gets the token. -/
theorem notConfined_externalTrack :
    (ParsesHosts Sample.parse_uri ∧ CopiesText Sample.format) ∧
    ∃ final, Transition.run (step Sample.parse_uri Sample.format)
        (constructed Sample.parse_uri [])
        (Sample.actions "https://tracks.example.com/1/") = some final ∧
      ¬ final.Confined := by
  refine ⟨⟨Sample.parses, Sample.copies⟩, ?_⟩
  have evaluated : ((Transition.run (step Sample.parse_uri Sample.format)
      (constructed Sample.parse_uri [])
      (Sample.actions "https://tracks.example.com/1/")).any fun final =>
        decide (final.sent.head? = some
          ⟨"https://tracks.example.com/1/".toList,
            some (.bearer "secret".toList)⟩) &&
        decide (Url.host final.m_hostname = "api.scorbit.io".toList)) = true := by
    decide +kernel
  obtain ⟨final, reached, leaked⟩ := (Option.any_eq_true _ _).mp evaluated
  simp only [Bool.and_eq_true, decide_eq_true_eq] at leaked
  obtain ⟨sent, hostname⟩ := leaked
  refine ⟨final, reached, fun confined => ?_⟩
  have same := confined _ (List.mem_of_mem_head? sent) _ rfl
  rw [hostname] at same
  exact absurd same (by decide +kernel)

end TokenNet

end ScorbitSdk
