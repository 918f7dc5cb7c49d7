import ScorbitSdk.BoundedLoops
import ScorbitSdk.FormatStrings
import ScorbitSdk.NetSessions
import ScorbitSdk.TokenConfinement

/-!
# Downloads

A download task formats its URL and makes up to three attempts.  A file is
opened once and every attempt appends to it; a buffer is assigned by the attempt
that is answered with 200 only.  What the replies are is arbitrary.
-/

namespace ScorbitSdk

inductive DownloadError
  | success
  | apiError
  | fileError
  deriving DecidableEq

structure DownloadReply where
  status_code : Int
  /-- The body, as far as it has been received. -/
  text : List UInt8
  deriving DecidableEq

structure DownloadTask where
  /-- Whether a callback has been given. -/
  callback : Bool := true
  url : List Char
  extraHeaders : List (String × List Char) := []

/-- What a task finds: whether the file can be opened and how much can be
reserved, and for each attempt the token of then and the reply. -/
structure DownloadEnvironment where
  opens : Bool := true
  reserves : Nat → Bool := fun _ => true
  stoken : Nat → List Char := fun _ => []
  replies : Nat → DownloadReply

/-- What a task has done; the file is the one that it has opened. -/
structure DownloadOutcome (Reply : Type*) where
  sent : List SentRequest := []
  file : Option (List UInt8) := none
  calledBack : List Reply := []
  throws : Bool := false

/-- What the loops of the tasks change. -/
structure DownloadLoop where
  sent : List SentRequest := []
  error : DownloadError := .apiError
  statusCode : Int := 0
  content : List UInt8 := []

namespace DownloadTask

def MAX_BUFFER_DOWNLOAD_SIZE : Nat := 10 * 1024 * 1024
def PICTURE_BUFFER_RESERVE : Nat := 300 * 1024

/-- The file's stream is the same for all attempts. -/
def fileAttempt (request : Nat → SentRequest) (replies : Nat → DownloadReply)
    (i : Nat) (run : DownloadLoop) : ForInStep DownloadLoop :=
  let r := replies i
  let run :=
    { run with
      sent := run.sent ++ [request i]
      statusCode := r.status_code
      content := run.content ++ r.text }
  if r.status_code = 200 then .done { run with error := .success }
  else if 400 ≤ r.status_code then .done { run with error := .apiError }
  else .yield { run with error := .apiError }

def bufferAttempt (request : Nat → SentRequest)
    (replies : Nat → DownloadReply) (i : Nat) (run : DownloadLoop) :
    ForInStep DownloadLoop :=
  let r := replies i
  let run := { run with sent := run.sent ++ [request i] }
  if r.status_code = 200 then
    if MAX_BUFFER_DOWNLOAD_SIZE < r.text.length then
      .done { run with error := .apiError, content := [] }
    else .done { run with error := .success, content := r.text }
  else if 400 ≤ r.status_code then .done { run with error := .apiError }
  else .yield { run with error := .apiError }

section Tasks

variable (parse_uri : List Char → Option ParsedUrl) (format : TextFormat)
  (state : TokenNet) (task : DownloadTask)

/-- The request of an attempt, with the token of then. -/
def request (fullUrl stoken : List Char) : SentRequest where
  url := fullUrl
  authorization :=
    { state with m_stoken := stoken }.downloadAuthorization
      (isHostMatching parse_uri fullUrl state.m_hostname) task.extraHeaders

def message (statusCode : Int) (url filename : List Char) : List Char :=
  "HTTP CODE: ".toList ++ (toString statusCode).toList ++ ", url: ".toList ++
    url ++ ", to file: ".toList ++ filename

def createDownloadFileTask (filename : List Char)
    (environment : DownloadEnvironment) :
    DownloadOutcome (DownloadError × List Char) :=
  let reported (error : DownloadError) (statusCode : Int) :=
    if task.callback then [(error, message statusCode task.url filename)] else []
  if environment.opens then
    match state.url format task.url [] with
    | none => { file := some [], throws := true }
    | some fullUrl =>
        let run := boundedLoop
          (fileAttempt
            (fun i => task.request parse_uri state fullUrl (environment.stoken i))
            environment.replies)
          numRetries 0 {}
        { sent := run.sent
          file := some run.content
          calledBack := reported run.error run.statusCode }
  else { calledBack := reported .fileError 0 }

/-- The headers are built once, before the first attempt. -/
def createDownloadBufferTask (reserveBufferSize : Nat)
    (environment : DownloadEnvironment) :
    DownloadOutcome (DownloadError × List UInt8) :=
  if 0 < reserveBufferSize ∧ environment.reserves reserveBufferSize = false then
    { throws := true }
  else
    match state.url format task.url [] with
    | none => { throws := true }
    | some fullUrl =>
        let run := boundedLoop
          (bufferAttempt
            (fun _ => task.request parse_uri state fullUrl (environment.stoken 0))
            environment.replies)
          numRetries 0 {}
        { sent := run.sent
          calledBack := if task.callback then [(run.error, run.content)] else [] }

/-- The download that `processScoresAndPlayersProfiles` posts. -/
def pictureDownload (pictureUrl : List Char) : DownloadTask where
  url := pictureUrl
  extraHeaders := [("Accept", "application/octet-stream".toList)]

end Tasks

/-! ## Attempts -/

section Attempts

/-- After such a reply there is another attempt, if there is one left. -/
def Retried (reply : DownloadReply) : Prop :=
  reply.status_code ≠ 200 ∧ reply.status_code < 400

/-- The attempt is made and answered with 200. -/
def Answered (replies : Nat → DownloadReply) (j : Nat) : Prop :=
  (replies j).status_code = 200 ∧ ∀ i < j, Retried (replies i)

/-- The bodies of the first attempts. -/
def bodies (replies : Nat → DownloadReply) (count : Nat) : List UInt8 :=
  (List.range count).flatMap fun i => (replies i).text

variable {request : Nat → SentRequest} {replies : Nat → DownloadReply}

theorem bodies_succ (count : Nat) :
    bodies replies (count + 1) = bodies replies count ++ (replies count).text := by
  simp [bodies, List.range_succ]

theorem bodies_succ_eq_iff (count : Nat) :
    bodies replies (count + 1) = (replies count).text ↔
      ∀ i < count, (replies i).text = [] := by
  rw [bodies_succ, List.append_left_eq_self]
  simp [bodies, List.flatMap_eq_nil_iff]

/-- The requests that have been sent are those of the attempts made so far. -/
def Sent (request : Nat → SentRequest) (sent : List SentRequest) : Prop :=
  sent ≠ [] ∧ ∀ made ∈ sent, ∃ i, made = request i

theorem sent_append {sent : List SentRequest} (i : Nat)
    (made : ∀ earlier ∈ sent, ∃ i, earlier = request i) :
    Sent request (sent ++ [request i]) := by
  refine ⟨by simp, fun other member => ?_⟩
  rcases List.mem_append.mp member with earlier | last
  · exact made other earlier
  · exact ⟨i, List.mem_singleton.mp last⟩

theorem not_answered_of_stopped {i j : Nat} (notAnswered : ¬ Answered replies i)
    (stopped : ¬ Retried (replies i)) (atLeast : i ≤ j) : ¬ Answered replies j := by
  intro answered
  rcases Nat.eq_or_lt_of_le atLeast with rfl | later
  · exact notAnswered answered
  · exact stopped (answered.2 i later)

/-- Only the first attempt that is answered with 200 is followed by none. -/
theorem Answered.unique {i j : Nat} (answered : Answered replies i)
    (other : Answered replies j) : i = j := by
  rcases Nat.lt_trichotomy i j with earlier | same | later
  · exact absurd answered.1 (other.2 i earlier).1
  · exact same
  · exact absurd other.1 (answered.2 j later).1

/-- What a loop of attempts for a file leaves. -/
structure FileLoopEnds (request : Nat → SentRequest)
    (replies : Nat → DownloadReply) (run : DownloadLoop) : Prop where
  sent : Sent request run.sent
  result :
    (run.error = .success ∧ ∃ j < numRetries, Answered replies j ∧
      run.content = bodies replies (j + 1)) ∨
    (run.error = .apiError ∧ ∀ j < numRetries, ¬ Answered replies j)

/-- What holds before an attempt for a file. -/
structure FileLoopKeeps (request : Nat → SentRequest)
    (replies : Nat → DownloadReply) (i : Nat) (run : DownloadLoop) : Prop where
  sent : ∀ made ∈ run.sent, ∃ k, made = request k
  made : 0 < i → run.sent ≠ []
  error : run.error = .apiError
  content : run.content = bodies replies i
  retried : ∀ k < i, Retried (replies k)

theorem fileAttempt_meets {i : Nat} {run : DownloadLoop}
    (keeps : FileLoopKeeps request replies i run) (less : i < numRetries) :
    PassMeets (FileLoopKeeps request replies (i + 1))
      (FileLoopEnds request replies) (fileAttempt request replies i run) := by
  have sent := sent_append i keeps.sent
  have content : run.content ++ (replies i).text = bodies replies (i + 1) := by
    rw [bodies_succ, keeps.content]
  unfold fileAttempt
  dsimp only
  split_ifs with answered stops
  · refine ⟨sent, Or.inl ⟨rfl, i, less, ⟨answered, keeps.retried⟩, content⟩⟩
  · refine ⟨sent, Or.inr ⟨rfl, fun j _ => ?_⟩⟩
    rcases Nat.lt_or_ge j i with earlier | atLeast
    · exact fun isAnswered => (keeps.retried j earlier).1 isAnswered.1
    · exact not_answered_of_stopped (fun isAnswered => answered isAnswered.1)
        (fun retried => absurd retried.2 (not_lt.mpr stops)) atLeast
  · refine ⟨sent.2, fun _ => sent.1, rfl, content, fun k less => ?_⟩
    rcases Nat.lt_succ_iff_lt_or_eq.mp less with earlier | rfl
    · exact keeps.retried k earlier
    · exact ⟨answered, not_le.mp stops⟩

theorem fileLoop_ends (request : Nat → SentRequest)
    (replies : Nat → DownloadReply) :
    FileLoopEnds request replies
      (boundedLoop (fileAttempt request replies) numRetries 0 {}) := by
  refine boundedLoop_rule (FileLoopKeeps request replies)
    ⟨by simp, by simp, rfl, by simp [bodies], by simp⟩ ?_ ?_
  · intro i run _ less keeps
    exact fileAttempt_meets keeps (by simpa using less)
  · intro run keeps
    refine ⟨⟨keeps.made (by decide), keeps.sent⟩, Or.inr ⟨keeps.error, ?_⟩⟩
    intro j less answered
    exact (keeps.retried j (by simpa using less)).1 answered.1

/-- A buffer has the body of one attempt, or nothing. -/
structure BufferLoopEnds (request : Nat → SentRequest)
    (replies : Nat → DownloadReply) (run : DownloadLoop) : Prop where
  sent : Sent request run.sent
  result :
    (run.error = .success ∧ ∃ j < numRetries, Answered replies j ∧
      run.content = (replies j).text) ∨
    (run.error = .apiError ∧ run.content = [])

/-- What holds before an attempt for a buffer. -/
structure BufferLoopKeeps (request : Nat → SentRequest)
    (replies : Nat → DownloadReply) (i : Nat) (run : DownloadLoop) : Prop where
  sent : ∀ made ∈ run.sent, ∃ k, made = request k
  made : 0 < i → run.sent ≠ []
  error : run.error = .apiError
  content : run.content = []
  retried : ∀ k < i, Retried (replies k)

theorem bufferAttempt_meets {i : Nat} {run : DownloadLoop}
    (keeps : BufferLoopKeeps request replies i run) (less : i < numRetries) :
    PassMeets (BufferLoopKeeps request replies (i + 1))
      (BufferLoopEnds request replies)
      (bufferAttempt request replies i run) := by
  have sent := sent_append i keeps.sent
  unfold bufferAttempt
  dsimp only
  split_ifs with answered tooBig stops
  · exact ⟨sent, Or.inr ⟨rfl, rfl⟩⟩
  · exact ⟨sent, Or.inl ⟨rfl, i, less, ⟨answered, keeps.retried⟩, rfl⟩⟩
  · exact ⟨sent, Or.inr ⟨rfl, keeps.content⟩⟩
  · refine ⟨sent.2, fun _ => sent.1, rfl, keeps.content, fun k less => ?_⟩
    rcases Nat.lt_succ_iff_lt_or_eq.mp less with earlier | rfl
    · exact keeps.retried k earlier
    · exact ⟨answered, not_le.mp stops⟩

theorem bufferLoop_ends (request : Nat → SentRequest)
    (replies : Nat → DownloadReply) :
    BufferLoopEnds request replies
      (boundedLoop (bufferAttempt request replies) numRetries 0 {}) := by
  refine boundedLoop_rule (BufferLoopKeeps request replies)
    ⟨by simp, by simp, rfl, rfl, by simp⟩ ?_ ?_
  · intro i run _ less keeps
    exact bufferAttempt_meets keeps (by simpa using less)
  · intro run keeps
    exact ⟨⟨keeps.made (by decide), keeps.sent⟩,
      Or.inr ⟨keeps.error, keeps.content⟩⟩

end Attempts

/-! ## The content of files -/

section Handled

variable {parse_uri : List Char → Option ParsedUrl} {format : TextFormat}
  {state : TokenNet} {task : DownloadTask}

/-- Where the callback is called with success, the file has the body of the
attempt that was answered with 200. -/
def ContentOfAnswer (environment : DownloadEnvironment)
    (outcome : DownloadOutcome (DownloadError × List Char)) : Prop :=
  ∀ message, (DownloadError.success, message) ∈ outcome.calledBack →
    ∃ j < numRetries, Answered environment.replies j ∧
      outcome.file = some (environment.replies j).text

/-- No attempt that was made before one answered with 200 has left anything. -/
def NothingLeft (replies : Nat → DownloadReply) : Prop :=
  ∀ j < numRetries, Answered replies j → ∀ i < j, (replies i).text = []

variable (parse_uri) in
/-- The file has the body of the answered attempt exactly if the attempts before
have received no body. -/
theorem contentOfAnswer_iff (filename : List Char)
    (environment : DownloadEnvironment) :
    ContentOfAnswer environment
        (task.createDownloadFileTask parse_uri format state filename
          environment) ↔
      (task.callback = true → environment.opens = true →
        (state.url format task.url []).isSome = true →
          NothingLeft environment.replies) := by
  unfold ContentOfAnswer createDownloadFileTask
  cases callback : task.callback with
  | false =>
      refine iff_of_true (fun message => ?_) nofun
      simp only [Bool.false_eq_true, if_false]
      split
      · split <;> simp
      · simp
  | true =>
  cases opens : environment.opens with
  | false => simp
  | true =>
  cases formatted : state.url format task.url [] with
  | none => simp
  | some fullUrl =>
      have ends := fileLoop_ends
        (fun i => task.request parse_uri state fullUrl (environment.stoken i))
        environment.replies
      simp only [if_true, List.mem_singleton, Prod.mk.injEq, Option.some.injEq,
        Option.isSome_some, forall_const]
      rcases ends.result with ⟨error, j, less, answered, content⟩ | ⟨error, never⟩
      · constructor
        · intro holds i _ isAnswered
          obtain ⟨k, -, other, same⟩ := holds _ ⟨error.symm, rfl⟩
          rw [content, ← answered.unique other, bodies_succ_eq_iff] at same
          rwa [isAnswered.unique answered]
        · intro nothingLeft message _
          refine ⟨j, less, answered, ?_⟩
          rw [content, bodies_succ_eq_iff]
          exact nothingLeft j less answered
      · refine iff_of_true (fun message reported => ?_) fun j less answered => ?_
        · rw [error] at reported
          exact nomatch reported.1
        · exact absurd answered (never j less)

/-! ## URLs -/

/-- The schemes as `Net::url` looks for them. -/
def HasScheme (url : List Char) : Prop :=
  "http://".toList.isPrefixOf url ∨ "https://".toList.isPrefixOf url

instance (url : List Char) : Decidable (HasScheme url) :=
  inferInstanceAs (Decidable (_ ∨ _))

/-- Schemes do not depend on the case of their letters. -/
def IsAbsoluteHttp (url : List Char) : Prop :=
  HasScheme (url.map Char.toLower)

/-- The arguments that `Net::url` formats with. -/
def uuids (state : TokenNet) : List (String × List Char) :=
  [("scorbitron_uuid", state.uuid), ("machine_uuid", state.machineUuid)]

def PlainArguments (arguments : List (String × List Char)) : Prop :=
  ∀ argument ∈ arguments, NoBraces argument.2

variable (format state) in
/-- The URL comes out of `Net::url` as it is: it is taken for an absolute one and
formatted to itself, or it begins with the host name and what is behind that is
what the whole is formatted to. -/
def Verbatim (url : List Char) : Prop :=
  (HasScheme url ∧ format url (uuids state) = some url) ∨
  (¬ HasScheme url ∧ ¬ NoBraces state.m_hostname ∧
    ∃ formatted, format url (uuids state) = some formatted ∧
      url = state.m_hostname ++ '/' :: formatted)

theorem hasScheme_iff (url : List Char) :
    HasScheme url ↔ "http://".toList <+: url ∨ "https://".toList <+: url := by
  rw [← List.isPrefixOf_iff_prefix, ← List.isPrefixOf_iff_prefix]
  exact Iff.rfl

/-- No scheme is the beginning of another one. -/
theorem scheme_eq {scheme other : List Char}
    (isScheme : scheme = "http://".toList ∨ scheme = "https://".toList)
    (isOther : other = "http://".toList ∨ other = "https://".toList)
    (comparable : scheme <+: other ∨ other <+: scheme) : scheme = other := by
  rcases isScheme with rfl | rfl <;> rcases isOther with rfl | rfl <;>
    revert comparable <;> decide

theorem noBraces_of_toLower {scheme : List Char}
    (isScheme : scheme.map Char.toLower = "http://".toList ∨
      scheme.map Char.toLower = "https://".toList) : NoBraces scheme := by
  intro c member
  have lower : c.toLower ∈ scheme.map Char.toLower :=
    List.mem_map_of_mem member
  by_contra isBraceChar
  simp only [isBrace, Bool.or_eq_false_iff, decide_eq_false_iff_not, not_and_or,
    not_not] at isBraceChar
  rcases isScheme with same | same <;> rw [same] at lower <;>
    rcases isBraceChar with rfl | rfl <;> exact absurd lower (by decide)

/-- The scheme of an absolute URL, and what is behind it. -/
theorem IsAbsoluteHttp.scheme {url : List Char} (absolute : IsAbsoluteHttp url) :
    ∃ scheme rest, url = scheme ++ rest ∧
      (scheme.map Char.toLower = "http://".toList ∨
        scheme.map Char.toLower = "https://".toList) := by
  rcases (hasScheme_iff _).mp absolute with ⟨tail, same⟩ | ⟨tail, same⟩
  · obtain ⟨scheme, rest, rfl, lower, -⟩ := List.map_eq_append_iff.mp same.symm
    exact ⟨scheme, rest, rfl, Or.inl lower⟩
  · obtain ⟨scheme, rest, rfl, lower, -⟩ := List.map_eq_append_iff.mp same.symm
    exact ⟨scheme, rest, rfl, Or.inr lower⟩

/-- What is behind the scheme does not matter for it. -/
theorem hasScheme_append_iff {scheme : List Char}
    (isScheme : scheme.map Char.toLower = "http://".toList ∨
      scheme.map Char.toLower = "https://".toList) (rest : List Char) :
    HasScheme (scheme ++ rest) ↔ scheme.map Char.toLower = scheme := by
  constructor
  · intro has
    obtain ⟨found, isFound, isPrefixed⟩ : ∃ found,
        (found = "http://".toList ∨ found = "https://".toList) ∧
          found <+: scheme ++ rest :=
      ((hasScheme_iff _).mp has).elim (⟨_, Or.inl rfl, ·⟩) (⟨_, Or.inr rfl, ·⟩)
    have lower : found.map Char.toLower = found := by
      rcases isFound with rfl | rfl <;> decide
    have comparable := List.prefix_or_prefix_of_prefix isPrefixed
      (List.prefix_append scheme rest)
    have same : found = scheme.map Char.toLower := by
      apply scheme_eq isFound isScheme
      rw [← lower]
      exact comparable.imp (fun shorter => shorter.map _) fun longer =>
        longer.map _
    have length : found.length = scheme.length := by
      rw [same, List.length_map]
    rw [← same]
    rcases comparable with shorter | longer
    · exact shorter.eq_of_length length
    · exact (longer.eq_of_length length.symm).symm
  · intro same
    rw [hasScheme_iff, ← same]
    rcases isScheme with isHttp | isHttps
    · rw [isHttp]
      exact Or.inl (List.prefix_append _ _)
    · rw [isHttps]
      exact Or.inr (List.prefix_append _ _)

/-- Which absolute URLs are asked for as they are. -/
theorem url_eq_iff (laws : FormatLaws format PlainArguments) {url : List Char}
    (absolute : IsAbsoluteHttp url) :
    state.url format url [] = some url ↔ Verbatim format state url := by
  obtain ⟨scheme, rest, rfl, isScheme⟩ := absolute.scheme
  have noBraces := noBraces_of_toLower isScheme
  have formatsTo : state.url format (scheme ++ rest) [] =
      (format (scheme ++ rest) (uuids state)).map fun formatted =>
        if HasScheme formatted then formatted
        else state.m_hostname ++ '/' :: formatted := rfl
  unfold Verbatim
  rw [formatsTo]
  cases isFormatted : format (scheme ++ rest) (uuids state) with
  | none => simp
  | some formatted =>
      have derived := laws.formatted _ _ _ isFormatted
      obtain ⟨tail, rfl⟩ := derived.noBraces_prefix noBraces
      simp only [Option.map_some, Option.some.injEq, exists_eq_left']
      by_cases lower : scheme.map Char.toLower = scheme
      · have has := (hasScheme_append_iff isScheme tail).mpr lower
        have hasRest := (hasScheme_append_iff isScheme rest).mpr lower
        rw [if_pos has]
        simp [hasRest]
      · have hasNot := mt (hasScheme_append_iff isScheme tail).mp lower
        have hasNotRest := mt (hasScheme_append_iff isScheme rest).mp lower
        rw [if_neg hasNot]
        simp only [hasNotRest, false_and, not_false_eq_true, true_and, false_or]
        refine ⟨fun same => ⟨fun plainHost => ?_, same.symm⟩,
          fun same => same.2.symm⟩
        rw [← same, List.append_cons] at derived
        refine Formatted.ne_append ?_ (by simp) derived
        intro c member
        rcases List.mem_append.mp member with isHost | isSlash
        · exact plainHost c isHost
        · rw [List.mem_singleton.mp isSlash]
          decide

/-! ## Handled downloads -/

/-- The callback is called once and nothing is thrown out of the task; requests
are only made for the URL, and there is one if the task gets so far. -/
structure Handles {Reply : Type*} (url : List Char) (requested : Prop)
    (outcome : DownloadOutcome Reply) : Prop where
  throws : outcome.throws = false
  calledBack : outcome.calledBack.length = 1
  made : requested → outcome.sent ≠ []
  sent : ∀ request ∈ outcome.sent, request.url = url

theorem sent_urls_iff {request : Nat → SentRequest} {sent : List SentRequest}
    (isSent : Sent request sent) {fullUrl : List Char}
    (isFull : ∀ i, (request i).url = fullUrl) (url : List Char) :
    (∀ made ∈ sent, made.url = url) ↔ fullUrl = url := by
  constructor
  · intro same
    obtain ⟨made, member⟩ := List.exists_mem_of_ne_nil _ isSent.1
    obtain ⟨i, rfl⟩ := isSent.2 made member
    rw [← isFull i, same _ member]
  · intro same made member
    obtain ⟨i, rfl⟩ := isSent.2 made member
    rw [isFull i, same]

variable (parse_uri) in
theorem handles_createDownloadFileTask (url filename : List Char)
    (extraHeaders : List (String × List Char))
    (environment : DownloadEnvironment) :
    Handles url (environment.opens = true)
        (createDownloadFileTask parse_uri format state
          { url, extraHeaders } filename environment) ↔
      (environment.opens = true → state.url format url [] = some url) := by
  unfold createDownloadFileTask
  cases opens : environment.opens with
  | false => exact iff_of_true ⟨rfl, rfl, nofun, by simp⟩ nofun
  | true =>
      cases formatted : state.url format url [] with
      | none => exact iff_of_false (fun handled => nomatch handled.throws) (by simp)
      | some fullUrl =>
          have ends := fileLoop_ends
            (fun i => request parse_uri state { url, extraHeaders } fullUrl
              (environment.stoken i)) environment.replies
          have urls := sent_urls_iff ends.sent (fun _ => rfl) url
          simp only [if_true, forall_const, Option.some.injEq]
          exact ⟨fun handled => urls.mp handled.sent, fun same =>
            ⟨rfl, rfl, fun _ => ends.sent.1, urls.mpr same⟩⟩

variable (parse_uri format state) in
theorem handles_createDownloadBufferTask (url : List Char)
    (extraHeaders : List (String × List Char)) (reserveBufferSize : Nat)
    (environment : DownloadEnvironment) :
    Handles url True
        (createDownloadBufferTask parse_uri format state { url, extraHeaders }
          reserveBufferSize environment) ↔
      (0 < reserveBufferSize → environment.reserves reserveBufferSize = true) ∧
        state.url format url [] = some url := by
  unfold createDownloadBufferTask
  by_cases refused : 0 < reserveBufferSize ∧
      environment.reserves reserveBufferSize = false
  · rw [if_pos refused]
    refine iff_of_false (fun handled => nomatch handled.throws) fun holds => ?_
    rw [holds.1 refused.1] at refused
    exact nomatch refused.2
  · rw [if_neg refused]
    have reserved : 0 < reserveBufferSize →
        environment.reserves reserveBufferSize = true := by
      simpa using refused
    rw [and_iff_right reserved]
    cases formatted : state.url format url [] with
    | none => exact iff_of_false (fun handled => nomatch handled.throws) (by simp)
    | some fullUrl =>
        have ends := bufferLoop_ends
          (fun _ => request parse_uri state { url, extraHeaders } fullUrl
            (environment.stoken 0)) environment.replies
        have urls := sent_urls_iff ends.sent (fun _ => rfl) url
        simp only [if_true, Option.some.injEq]
        exact ⟨fun handled => urls.mp handled.sent, fun same =>
          ⟨rfl, rfl, fun _ => ends.sent.1, urls.mpr same⟩⟩

/-- Where neither the uuids nor the host name have braces, the URLs that come out
as they are have none either, and a scheme in small letters. -/
theorem verbatim_iff_of_plain (laws : FormatLaws format PlainArguments)
    (plainUuids : NoBraces state.uuid ∧ NoBraces state.machineUuid)
    (plainHost : NoBraces state.m_hostname) (url : List Char) :
    Verbatim format state url ↔ HasScheme url ∧ NoBraces url := by
  have isPlain : PlainArguments (uuids state) := by
    simpa [PlainArguments, uuids] using plainUuids
  simp only [Verbatim, not_true_eq_false, plainHost, false_and, and_false,
    or_false, laws.format_eq_self_iff isPlain]

variable (parse_uri state) in
/-- Absolute URLs are handled, by the tasks of `download` and of `downloadBuffer`
and for pictures, exactly if they come out of `Net::url` as they are. -/
theorem handles_iff (laws : FormatLaws format PlainArguments) {url : List Char}
    (absolute : IsAbsoluteHttp url) (filename : List Char)
    (extraHeaders : List (String × List Char)) (reserveBufferSize : Nat)
    (environment : DownloadEnvironment) :
    (Handles url (environment.opens = true)
        (createDownloadFileTask parse_uri format state { url, extraHeaders }
          filename environment) ↔
      (environment.opens = true → Verbatim format state url)) ∧
    (Handles url True
        (createDownloadBufferTask parse_uri format state { url, extraHeaders }
          reserveBufferSize environment) ↔
      (0 < reserveBufferSize → environment.reserves reserveBufferSize = true) ∧
        Verbatim format state url) ∧
    (Handles url True
        (createDownloadBufferTask parse_uri format state (pictureDownload url)
          PICTURE_BUFFER_RESERVE environment) ↔
      environment.reserves PICTURE_BUFFER_RESERVE = true ∧
        Verbatim format state url) ∧
    (NoBraces state.uuid ∧ NoBraces state.machineUuid →
      NoBraces state.m_hostname →
        (Verbatim format state url ↔ HasScheme url ∧ NoBraces url)) := by
  simp only [← url_eq_iff laws absolute]
  refine ⟨handles_createDownloadFileTask parse_uri url filename extraHeaders
    environment, handles_createDownloadBufferTask parse_uri format state url
    extraHeaders reserveBufferSize environment, ?_, fun plainUuids plainHost => ?_⟩
  · have picture := handles_createDownloadBufferTask parse_uri format state url
      [("Accept", "application/octet-stream".toList)] PICTURE_BUFFER_RESERVE
      environment
    rwa [forall_prop_of_true (by decide : 0 < PICTURE_BUFFER_RESERVE)] at picture
  · rw [url_eq_iff laws absolute, verbatim_iff_of_plain laws plainUuids plainHost]

end Handled

/-! ## Downloads that go wrong -/

namespace Sample

/-- Replace the names in braces by their values, and two braces by one. -/
def formatFrom (arguments : List (String × List Char)) :
    Option (List Char) → List Char → Option (List Char)
  | none, [] => some []
  | none, '{' :: '{' :: rest => (formatFrom arguments none rest).map ('{' :: ·)
  | none, '}' :: '}' :: rest => (formatFrom arguments none rest).map ('}' :: ·)
  | none, '{' :: rest => formatFrom arguments (some []) rest
  | none, '}' :: _ => none
  | none, c :: rest => (formatFrom arguments none rest).map (c :: ·)
  | some _, [] => none
  | some name, '}' :: rest => do
      let value ← arguments.lookup (String.ofList name)
      let behind ← formatFrom arguments none rest
      some (value ++ behind)
  | some name, c :: rest => formatFrom arguments (some (name ++ [c])) rest

def format : TextFormat :=
  fun text arguments => formatFrom arguments none text

theorem copied (text : List Char) (arguments : List (String × List Char))
    (noBraces : NoBraces text) : format text arguments = some text := by
  unfold format
  induction text with
  | nil => rfl
  | cons c text ih =>
      obtain ⟨isText, noBraces⟩ := List.forall_mem_cons.mp noBraces
      simp only [isBrace, Bool.or_eq_false_iff, decide_eq_false_iff_not] at isText
      rw [formatFrom]
      · rw [ih noBraces]
        rfl
      all_goals simp [isText]

/-- What is behind the name in a field, and what is formatted of a text. -/
theorem formatted_formatFrom (arguments : List (String × List Char)) :
    ∀ (name : Option (List Char)) (text result : List Char),
      formatFrom arguments name text = some result →
        match name with
        | none => Formatted (PlainArguments arguments) text result
        | some _ => ∃ inside behind value formatted,
            text = inside ++ '}' :: behind ∧ result = value ++ formatted ∧
            (PlainArguments arguments → NoBraces value) ∧
            Formatted (PlainArguments arguments) behind formatted := by
  intro name text
  fun_induction formatFrom arguments name text with
  | case1 =>
      intro result isResult
      obtain rfl := Option.some.inj isResult
      exact .nil
  | case2 rest ih =>
      intro result isResult
      obtain ⟨behind, isBehind, rfl⟩ := Option.map_eq_some_iff.mp isResult
      exact .escaped '{' rfl (ih behind isBehind)
  | case3 rest ih =>
      intro result isResult
      obtain ⟨behind, isBehind, rfl⟩ := Option.map_eq_some_iff.mp isResult
      exact .escaped '}' rfl (ih behind isBehind)
  | case4 rest _ ih =>
      intro result isResult
      obtain ⟨inside, behind, value, formatted, rfl, rfl, isPlain, isFormatted⟩ :=
        ih result isResult
      exact .field inside value isPlain isFormatted
  | case5 => exact fun _ isResult => nomatch isResult
  | case6 c rest _ _ notOpen notClose ih =>
      intro result isResult
      obtain ⟨behind, isBehind, rfl⟩ := Option.map_eq_some_iff.mp isResult
      refine .text c ?_ (ih behind isBehind)
      simpa [isBrace] using ⟨notOpen, notClose⟩
  | case7 => exact fun _ isResult => nomatch isResult
  | case8 name rest ih =>
      intro result isResult
      obtain ⟨value, isValue, bound⟩ := Option.bind_eq_some_iff.mp isResult
      obtain ⟨behind, isBehind, same⟩ := Option.bind_eq_some_iff.mp bound
      obtain rfl := Option.some.inj same
      refine ⟨[], rest, value, behind, rfl, rfl, fun isPlain => ?_,
        ih behind isBehind⟩
      obtain ⟨before, after, rfl, -⟩ := List.lookup_eq_some_iff.mp isValue
      exact isPlain (String.ofList name, value) (by simp)
  | case9 name c rest _ ih =>
      intro result isResult
      obtain ⟨inside, behind, value, formatted, rfl, same⟩ := ih result isResult
      exact ⟨c :: inside, behind, value, formatted, rfl, same⟩

theorem laws : FormatLaws format PlainArguments where
  copied := copied
  formatted := fun text arguments result isResult =>
    formatted_formatFrom arguments none text result isResult

/-- A machine that is authenticated and paired. -/
def state : TokenNet where
  m_hostname := "https://api.scorbit.io:443".toList
  uuid := "7a16ea98".toList
  machineUuid := "c5f2a6a0".toList
  m_stoken := "secret".toList

def environment (replies : List DownloadReply) : DownloadEnvironment where
  replies := fun i => replies.getD i ⟨0, []⟩

/-- A first attempt that was cut off, and a second one that was not. -/
def cutOff : DownloadEnvironment :=
  environment [⟨0, [1, 2]⟩, ⟨200, [1, 2, 3]⟩]

def cutOffOutcome : DownloadOutcome (DownloadError × List Char) :=
  createDownloadFileTask TokenNet.Sample.parse_uri format state
    { url := "https://api.scorbit.io/v2/sdk.tgz".toList }
    "/tmp/a7c3.tar.gz".toList cutOff

end Sample

/-- What was received of the first attempt is left in the file. -/
theorem notContentOfAnswer_cutOff :
    ¬ ContentOfAnswer Sample.cutOff Sample.cutOffOutcome := by
  intro holds
  have file : Sample.cutOffOutcome.file = some [1, 2, 1, 2, 3] := by
    decide +kernel
  have reported : DownloadError.success ∈
      Sample.cutOffOutcome.calledBack.map Prod.fst := by
    decide +kernel
  obtain ⟨⟨error, message⟩, member, rfl⟩ := List.mem_map.mp reported
  obtain ⟨j, less, -, same⟩ := holds message member
  rw [file, Option.some.injEq] at same
  have length := congrArg List.length same
  match j, less with
  | 0, _ => exact nomatch length
  | 1, _ => exact nomatch length
  | 2, _ => exact nomatch length

/-- A URL without braces is handled. -/
theorem handles_plainUrl :
    Handles "https://cdn.example.com/avatar.png".toList True
      (createDownloadBufferTask TokenNet.Sample.parse_uri Sample.format
        Sample.state
        (pictureDownload "https://cdn.example.com/avatar.png".toList)
        PICTURE_BUFFER_RESERVE (Sample.environment [])) := by
  have absolute : IsAbsoluteHttp "https://cdn.example.com/avatar.png".toList :=
    Or.inr (by decide)
  have handles := handles_iff TokenNet.Sample.parse_uri Sample.state Sample.laws
    absolute [] [] 0 (Sample.environment [])
  have verbatim := (handles.2.2.2 (by decide) (by decide)).mpr
    ⟨Or.inr (by decide), by decide⟩
  exact handles.2.2.1.mpr ⟨rfl, verbatim⟩

/-- The task of a picture whose URL has a name in braces ends with an exception,
without a request and without a call of its callback. -/
theorem not_handles_pictureWithBraces :
    IsAbsoluteHttp "https://cdn.example.com/\x7bsize\x7d.png".toList ∧
    ¬ Handles "https://cdn.example.com/\x7bsize\x7d.png".toList True
      (createDownloadBufferTask TokenNet.Sample.parse_uri Sample.format
        Sample.state
        (pictureDownload "https://cdn.example.com/\x7bsize\x7d.png".toList)
        PICTURE_BUFFER_RESERVE (Sample.environment [])) := by
  refine ⟨Or.inr (by decide), fun handled => ?_⟩
  exact absurd handled.throws (by decide +kernel)

end DownloadTask

end ScorbitSdk
