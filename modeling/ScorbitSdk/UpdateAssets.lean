import ScorbitSdk.CapturingPatterns
import ScorbitSdk.CheckedPrograms
import ScorbitSdk.ReplyCallbacks

/-!
# The assets of an update

Of the assets of a release the first one for the version and the platform is
chosen, where a platform that ends in `u18` goes with one that ends in `u20`.
The ends of the device's own platform are not looked at.
-/

namespace ScorbitSdk

open JsonOutcome JsonNode Pattern

/-- `^.*scorbit_sdk-((\d+\.?)+)-(\w+)\.(tar\.gz|tgz)$` -/
def SDK_URL_PATTERN : Pattern :=
  inOrder
    [star anyChar, literal "scorbit_sdk-".toList,
      group 1 (plus (group 2 (seq (plus digit) (optional (literal ['.']))))),
      literal ['-'], group 3 (plus wordChar), literal ['.'],
      group 4 (alt (literal "tar.gz".toList) (literal "tgz".toList))]

/-- `^scorbitd-((\d+\.?)+)-(\w+)\.(tar\.gz|tgz)$` -/
def SCORBITD_NAME_PATTERN : Pattern :=
  inOrder
    [literal "scorbitd-".toList,
      group 1 (plus (group 2 (seq (plus digit) (optional (literal ['.']))))),
      literal ['-'], group 3 (plus wordChar), literal ['.'],
      group 4 (alt (literal "tar.gz".toList) (literal "tgz".toList))]

/-- The version and the platform in a text. -/
def matchAsset (pattern : Pattern) (text : List Char) :
    Option (List Char × List Char) := do
  let found ← pattern.fullMatch text
  let version ← found.lookup 1
  let platformId ← found.lookup 3
  some (version, platformId)

/-- What the library has been built with, and what it has been started with. -/
structure Updater where
  sdkVersion : List Char
  sdkVersionMajor : Nat
  sdkVersionMinor : Nat
  sdkPlatformId : List Char
  thisKeyHash : List Char := "unknown2".toList
  productionKeyHash : List Char := "unknown1".toList
  m_useEncryptedKey : Bool := false
  m_scorbitdVersion : List Char
  m_scorbitdPlatformId : List Char
  /-- The text of the exception that a JSON document throws. -/
  jsonError : List Char := []
  dump : JsonNode → List Char := fun _ => []

structure Updater.UrlInfo where
  url : List Char := []
  version : List Char := []
  contentType : List Char := []
  size : Int := -1
  /-- The asset that the URL has been read from, which the program does not keep. -/
  asset : Option JsonNode := none

def getInt32 (node : JsonNode) : Option Int :=
  node.getUnsigned32.map BitVec.toInt

namespace Updater

variable (updater : Updater)

def read {State Value : Type} : JsonOutcome Value → Checked State Value
  | .value result => pure result
  | .throws => throw (.exception updater.jsonError)
  | .undefined => throw .undefined

def isSdkAsset (version url : List Char) : Bool :=
  (matchAsset SDK_URL_PATTERN url).any fun (urlVersion, platformId) =>
    urlVersion = version && platformId = updater.sdkPlatformId

/-- The platform without its last three characters, or the whole if there are
fewer. -/
def platformStem : List Char :=
  if updater.m_scorbitdPlatformId.length < 3 then updater.m_scorbitdPlatformId
  else
    updater.m_scorbitdPlatformId.take (updater.m_scorbitdPlatformId.length - 3)

def u18Equivalent : List Char :=
  updater.platformStem ++ "u18".toList

def u20Equivalent : List Char :=
  updater.platformStem ++ "u20".toList

def isScorbitdAsset (version name : List Char) : Bool :=
  (matchAsset SCORBITD_NAME_PATTERN name).any fun (urlVersion, platformId) =>
    urlVersion = version && (platformId = updater.m_scorbitdPlatformId ||
      platformId = updater.u18Equivalent || platformId = updater.u20Equivalent)

/-- What is read of an asset, one after another. -/
def readAsset (asset : JsonNode) : Checked UrlInfo Unit := do
  let url ← updater.read (asset.indexAs "download_url" getString)
  modify fun info => { info with url, asset := some asset }
  let contentType ← updater.read (asset.indexAs "content_type" getString)
  modify fun info => { info with contentType }
  let size ← updater.read (asset.indexAs "size" getInt32)
  modify fun info => { info with size }

def chooseAsset (version : List Char) : List JsonNode → Checked UrlInfo Unit
  | [] => pure ()
  | string url :: rest =>
      if updater.isSdkAsset version url then
        modify fun info => { info with url, asset := some (string url) }
      else chooseAsset version rest
  | object members :: rest => do
      let name ← updater.read ((object members).indexAs "name" getString)
      if updater.isScorbitdAsset version name then
        updater.readAsset (object members)
      else chooseAsset version rest
  | _ :: rest => chooseAsset version rest

/-- The `try` block of `parseUrls`. -/
def parseAssets (obj : JsonNode) : Checked UrlInfo Unit := do
  let version ← updater.read (obj.indexAs "version" getString)
  modify fun info => { info with version }
  let assets ← updater.read (obj.index "assets_json")
  updater.chooseAsset version assets.elements

/-- What is known of the URL when the `try` block is left. -/
def UrlInfo.ofResult : EStateM.Result Abort UrlInfo Unit → Option UrlInfo
  | .ok _ info => some info
  | .error (.exception _) info => some info
  | .error .undefined _ => none

/-- The URL as far as it has been read, and the feedback. -/
def parseUrls (obj : JsonNode) : JsonOutcome (UrlInfo × Option (List Char)) :=
  match updater.parseAssets obj {} with
  | .ok _ info => .value (info, none)
  | .error (.exception what) info =>
      .value (info, some ("Error parsing: ".toList ++ what ++
        ", in json: ".toList ++ updater.dump obj))
  | .error .undefined _ => .undefined

/-! ## Names and platforms -/

/-- The name carries the version and the platform. -/
def NamedFor (name version platformId : List Char) : Prop :=
  ∃ extension ∈ ["tar.gz".toList, "tgz".toList],
    name = "scorbitd-".toList ++ version ++ '-' :: platformId ++ '.' :: extension

def EndsInVariant (platformId : List Char) : Prop :=
  "u18".toList <:+ platformId ∨ "u20".toList <:+ platformId

/-- The platforms are the same, or the variants of one architecture. -/
def Serves (device platformId : List Char) : Prop :=
  platformId = device ∨ ∃ architecture,
    (device = architecture ++ "u18".toList ∧
      platformId = architecture ++ "u20".toList) ∨
    (device = architecture ++ "u20".toList ∧
      platformId = architecture ++ "u18".toList)

theorem endsInVariant_of_serves {device platformId : List Char}
    (serves : Serves device platformId) (variant : EndsInVariant platformId) :
    EndsInVariant device := by
  rcases serves with rfl | ⟨architecture, ⟨rfl, _⟩ | ⟨rfl, _⟩⟩
  · exact variant
  · exact .inl (List.suffix_append _ _)
  · exact .inr (List.suffix_append _ _)

theorem namedFor_of_matchAsset {name version platformId : List Char}
    (found : matchAsset SCORBITD_NAME_PATTERN name = some (version, platformId)) :
    NamedFor name version platformId := by
  simp only [matchAsset, Option.bind_eq_bind, Option.bind_eq_some_iff,
    Option.some.injEq, Prod.mk.injEq] at found
  obtain ⟨groups, isMatch, _, isVersion, _, isPlatform, rfl, rfl⟩ := found
  have matched := matches_of_fullMatch isMatch
  rw [SCORBITD_NAME_PATTERN] at matched
  obtain ⟨_, rest, _, rfl, start, matched⟩ := matched.inOrder_cons
  obtain ⟨rfl, rfl⟩ := start.literal
  obtain ⟨version, rest, _, rfl, first, matched⟩ := matched.inOrder_cons
  obtain ⟨inVersion, _, rfl⟩ := first.of_group
  obtain ⟨_, rest, _, rfl, dash, matched⟩ := matched.inOrder_cons
  obtain ⟨rfl, rfl⟩ := dash.literal
  obtain ⟨platformId, rest, _, rfl, third, matched⟩ := matched.inOrder_cons
  obtain ⟨inPlatform, word, rfl⟩ := third.of_group
  obtain ⟨_, rest, _, rfl, dot, matched⟩ := matched.inOrder_cons
  obtain ⟨rfl, rfl⟩ := dot.literal
  obtain ⟨extension, rest, _, rfl, fourth, matched⟩ := matched.inOrder_cons
  obtain ⟨inExtension, either, rfl⟩ := fourth.of_group
  obtain ⟨rfl, rfl⟩ := matched.inOrder_nil
  obtain rfl := word.of_groupFree ⟨trivial, trivial⟩
  have same : inExtension = (3, platformId) :: (1, version) :: inVersion := by
    rcases either.of_alt with long | short
    · exact long.literal.2
    · exact short.literal.2
  subst same
  obtain rfl := Option.some.inj isVersion
  obtain rfl := Option.some.inj isPlatform
  refine ⟨extension, ?_, by simp⟩
  rcases either.of_alt with long | short
  · rw [long.literal.1]
    exact List.mem_cons_self
  · rw [short.literal.1]
    exact List.mem_cons_of_mem _ List.mem_cons_self

theorem not_both_extensions {platformId other : List Char} :
    platformId ++ '.' :: "tar.gz".toList ≠ other ++ '.' :: "tgz".toList := by
  intro same
  have long : '.' :: "tar.gz".toList <:+ other ++ '.' :: "tgz".toList :=
    ⟨platformId, same⟩
  have short : '.' :: "tgz".toList <:+ other ++ '.' :: "tgz".toList :=
    List.suffix_append _ _
  have within := List.suffix_of_suffix_length_le short long (by decide)
  revert within
  decide

/-- There is one platform for a version in a name. -/
theorem NamedFor.unique {name version platformId other : List Char}
    (isNamed : NamedFor name version platformId)
    (isOther : NamedFor name version other) : platformId = other := by
  obtain ⟨extension, member, rfl⟩ := isNamed
  obtain ⟨otherExtension, otherMember, same⟩ := isOther
  rw [List.append_assoc, List.append_assoc _ ('-' :: other)] at same
  have cancelled := List.cons.inj (List.append_cancel_left same)
  simp only [List.mem_cons, List.not_mem_nil, or_false] at member otherMember
  rcases member with rfl | rfl <;> rcases otherMember with rfl | rfl
  · exact List.append_cancel_right cancelled.2
  · exact absurd cancelled.2 not_both_extensions
  · exact absurd cancelled.2.symm not_both_extensions
  · exact List.append_cancel_right cancelled.2

section Platforms

variable {updater : Updater} {version name platformId : List Char}

theorem platformStem_of_append {stem last : List Char} (three : last.length = 3)
    (isPlatform : updater.m_scorbitdPlatformId = stem ++ last) :
    updater.platformStem = stem := by
  have notShort : ¬updater.m_scorbitdPlatformId.length < 3 := by
    rw [isPlatform, List.length_append]
    omega
  rw [platformStem, if_neg notShort, isPlatform, List.length_append, three,
    Nat.add_sub_cancel, List.take_left]

/-- The platform that an accepted asset is for. -/
theorem isScorbitdAsset_iff :
    updater.isScorbitdAsset version name = true ↔
      ∃ platformId, matchAsset SCORBITD_NAME_PATTERN name =
          some (version, platformId) ∧
        (platformId = updater.m_scorbitdPlatformId ∨
          platformId = updater.u18Equivalent ∨
          platformId = updater.u20Equivalent) := by
  unfold isScorbitdAsset
  cases matchAsset SCORBITD_NAME_PATTERN name with
  | none => simp
  | some found =>
      obtain ⟨urlVersion, platformId⟩ := found
      simp only [Option.any_some, Bool.and_eq_true, decide_eq_true_eq,
        Bool.or_eq_true, Option.some.injEq, Prod.mk.injEq, or_assoc]
      constructor
      · rintro ⟨rfl, accepted⟩
        exact ⟨platformId, ⟨rfl, rfl⟩, accepted⟩
      · rintro ⟨_, ⟨rfl, rfl⟩, accepted⟩
        exact ⟨rfl, accepted⟩

/-- A device whose platform is a variant is served by either one. -/
theorem serves_of_endsInVariant
    (variant : EndsInVariant updater.m_scorbitdPlatformId)
    (accepted : platformId = updater.u18Equivalent ∨
      platformId = updater.u20Equivalent) :
    Serves updater.m_scorbitdPlatformId platformId := by
  rcases variant with ⟨stem, isPlatform⟩ | ⟨stem, isPlatform⟩
  · have isStem := platformStem_of_append rfl isPlatform.symm
    rw [u18Equivalent, u20Equivalent, isStem, isPlatform] at accepted
    rcases accepted with same | other
    · exact .inl same
    · exact .inr ⟨stem, .inl ⟨isPlatform.symm, other⟩⟩
  · have isStem := platformStem_of_append rfl isPlatform.symm
    rw [u18Equivalent, u20Equivalent, isStem, isPlatform] at accepted
    rcases accepted with other | same
    · exact .inr ⟨stem, .inr ⟨isPlatform.symm, other⟩⟩
    · exact .inl same

theorem endsInVariant_of_equivalent
    (accepted : platformId = updater.u18Equivalent ∨
      platformId = updater.u20Equivalent) : EndsInVariant platformId := by
  rcases accepted with rfl | rfl
  · exact .inl (List.suffix_append _ _)
  · exact .inr (List.suffix_append _ _)

end Platforms

/-! ## The asset that is chosen -/

/-- The search goes on after the asset. -/
def PassedOver (version : List Char) : JsonNode → Prop
  | string url => updater.isSdkAsset version url = false
  | object members =>
      ∃ name, (object members).find? "name" = some (string name) ∧
        updater.isScorbitdAsset version name = false
  | _ => True

/-- The first asset that is not passed over is an object whose name is for the
platform. -/
structure Chosen (obj asset : JsonNode) (version name platformId : List Char) :
    Prop where
  isVersion : obj.find? "version" = some (string version)
  isFirst : ∃ assets before after, obj.find? "assets_json" = some assets ∧
    assets.elements = before ++ asset :: after ∧
      ∀ earlier ∈ before, updater.PassedOver version earlier
  isObject : asset.isObject = true
  isName : asset.find? "name" = some (string name)
  isMatch : matchAsset SCORBITD_NAME_PATTERN name = some (version, platformId)
  accepted : platformId = updater.m_scorbitdPlatformId ∨
    platformId = updater.u18Equivalent ∨ platformId = updater.u20Equivalent

/-- The URL of the asset is a text, and nothing that is read after it is missing. -/
structure Readable (asset : JsonNode) (url : List Char) : Prop where
  isUrl : asset.find? "download_url" = some (string url)
  reached : asset.HasReached ReplyEnvironment.assetReads

section Choice

variable {updater : Updater} {version : List Char} {obj asset : JsonNode}
  {info : UrlInfo}

theorem getString_eq_some_iff {node : JsonNode} {text : List Char} :
    node.getString = some text ↔ node = string text := by
  cases node <;> simp [getString]

theorem find?_bind_getString_iff {node : JsonNode} {key : String}
    {text : List Char} :
    (node.find? key).bind getString = some text ↔
      node.find? key = some (string text) := by
  simp [Option.bind_eq_some_iff, getString_eq_some_iff]

theorem isString_eq (node : JsonNode) : node.isString = node.getString.isSome := by
  cases node <;> rfl

theorem isUnsigned32_eq (node : JsonNode) :
    ReplyEnvironment.isUnsigned32 node = (getInt32 node).isSome := by
  rw [getInt32, Option.isSome_map, ReplyEnvironment.isUnsigned32]

/-- What is read of an asset, as far as it is defined. -/
theorem readMembers_assetReads (asset : JsonNode) :
    asset.readMembers ReplyEnvironment.assetReads =
      (asset.indexAs "download_url" getString).bind fun _ =>
        (asset.indexAs "content_type" getString).bind fun _ =>
          (asset.indexAs "size" getInt32).bind fun _ => value () := by
  simp only [ReplyEnvironment.assetReads, readMembers,
    readMember_of_unchecked isString_eq, readMember_of_unchecked isUnsigned32_eq]
  cases asset.indexAs "download_url" getString with
  | value url =>
      cases asset.indexAs "content_type" getString with
      | value contentType => cases asset.indexAs "size" getInt32 <;> rfl
      | throws => rfl
      | undefined => rfl
  | throws => rfl
  | undefined => rfl

theorem ofResult_read_bind {Value : Type} {outcome : JsonOutcome Value}
    {next : Value → Checked UrlInfo Unit} :
    UrlInfo.ofResult ((updater.read outcome >>= next) info) =
      match outcome with
      | .value result => UrlInfo.ofResult (next result info)
      | .throws => some info
      | .undefined => none := by
  cases outcome <;> rfl

/-- A result has come from a read that threw, or from what comes after it. -/
theorem ofResult_read_bind_cases {Value : Type} {outcome : JsonOutcome Value}
    {next : Value → Checked UrlInfo Unit} {found : UrlInfo}
    (isFound : UrlInfo.ofResult ((updater.read outcome >>= next) info) = some found) :
    found = info ∨
      ∃ result, outcome = value result ∧
        UrlInfo.ofResult (next result info) = some found := by
  rw [ofResult_read_bind] at isFound
  cases outcome with
  | throws => exact .inl (Option.some.inj isFound).symm
  | undefined => cases isFound
  | value result => exact .inr ⟨result, rfl, isFound⟩

theorem ofResult_modify_bind {change : UrlInfo → UrlInfo}
    {next : Unit → Checked UrlInfo Unit} :
    UrlInfo.ofResult ((modify change >>= next) info) =
      UrlInfo.ofResult (next () (change info)) :=
  rfl

/-- What is read behind the URL changes neither it nor the asset. -/
theorem ofResult_readAsset (updater : Updater) (asset : JsonNode)
    (info : UrlInfo) :
    match asset.indexAs "download_url" getString with
    | .value url =>
        ((asset.readMembers ReplyEnvironment.assetReads).IsDefined ∧
          ∃ found, UrlInfo.ofResult (updater.readAsset asset info) = some found ∧
            found.url = url ∧ found.asset = some asset) ∨
        (¬(asset.readMembers ReplyEnvironment.assetReads).IsDefined ∧
          UrlInfo.ofResult (updater.readAsset asset info) = none)
    | .throws => UrlInfo.ofResult (updater.readAsset asset info) = some info
    | .undefined => UrlInfo.ofResult (updater.readAsset asset info) = none := by
  rw [readMembers_assetReads, readAsset, ofResult_read_bind]
  cases asset.indexAs "download_url" getString with
  | throws => rfl
  | undefined => rfl
  | value url =>
      dsimp only [JsonOutcome.bind]
      rw [ofResult_modify_bind, ofResult_read_bind]
      cases asset.indexAs "content_type" getString with
      | throws => exact .inl ⟨trivial, _, rfl, rfl, rfl⟩
      | undefined => exact .inr ⟨id, rfl⟩
      | value contentType =>
          dsimp only
          rw [ofResult_modify_bind, ofResult_read_bind]
          cases asset.indexAs "size" getInt32 with
          | throws => exact .inl ⟨trivial, _, rfl, rfl, rfl⟩
          | undefined => exact .inr ⟨id, rfl⟩
          | value size => exact .inl ⟨trivial, _, rfl, rfl, rfl⟩

/-- An asset that is readable gives its URL. -/
theorem exists_of_readable {url : List Char} (readable : Readable asset url)
    (info : UrlInfo) :
    ∃ found, UrlInfo.ofResult (updater.readAsset asset info) = some found ∧
      found.url = url ∧ found.asset = some asset := by
  have isUrl : asset.indexAs "download_url" getString = value url :=
    indexAs_eq_value_iff.mpr (find?_bind_getString_iff.mpr readable.isUrl)
  have result := ofResult_readAsset updater asset info
  rw [isUrl] at result
  rcases result with ⟨_, found⟩ | ⟨undefined, _⟩
  · exact found
  · exact absurd (isDefined_readMembers.mpr readable.reached) undefined

/-- Where there is a URL, it is that of the asset, or nothing has been read. -/
theorem readable_of_ofResult {found : UrlInfo}
    (isFound : UrlInfo.ofResult (updater.readAsset asset info) = some found) :
    found = info ∨ found.asset = some asset ∧ Readable asset found.url := by
  have result := ofResult_readAsset updater asset info
  cases isUrl : asset.indexAs "download_url" getString with
  | throws =>
      rw [isUrl] at result
      exact .inl (Option.some.inj (isFound.symm.trans result))
  | undefined =>
      rw [isUrl] at result
      cases isFound.symm.trans result
  | value url =>
      rw [isUrl] at result
      rcases result with ⟨defined, read, isRead, rfl, isAsset⟩ | ⟨_, undefined⟩
      · obtain rfl := Option.some.inj (isFound.symm.trans isRead)
        have isText := find?_bind_getString_iff.mp (indexAs_eq_value_iff.mp isUrl)
        exact .inr ⟨isAsset, isText, isDefined_readMembers.mp defined⟩
      · cases isFound.symm.trans undefined

/-! ## The first asset -/

/-- No URL of an object has been read. -/
def UrlInfo.NoObject (info : UrlInfo) : Prop :=
  ∀ asset, info.asset = some asset → asset.isObject = false

theorem chooseAsset_of_passedOver {before after : List JsonNode}
    (passed : ∀ earlier ∈ before, updater.PassedOver version earlier) :
    updater.chooseAsset version (before ++ after) info =
      updater.chooseAsset version after info := by
  induction before with
  | nil => rfl
  | cons earlier before ih =>
      rw [List.forall_mem_cons] at passed
      obtain ⟨passedFirst, passed⟩ := passed
      rw [List.cons_append, ← ih passed]
      cases earlier with
      | string url =>
          have isOther : updater.isSdkAsset version url = false := passedFirst
          rw [chooseAsset, isOther]
          rfl
      | object members =>
          obtain ⟨name, isName, isOther⟩ := passedFirst
          have read : (object members).indexAs "name" getString = value name :=
            indexAs_eq_value_iff.mpr (find?_bind_getString_iff.mpr isName)
          rw [chooseAsset, read]
          change (if updater.isScorbitdAsset version name then _ else _ :
            Checked UrlInfo Unit) info = _
          rw [isOther]
          rfl
      | _ => rfl

theorem chooseAsset_of_accepted {members : List (String × JsonNode)}
    {name : List Char} {after : List JsonNode}
    (isName : (object members).find? "name" = some (string name))
    (accepted : updater.isScorbitdAsset version name = true) :
    updater.chooseAsset version (object members :: after) info =
      updater.readAsset (object members) info := by
  have read : (object members).indexAs "name" getString = value name :=
    indexAs_eq_value_iff.mpr (find?_bind_getString_iff.mpr isName)
  rw [chooseAsset, read]
  change (if updater.isScorbitdAsset version name then _ else _ :
    Checked UrlInfo Unit) info = _
  rw [if_pos accepted]

/-- The first asset that is accepted is an object, and what is known has been read
of it. -/
def ReadsFirst (updater : Updater) (version : List Char) (assets : List JsonNode)
    (info found : UrlInfo) : Prop :=
  ∃ before members after name, assets = before ++ object members :: after ∧
    (∀ earlier ∈ before, updater.PassedOver version earlier) ∧
    (object members).find? "name" = some (string name) ∧
    updater.isScorbitdAsset version name = true ∧
    UrlInfo.ofResult (updater.readAsset (object members) info) = some found

theorem ReadsFirst.cons {rest : List JsonNode} {found : UrlInfo}
    (passed : updater.PassedOver version asset) :
    updater.ReadsFirst version rest info found →
      updater.ReadsFirst version (asset :: rest) info found := by
  rintro ⟨before, members, after, name, rfl, earlier, chosen⟩
  exact ⟨asset :: before, members, after, name, rfl,
    List.forall_mem_cons.mpr ⟨passed, earlier⟩, chosen⟩

/-- The search ends with no object or with the first one that is accepted. -/
theorem chooseAsset_cases {assets : List JsonNode} {found : UrlInfo}
    (noObject : info.NoObject)
    (isFound : UrlInfo.ofResult (updater.chooseAsset version assets info) =
      some found) :
    found.NoObject ∨ updater.ReadsFirst version assets info found := by
  induction assets with
  | nil =>
      obtain rfl := Option.some.inj isFound
      exact .inl noObject
  | cons asset rest ih =>
      cases asset with
      | string url =>
          rw [chooseAsset] at isFound
          cases isSdk : updater.isSdkAsset version url with
          | true =>
              rw [isSdk] at isFound
              obtain rfl := Option.some.inj isFound
              apply Or.inl
              rintro asset ⟨⟩
              rfl
          | false =>
              rw [isSdk] at isFound
              exact (ih isFound).imp_right (ReadsFirst.cons isSdk)
      | object members =>
          rw [chooseAsset] at isFound
          rcases ofResult_read_bind_cases isFound with rfl | ⟨name, isName, isFound⟩
          · exact .inl noObject
          · have isText :=
              find?_bind_getString_iff.mp (indexAs_eq_value_iff.mp isName)
            cases accepted : updater.isScorbitdAsset version name with
            | true =>
                rw [accepted] at isFound
                exact .inr ⟨[], members, rest, name, rfl, List.forall_mem_nil _,
                  isText, accepted, isFound⟩
            | false =>
                rw [accepted] at isFound
                exact (ih isFound).imp_right
                  (ReadsFirst.cons ⟨name, isText, accepted⟩)
      | _ => exact (ih isFound).imp_right (ReadsFirst.cons trivial)

/-- A URL of an object is that of the asset that is chosen. -/
theorem chosen_of_parseAssets {found : UrlInfo}
    (isFound : UrlInfo.ofResult (updater.parseAssets obj {}) = some found)
    (isAsset : found.asset = some asset) (isObject : asset.isObject = true) :
    (∃ version name platformId,
      updater.Chosen obj asset version name platformId) ∧
      Readable asset found.url := by
  have noObject : ∀ {info : UrlInfo}, info.asset = none → info.NoObject := by
    intro info isNone other isSome
    rw [isNone] at isSome
    cases isSome
  have notEmpty : ¬found.NoObject := by
    intro none
    rw [none asset isAsset] at isObject
    cases isObject
  rw [parseAssets] at isFound
  obtain rfl | ⟨version, isVersion, isFound⟩ := ofResult_read_bind_cases isFound
  · exact absurd (noObject rfl) notEmpty
  rw [ofResult_modify_bind] at isFound
  obtain rfl | ⟨assets, isAssets, isFound⟩ := ofResult_read_bind_cases isFound
  · exact absurd (noObject rfl) notEmpty
  rcases chooseAsset_cases (noObject rfl) isFound with none |
    ⟨before, members, after, name, isElements, passed, isName, accepted, isRead⟩
  · exact absurd none notEmpty
  · obtain ⟨platformId, isMatch, platform⟩ := isScorbitdAsset_iff.mp accepted
    rcases readable_of_ofResult isRead with rfl | ⟨isChosen, readable⟩
    · exact absurd (noObject rfl) notEmpty
    · obtain rfl := Option.some.inj (isAsset.symm.trans isChosen)
      refine ⟨⟨version, name, platformId, ?_⟩, readable⟩
      exact {
        isVersion := find?_bind_getString_iff.mp (indexAs_eq_value_iff.mp isVersion)
        isFirst := ⟨assets, before, after, index_eq_value_iff.mp isAssets,
          isElements, passed⟩
        isObject := rfl
        isName := isName
        isMatch := isMatch
        accepted := platform }

/-- The asset that is chosen gives its URL. -/
theorem parseAssets_of_chosen {name platformId url : List Char}
    (chosen : updater.Chosen obj asset version name platformId)
    (readable : Readable asset url) :
    ∃ found, UrlInfo.ofResult (updater.parseAssets obj {}) = some found ∧
      found.url = url ∧ found.asset = some asset := by
  obtain ⟨assets, before, after, isAssets, isElements, passed⟩ := chosen.isFirst
  have version := indexAs_eq_value_iff.mpr
    (find?_bind_getString_iff.mpr chosen.isVersion)
  obtain ⟨members, rfl⟩ : ∃ members, asset = object members := by
    have isObject := chosen.isObject
    cases asset with
    | object members => exact ⟨members, rfl⟩
    | _ => cases isObject
  have accepted := isScorbitdAsset_iff.mpr
    ⟨platformId, chosen.isMatch, chosen.accepted⟩
  rw [parseAssets, ofResult_read_bind, version]
  dsimp only
  rw [ofResult_modify_bind, ofResult_read_bind, index_eq_value_iff.mpr isAssets]
  dsimp only
  rw [isElements, chooseAsset_of_passedOver passed,
    chooseAsset_of_accepted chosen.isName accepted]
  exact exists_of_readable readable _

theorem ofResult_of_parseUrls {message : Option (List Char)}
    (parsed : updater.parseUrls obj = value (info, message)) :
    UrlInfo.ofResult (updater.parseAssets obj {}) = some info := by
  unfold parseUrls at parsed
  split at parsed
  · next isRun =>
      cases parsed
      rw [isRun]
      rfl
  · next isRun =>
      cases parsed
      rw [isRun]
      rfl
  · cases parsed

theorem parseUrls_of_ofResult
    (isFound : UrlInfo.ofResult (updater.parseAssets obj {}) = some info) :
    ∃ message, updater.parseUrls obj = value (info, message) := by
  unfold parseUrls
  split
  · next isRun =>
      rw [isRun] at isFound
      cases isFound
      exact ⟨none, rfl⟩
  · next isRun =>
      rw [isRun] at isFound
      cases isFound
      exact ⟨_, rfl⟩
  · next isRun =>
      rw [isRun] at isFound
      cases isFound

end Choice

/-! ## Whether the platform is right -/

/-- The URL is that of one of the assets, whose name is for the version and for a
platform that goes with the device's. -/
structure RightAsset (obj : JsonNode) (info : UrlInfo) (asset : JsonNode) :
    Prop where
  member : ∃ assets, obj.find? "assets_json" = some assets ∧
    asset ∈ assets.elements
  isUrl : asset.find? "download_url" = some (string info.url)
  named : ∃ version name platformId,
    obj.find? "version" = some (string version) ∧
    asset.find? "name" = some (string name) ∧
    NamedFor name version platformId ∧
    Serves updater.m_scorbitdPlatformId platformId

/-- A URL that is returned, and is that of an object, is that of a right asset. -/
def ChoosesRightly (obj : JsonNode) : Prop :=
  ∀ info message, updater.parseUrls obj = value (info, message) →
    info.url ≠ [] → ∀ asset, info.asset = some asset → asset.isObject = true →
      updater.RightAsset obj info asset

/-- The first asset that is accepted is for the device's platform with its end
replaced by `u18` or `u20`, and has a URL. -/
def OffersVariant (obj : JsonNode) : Prop :=
  ∃ asset version name platformId url,
    updater.Chosen obj asset version name platformId ∧
    (platformId = updater.u18Equivalent ∨ platformId = updater.u20Equivalent) ∧
    Readable asset url ∧ url ≠ []

/-- A variant goes to a device whose platform is one. -/
theorem endsInVariant_of_offersVariant {updater : Updater} {obj : JsonNode}
    (rightly : updater.ChoosesRightly obj) (offers : updater.OffersVariant obj) :
    EndsInVariant updater.m_scorbitdPlatformId := by
  obtain ⟨asset, version, name, platformId, url, chosen, equivalent, readable,
    notEmpty⟩ := offers
  obtain ⟨info, isFound, rfl, isAsset⟩ := parseAssets_of_chosen chosen readable
  obtain ⟨message, parsed⟩ := parseUrls_of_ofResult isFound
  obtain ⟨otherVersion, otherName, other, isVersion, isName, named, serves⟩ :=
    (rightly info message parsed notEmpty asset isAsset chosen.isObject).named
  obtain rfl : version = otherVersion := by
    simpa using chosen.isVersion.symm.trans isVersion
  obtain rfl : name = otherName := by
    simpa using chosen.isName.symm.trans isName
  obtain rfl := (namedFor_of_matchAsset chosen.isMatch).unique named
  exact endsInVariant_of_serves serves (endsInVariant_of_equivalent equivalent)

/-- The platform is right exactly if the device's own platform is a variant, or no
variant of its stem is offered first. -/
theorem choosesRightly_iff (updater : Updater) (obj : JsonNode) :
    updater.ChoosesRightly obj ↔
      EndsInVariant updater.m_scorbitdPlatformId ∨ ¬updater.OffersVariant obj := by
  constructor
  · intro rightly
    by_cases offers : updater.OffersVariant obj
    · exact .inl (endsInVariant_of_offersVariant rightly offers)
    · exact .inr offers
  · intro condition info message parsed notEmpty asset isAsset isObject
    obtain ⟨⟨version, name, platformId, chosen⟩, readable⟩ :=
      chosen_of_parseAssets (ofResult_of_parseUrls parsed) isAsset isObject
    have serves : Serves updater.m_scorbitdPlatformId platformId := by
      rcases chosen.accepted with same | equivalent
      · exact .inl same
      · rcases condition with variant | offers
        · exact serves_of_endsInVariant variant equivalent
        · exact absurd ⟨asset, version, name, platformId, info.url, chosen,
            equivalent, readable, notEmpty⟩ offers
    obtain ⟨assets, before, after, isAssets, isElements, _⟩ := chosen.isFirst
    exact {
      member := ⟨assets, isAssets, isElements ▸ List.mem_append_cons_self⟩
      isUrl := readable.isUrl
      named := ⟨version, name, platformId, chosen.isVersion, chosen.isName,
        namedFor_of_matchAsset chosen.isMatch, serves⟩ }

/-- A device with a later release of its system. -/
def device : Updater where
  sdkVersion := "1.0.1".toList
  sdkVersionMajor := 1
  sdkVersionMinor := 0
  sdkPlatformId := "arm64_u22".toList
  m_scorbitdVersion := "1.0.1".toList
  m_scorbitdPlatformId := "arm64_u22".toList

def u18Asset : JsonNode :=
  object
    [("content_type", string "application/gzip".toList),
      ("download_url", string "https://scorbit/scorbitd".toList),
      ("name", string "scorbitd-1.0.2-arm64_u18.tgz".toList),
      ("size", unsigned 1000)]

def release : JsonNode :=
  object
    [("assets_json", array [u18Asset]), ("version", string "1.0.2".toList)]

theorem offersVariant_release : device.OffersVariant release := by
  have isMatch : matchAsset SCORBITD_NAME_PATTERN
      "scorbitd-1.0.2-arm64_u18.tgz".toList =
        some ("1.0.2".toList, "arm64_u18".toList) := by
    decide +kernel
  have isVariant : "arm64_u18".toList = device.u18Equivalent := by
    decide
  have chosen : device.Chosen release u18Asset "1.0.2".toList
      "scorbitd-1.0.2-arm64_u18.tgz".toList "arm64_u18".toList := {
    isVersion := rfl
    isFirst := ⟨array [u18Asset], [], [], rfl, rfl, List.forall_mem_nil _⟩
    isObject := rfl
    isName := rfl
    isMatch := isMatch
    accepted := .inr (.inl isVariant) }
  have readable : Readable u18Asset "https://scorbit/scorbitd".toList :=
    ⟨rfl, isDefined_readMembers.mp trivial⟩
  exact ⟨_, _, _, _, _, chosen, .inl isVariant, readable, by decide⟩

/-- The device is given the binary for another system. -/
theorem not_choosesRightly_device : ¬device.ChoosesRightly release := by
  intro rightly
  have noVariant : ¬EndsInVariant device.m_scorbitdPlatformId := by
    unfold EndsInVariant
    decide
  exact noVariant (endsInVariant_of_offersVariant rightly offersVariant_release)

end Updater

end ScorbitSdk
