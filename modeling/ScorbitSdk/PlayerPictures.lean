import ScorbitSdk.LruCache

/-!
# Pictures of the players

`PlayerProfilesManager` keeps the profiles of the last reply and a cache of
pictures, in which an empty picture stands for one that is being downloaded.
A reply is processed under the mutex of the game sessions, one reply at a time,
while downloads end and the application looks pictures up.
-/

namespace ScorbitSdk

abbrev Picture := List UInt8

def maxPicturesCached : Nat := 8

/-- The other fields decide nothing here. -/
structure PlayerProfile where
  player : Nat := 0
  pictureUrl : String := ""
  deriving DecidableEq

/-- What `setProfiles` reads of an element of the reply: the position, if the
element is an object that has one, and the avatar, if it gets that far and
there is one. -/
structure ScoreObject where
  position : Option Nat
  avatar : Option String

namespace ScoreObject

/-- Enter an element of the reply into the profiles. -/
def enter (profiles : List PlayerProfile) (object : ScoreObject) :
    List PlayerProfile :=
  match object.position with
  | none => profiles
  | some 0 => profiles
  | some (index + 1) =>
      let profiles := profiles.rightpad (index + 1) {}
      profiles.modify index fun profile =>
        { profile with
          player := index + 1
          pictureUrl := object.avatar.getD profile.pictureUrl }

end ScoreObject

/-- How far a reply has been processed. -/
inductive ReplyStage
  | profilesSet
  | placeholders (toDownload : List (Nat × String))
  /-- A placeholder is in the cache and its download is about to start. -/
  | downloading (player : Nat) (pictureUrl : String)
      (toDownload : List (Nat × String))
  deriving DecidableEq

/-- The pictures that are still to be downloaded. -/
def ReplyStage.due : ReplyStage → List (Nat × String)
  | profilesSet => []
  | placeholders toDownload => toDownload
  | downloading player pictureUrl toDownload =>
      (player, pictureUrl) :: toDownload

/-- `loaded` has the pictures whose download has succeeded and that the cache
has not evicted since; the program does not keep it. -/
structure PlayerPictures where
  autoDownloadPlayerPics : Bool := true
  profiles : List PlayerProfile := []
  pictures : LruCache String Picture := .empty maxPicturesCached
  reply : Option ReplyStage := none
  inFlight : List (Nat × String) := []
  loaded : List String := []

inductive PictureAction
  /-- `processScoresAndPlayersProfiles` up to the end of `setProfiles`. -/
  | setProfiles (objects : List ScoreObject)
  /-- The next step of the reply that is being processed. -/
  | goOn
  | downloadSucceeds (index : Nat) (data : Picture)
  | downloadFails (index : Nat)
  /-- `PlayerProfilesManager::picture`, called by the application. -/
  | picture (avatarUrl : String)

namespace PlayerPictures

/-- The profiles with a picture that the cache does not have.  The players are
in increasing order, as in a map. -/
def picturesToDownload (state : PlayerPictures) : List (Nat × String) :=
  state.profiles.filterMap fun profile =>
    if profile.pictureUrl = "" then none
    else if state.pictures.has profile.pictureUrl then none
    else some (profile.player, profile.pictureUrl)

/-- Putting a picture may evict another one. -/
def setPicture (state : PlayerPictures) (avatarUrl : String)
    (picture : Picture) : Option PlayerPictures :=
  (state.pictures.put avatarUrl picture).map fun pictures =>
    { state with
      pictures := pictures, loaded := state.loaded.filter pictures.has }

def removePicture (state : PlayerPictures) (avatarUrl : String) :
    Option PlayerPictures :=
  (state.pictures.erase avatarUrl).map fun pictures =>
    { state with pictures := pictures }

/-- One step of `processScoresAndPlayersProfiles`. -/
def goOn (state : PlayerPictures) : ReplyStage → Option PlayerPictures
  | .profilesSet =>
      some { state with
        reply :=
          if state.autoDownloadPlayerPics then
            some (.placeholders state.picturesToDownload)
          else none }
  | .placeholders [] => some { state with reply := none }
  | .placeholders ((player, pictureUrl) :: toDownload) =>
      { state with
        reply := some (.downloading player pictureUrl toDownload)
          }.setPicture pictureUrl []
  | .downloading player pictureUrl toDownload =>
      some { state with
        reply := some (.placeholders toDownload)
        inFlight := state.inFlight ++ [(player, pictureUrl)] }

/-- The callback of a download; `index` tells which one it is. -/
def downloaded (state : PlayerPictures) (index : Nat) (pictureUrl : String)
    (data : Option Picture) : Option PlayerPictures :=
  let state := { state with inFlight := state.inFlight.eraseIdx index }
  match data with
  | some data =>
      (state.setPicture pictureUrl data).map fun state : PlayerPictures =>
        { state with loaded := pictureUrl :: state.loaded }
  | none => state.removePicture pictureUrl

def step (state : PlayerPictures) : PictureAction → Option PlayerPictures
  | .setProfiles objects =>
      if state.reply = none then
        some { state with
          profiles := objects.foldl ScoreObject.enter []
          reply := some .profilesSet }
      else none
  | .goOn => state.reply.bind state.goOn
  | .downloadSucceeds index data =>
      state.inFlight[index]?.bind fun (_, pictureUrl) =>
        state.downloaded index pictureUrl (some data)
  | .downloadFails index =>
      state.inFlight[index]?.bind fun (_, pictureUrl) =>
        state.downloaded index pictureUrl none
  | .picture avatarUrl =>
      (state.pictures.get avatarUrl).map fun (pictures, _) =>
        { state with pictures := pictures }

/-- The pictures that the reply has still to request. -/
def due (state : PlayerPictures) : List (Nat × String) :=
  (state.reply.map ReplyStage.due).getD []

/-- The pictures that are being downloaded or about to be. -/
def underWay (state : PlayerPictures) : List String :=
  (state.inFlight ++ state.due).map Prod.snd

/-- No picture is being downloaded twice, and the download that is about to
start is not one of a picture that has been loaded and not evicted since. -/
structure DownloadsOnce (state : PlayerPictures) : Prop where
  once : ∀ pictureUrl, (state.inFlight.map Prod.snd).count pictureUrl ≤ 1
  fresh : ∀ player pictureUrl toDownload,
    state.reply = some (.downloading player pictureUrl toDownload) →
      pictureUrl ∉ state.loaded

/-- A reply names no picture twice, and none that is being downloaded, of those
that the cache does not have.  Where pictures are not downloaded by themselves a
reply may name them as it likes. -/
def NamesOnce (state : PlayerPictures) : PictureAction → Prop
  | .goOn => state.reply = some .profilesSet →
      state.autoDownloadPlayerPics = true →
      (state.picturesToDownload.map Prod.snd).Nodup ∧
        ∀ pictureUrl ∈ state.picturesToDownload.map Prod.snd,
          pictureUrl ∉ state.inFlight.map Prod.snd
  | _ => True

/-- The cache is a cache of eight pictures. -/
structure CacheKept (pictures : LruCache String Picture) : Prop where
  represented : ∃ entries, pictures.Represents entries
  capacity : pictures.capacity = maxPicturesCached

/-- The pictures that are being downloaded or about to be are all different,
and none has been loaded and kept; those that have are in the cache. -/
structure PicturesKept (state : PlayerPictures) : Prop where
  cache : CacheKept state.pictures
  distinct : state.underWay.Nodup
  cached : ∀ pictureUrl ∈ state.loaded, state.pictures.has pictureUrl = true
  done : ∀ pictureUrl ∈ state.loaded, pictureUrl ∉ state.underWay

variable {state next : PlayerPictures}

theorem CacheKept.step {pictures after : LruCache String Picture}
    (kept : CacheKept pictures) (op : LruOp String Picture)
    (taken : pictures.step op = some after) : CacheKept after := by
  obtain ⟨entries, represents⟩ := kept.represented
  obtain ⟨other, otherTaken, otherCapacity, otherRepresents⟩ :=
    represents.step (by decide) kept.capacity op
  rw [taken, Option.some.injEq] at otherTaken
  subst otherTaken
  exact ⟨⟨_, otherRepresents⟩, otherCapacity⟩

theorem setPicture_spec (kept : CacheKept state.pictures) {avatarUrl : String}
    {picture : Picture} (put : state.setPicture avatarUrl picture = some next) :
    ∃ pictures, next =
        { state with
          pictures := pictures
          loaded := state.loaded.filter pictures.has } ∧
      CacheKept pictures ∧ pictures.has avatarUrl = true := by
  simp only [setPicture, Option.map_eq_some_iff] at put
  obtain ⟨pictures, isPut, rfl⟩ := put
  obtain ⟨entries, represents⟩ := kept.represented
  exact ⟨pictures, rfl, kept.step (.put avatarUrl picture) isPut,
    represents.has_put (by decide) kept.capacity isPut⟩

theorem PicturesKept.nodup_downloads (kept : state.PicturesKept) :
    state.DownloadsOnce where
  once pictureUrl := by
    have distinct := kept.distinct
    rw [underWay, List.map_append] at distinct
    exact List.nodup_iff_count_le_one.mp distinct.of_append_left pictureUrl
  fresh player pictureUrl toDownload downloading isLoaded := by
    apply kept.done pictureUrl isLoaded
    simp [underWay, due, downloading, ReplyStage.due]

/-- Where the pictures of the cache are set anew, the loaded ones are those that
were loaded and are still there. -/
theorem PicturesKept.setPicture (kept : state.PicturesKept)
    {avatarUrl : String} {picture : Picture}
    (put : state.setPicture avatarUrl picture = some next) :
    next.PicturesKept ∧ next.pictures.has avatarUrl = true ∧
      next.underWay = state.underWay := by
  obtain ⟨pictures, rfl, cache, isThere⟩ := setPicture_spec kept.cache put
  refine ⟨?_, isThere, rfl⟩
  exact {
    cache := cache
    distinct := kept.distinct
    cached := fun _ isLoaded => (List.mem_filter.mp isLoaded).2
    done := fun pictureUrl isLoaded =>
      kept.done pictureUrl (List.mem_of_mem_filter isLoaded) }

theorem PicturesKept.of_underWay (kept : state.PicturesKept)
    (samePictures : next.pictures = state.pictures)
    (sameLoaded : next.loaded = state.loaded)
    (sameUnderWay : next.underWay = state.underWay) : next.PicturesKept where
  cache := samePictures ▸ kept.cache
  distinct := sameUnderWay ▸ kept.distinct
  cached := by
    rw [sameLoaded, samePictures]
    exact kept.cached
  done := by
    rw [sameLoaded, sameUnderWay]
    exact kept.done

theorem has_of_mem_picturesToDownload {pictureUrl : String}
    (isDue : pictureUrl ∈ state.picturesToDownload.map Prod.snd) :
    state.pictures.has pictureUrl = false := by
  obtain ⟨⟨player, url⟩, member, rfl⟩ := List.mem_map.mp isDue
  obtain ⟨profile, -, found⟩ := List.mem_filterMap.mp member
  split at found
  · cases found
  · split at found
    · cases found
    · rename_i notCached
      obtain ⟨-, rfl⟩ := Prod.mk.inj (Option.some.inj found)
      exact Bool.eq_false_iff.mpr notCached

/-- A reply that names no picture twice and none under way, of those that are
not in the cache, starts with all of them. -/
theorem PicturesKept.choose (kept : state.PicturesKept)
    (isStage : state.reply = some .profilesSet)
    (downloads : state.autoDownloadPlayerPics = true)
    (names : state.NamesOnce .goOn) :
    PicturesKept { state with
      reply := some (.placeholders state.picturesToDownload) } := by
  obtain ⟨nodup, notInFlight⟩ := names isStage downloads
  have underWay : ∀ pictureUrl,
      pictureUrl ∈ PlayerPictures.underWay { state with
        reply := some (.placeholders state.picturesToDownload) } ↔
      pictureUrl ∈ state.underWay ∨
        pictureUrl ∈ state.picturesToDownload.map Prod.snd := by
    intro pictureUrl
    simp [PlayerPictures.underWay, due, isStage, ReplyStage.due]
  refine { kept with distinct := ?_, done := fun pictureUrl isLoaded => ?_ }
  · have distinct := kept.distinct
    simp only [PlayerPictures.underWay, due, isStage, Option.map_some,
      Option.getD_some, ReplyStage.due, List.append_nil] at distinct
    simp only [PlayerPictures.underWay, due, Option.map_some, Option.getD_some,
      ReplyStage.due, List.map_append]
    refine List.nodup_append.mpr ⟨distinct, nodup, ?_⟩
    rintro first inFlight second isDue rfl
    exact notInFlight first isDue inFlight
  · rw [underWay]
    rintro (isUnderWay | isDue)
    · exact kept.done pictureUrl isLoaded isUnderWay
    · have cached := kept.cached pictureUrl isLoaded
      rw [has_of_mem_picturesToDownload isDue] at cached
      cases cached

theorem PicturesKept.goOn {stage : ReplyStage} (kept : state.PicturesKept)
    (isStage : state.reply = some stage) (names : state.NamesOnce .goOn)
    (goesOn : state.goOn stage = some next) : next.PicturesKept := by
  match stage with
  | .profilesSet =>
      simp only [PlayerPictures.goOn, Option.some.injEq] at goesOn
      subst goesOn
      split
      · next downloads => exact kept.choose isStage downloads names
      · exact kept.of_underWay rfl rfl
          (by simp [underWay, due, isStage, ReplyStage.due])
  | .placeholders [] =>
      simp only [PlayerPictures.goOn, Option.some.injEq] at goesOn
      subst goesOn
      exact kept.of_underWay rfl rfl
        (by simp [underWay, due, isStage, ReplyStage.due])
  | .placeholders ((player, pictureUrl) :: toDownload) =>
      have before : PicturesKept { state with
          reply := some (.downloading player pictureUrl toDownload) } :=
        kept.of_underWay rfl rfl
          (by simp [underWay, due, isStage, ReplyStage.due])
      exact (before.setPicture goesOn).1
  | .downloading player pictureUrl toDownload =>
      simp only [PlayerPictures.goOn, Option.some.injEq] at goesOn
      subst goesOn
      exact kept.of_underWay rfl rfl
        (by simp [underWay, due, isStage, ReplyStage.due])

/-- A download that ends is no longer under way. -/
theorem underWay_eraseIdx {index player : Nat} {pictureUrl : String}
    (isFlight : state.inFlight[index]? = some (player, pictureUrl)) :
    state.underWay.Perm (pictureUrl :: PlayerPictures.underWay
      { state with inFlight := state.inFlight.eraseIdx index }) := by
  obtain ⟨inBounds, isEntry⟩ := List.getElem?_eq_some_iff.mp isFlight
  have split := List.getElem_cons_eraseIdx_perm inBounds
  rw [isEntry] at split
  exact ((split.symm.append_right state.due).map Prod.snd)

theorem PicturesKept.downloaded {index player : Nat} {pictureUrl : String}
    {data : Option Picture} (kept : state.PicturesKept)
    (isFlight : state.inFlight[index]? = some (player, pictureUrl))
    (ended : state.downloaded index pictureUrl data = some next) :
    next.PicturesKept := by
  have split := underWay_eraseIdx isFlight
  have distinct := split.nodup_iff.mp kept.distinct
  rw [List.nodup_cons] at distinct
  have before : PicturesKept
      { state with inFlight := state.inFlight.eraseIdx index } := {
    kept with
    distinct := distinct.2
    done := fun other isLoaded isUnderWay => kept.done other isLoaded
      (split.mem_iff.mpr (List.mem_cons_of_mem _ isUnderWay)) }
  cases data with
  | some data =>
      simp only [PlayerPictures.downloaded, Option.map_eq_some_iff] at ended
      obtain ⟨stored, put, rfl⟩ := ended
      obtain ⟨storedKept, isThere, sameUnderWay⟩ := before.setPicture put
      refine { storedKept with
        cached := List.forall_mem_cons.mpr ⟨isThere, storedKept.cached⟩
        done := List.forall_mem_cons.mpr ⟨?_, storedKept.done⟩ }
      exact sameUnderWay ▸ distinct.1
  | none =>
      simp only [PlayerPictures.downloaded, removePicture,
        Option.map_eq_some_iff] at ended
      obtain ⟨pictures, erased, rfl⟩ := ended
      obtain ⟨entries, represents⟩ := kept.cache.represented
      refine { before with
        cache := kept.cache.step (.erase pictureUrl) erased
        cached := fun other isLoaded => ?_ }
      refine represents.has_erase erased ?_ (kept.cached other isLoaded)
      rintro rfl
      exact kept.done other isLoaded
        (split.mem_iff.mpr (List.mem_cons_self ..))

theorem PicturesKept.step {action : PictureAction} (kept : state.PicturesKept)
    (names : state.NamesOnce action) (taken : state.step action = some next) :
    next.PicturesKept := by
  cases action with
  | setProfiles objects =>
      simp only [PlayerPictures.step, Option.ite_none_right_eq_some,
        Option.some.injEq] at taken
      obtain ⟨idle, rfl⟩ := taken
      exact kept.of_underWay rfl rfl (by simp [underWay, due, idle, ReplyStage.due])
  | goOn =>
      obtain ⟨stage, isStage, goesOn⟩ := Option.bind_eq_some_iff.mp taken
      exact kept.goOn isStage names goesOn
  | downloadSucceeds index data =>
      obtain ⟨⟨player, pictureUrl⟩, isFlight, ended⟩ :=
        Option.bind_eq_some_iff.mp taken
      exact kept.downloaded isFlight ended
  | downloadFails index =>
      obtain ⟨⟨player, pictureUrl⟩, isFlight, ended⟩ :=
        Option.bind_eq_some_iff.mp taken
      exact kept.downloaded isFlight ended
  | picture avatarUrl =>
      simp only [PlayerPictures.step, Option.map_eq_some_iff] at taken
      obtain ⟨⟨pictures, found⟩, got, rfl⟩ := taken
      obtain ⟨entries, represents⟩ := kept.cache.represented
      refine { kept with
        cache := kept.cache.step (.get avatarUrl) (by
          rw [LruCache.step, got, Option.map_some])
        cached := fun pictureUrl isLoaded => ?_ }
      exact (represents.has_get got pictureUrl).trans
        (kept.cached pictureUrl isLoaded)

theorem picturesKept_start (autoDownloadPlayerPics : Bool) :
    PicturesKept { autoDownloadPlayerPics := autoDownloadPlayerPics } where
  cache := ⟨⟨∅, LruCache.represents_empty maxPicturesCached⟩, rfl⟩
  distinct := List.nodup_nil
  cached _ isLoaded := absurd isLoaded List.not_mem_nil
  done _ isLoaded := absurd isLoaded List.not_mem_nil

/-- In a run in which no reply names a picture twice, or one that is being
downloaded but no longer in the cache, no picture is downloaded twice. -/
theorem downloadsOnce {autoDownloadPlayerPics : Bool}
    {actions : List PictureAction} {final : PlayerPictures}
    (reached : Transition.run step
      { autoDownloadPlayerPics := autoDownloadPlayerPics } actions = some final)
    (names : Transition.HoldsAlong step NamesOnce
      { autoDownloadPlayerPics := autoDownloadPlayerPics } actions) :
    final.DownloadsOnce := by
  have kept : final.PicturesKept :=
    Transition.run_preserves
      (fun _ _ _ kept names taken => kept.step names taken) reached names
      (picturesKept_start autoDownloadPlayerPics)
  exact kept.nodup_downloads

/-- Check that a reply names no picture twice. -/
def namesOnce (state : PlayerPictures) : PictureAction → Bool
  | .goOn =>
      state.reply ≠ some .profilesSet || !state.autoDownloadPlayerPics ||
        ((state.picturesToDownload.map Prod.snd).Nodup &&
          (state.picturesToDownload.map Prod.snd).all fun pictureUrl =>
            pictureUrl ∉ state.inFlight.map Prod.snd)
  | _ => true

theorem namesOnce_sound (state : PlayerPictures) (action : PictureAction)
    (checked : state.namesOnce action = true) : state.NamesOnce action := by
  cases action with
  | goOn =>
      intro isStage downloads
      simp only [namesOnce, isStage, downloads, ne_eq, not_true_eq_false,
        decide_false, Bool.not_true, Bool.false_or, Bool.and_eq_true, List.all_eq_true,
        decide_eq_true_eq] at checked
      exact checked
  | _ => trivial

/-- Two players with pictures of their own, of which one cannot be downloaded
at first. -/
def twoPictures : List PictureAction :=
  let reply := .setProfiles [⟨some 1, some "url1"⟩, ⟨some 2, some "url2"⟩]
  [reply, .goOn, .goOn, .goOn, .goOn, .goOn, .goOn, .downloadFails 1,
    .downloadSucceeds 0 [1], reply, .goOn, .goOn, .goOn, .goOn]

theorem downloadsOnce_twoPictures :
    ∃ final, Transition.run step {} twoPictures = some final ∧
      final.inFlight = [(2, "url2")] ∧ final.DownloadsOnce := by
  have evaluated : ((Transition.run step {} twoPictures).any fun final =>
      final.inFlight = [(2, "url2")]) = true := by
    decide +kernel
  have checked : Transition.checksAlong step namesOnce {} twoPictures = true := by
    decide +kernel
  obtain ⟨final, reached, isFlight⟩ := (Option.any_eq_true _ _).mp evaluated
  exact ⟨final, reached, of_decide_eq_true isFlight, downloadsOnce reached
    (Transition.HoldsAlong.of_checksAlong namesOnce_sound checked)⟩

/-- Two players with the same picture. -/
def samePicture : List PictureAction :=
  [.setProfiles [⟨some 1, some "url"⟩, ⟨some 2, some "url"⟩],
    .goOn, .goOn, .goOn, .goOn, .goOn]

theorem downloadedTwice_samePicture :
    ∃ final, Transition.run step {} samePicture = some final ∧
      ¬ final.DownloadsOnce := by
  have evaluated : ((Transition.run step {} samePicture).any fun final =>
      (final.inFlight.map Prod.snd).count "url" = 2) = true := by
    decide +kernel
  obtain ⟨final, reached, twice⟩ := (Option.any_eq_true _ _).mp evaluated
  refine ⟨final, reached, fun downloads => ?_⟩
  have atMostOnce := downloads.once "url"
  rw [of_decide_eq_true twice] at atMostOnce
  exact absurd atMostOnce (by decide)

end PlayerPictures

end ScorbitSdk
