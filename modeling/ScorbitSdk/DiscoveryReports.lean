import ScorbitSdk.DiscoveryRuns
import Mathlib.Data.List.Nodup

/-!
# What a finder reports

What a finder reports of a trusted host is what that host announced while the
finder was waiting, and it reports every host whose answer it has read, once.
-/

namespace ScorbitSdk.Discovery

open BoundedMemory

/-- A device as it is reported, against the information it was announced with:
prefixes of its texts, and all of it where there is room. -/
structure ReportOf (info device : DeviceInfo) : Prop where
  gameName : device.gameName <+: info.gameName.takeWhile (· ≠ 0)
  providerInfo : device.providerInfo <+: info.providerInfo.takeWhile (· ≠ 0)
  extraInfo : device.extraInfo <+: info.extraInfo.takeWhile (· ≠ 0)
  providerSerial : device.providerSerial = info.providerSerial ∨
    device.providerSerial = 0
  whole : (info.gameName.takeWhile (· ≠ 0)).length +
      (info.providerInfo.takeWhile (· ≠ 0)).length +
      (info.extraInfo.takeWhile (· ≠ 0)).length + 11 ≤ 1024 →
    device.gameName = info.gameName.takeWhile (· ≠ 0) ∧
      device.providerInfo = info.providerInfo.takeWhile (· ≠ 0) ∧
      device.extraInfo = info.extraInfo.takeWhile (· ≠ 0) ∧
      device.providerSerial = info.providerSerial

theorem reportOf_received (info : DeviceInfo) (ipAddress : List Byte) :
    ReportOf info (received info ipAddress) := by
  constructor
  · rw [← cutAtNull_eq_takeWhile]
    exact List.take_prefix ..
  · rw [← cutAtNull_eq_takeWhile]
    exact List.take_prefix ..
  · rw [← cutAtNull_eq_takeWhile]
    exact received_extraInfo_prefix ..
  · exact received_serial_or_zero ..
  · simp only [← cutAtNull_eq_takeWhile]
    exact received_exact info ipAddress

theorem ipAddress_of_reading {source : Endpoint} {bytes : List Byte}
    {device : DeviceInfo} (isReading : reading source bytes = some device) :
    device.ipAddress = inetNtop source.address := by
  simp only [reading, discovered, Option.bind_eq_bind,
    Option.bind_eq_some_iff] at isReading
  obtain ⟨_, _, _, _, _, _, _, _, same⟩ := isReading
  exact congrArg DeviceInfo.ipAddress (Option.some.inj same).symm

/-! ## The list of one finder -/

/-- The finder lists each host once, each from an answer that was sent, and
every host it has heard an answer of. -/
structure Finder.Lists (finder : Finder) (sent : List Datagram)
    (hears : Datagram → Prop) : Prop where
  seen : finder.seenKeys = (finder.devices.map (·.ipAddress)).reverse
  nodup : finder.seenKeys.Nodup
  found : ∀ device ∈ finder.devices, ∃ datagram ∈ sent,
    IsAnswer finder.requestId datagram.bytes ∧
      reading datagram.source datagram.bytes = some device
  heard : ∀ datagram, hears datagram →
    IsAnswer finder.requestId datagram.bytes →
      inetNtop datagram.source.address ∈ finder.seenKeys

theorem Finder.Lists.mono {self : Finder} {sent later : List Datagram}
    {heard hears : Datagram → Prop} (lists : self.Lists sent heard)
    (subset : sent ⊆ later) (same : ∀ datagram, hears datagram → heard datagram) :
    self.Lists later hears where
  seen := lists.seen
  nodup := lists.nodup
  found device member := by
    obtain ⟨datagram, isSent, rest⟩ := lists.found device member
    exact ⟨datagram, subset isSent, rest⟩
  heard datagram hears := lists.heard datagram (same datagram hears)

/-- Reading a datagram keeps the list complete. -/
theorem Finder.Lists.receive {self next : Finder} {sent : List Datagram}
    {heard : Datagram → Prop} (lists : self.Lists sent heard)
    {datagram : Datagram} (isSent : datagram ∈ sent)
    (received : self.receive datagram.source datagram.bytes = some next) :
    next.requestId = self.requestId ∧
      next.Lists sent fun other => heard other ∨ other = datagram := by
  rcases Finder.receive_cases received with
    ⟨rfl, known⟩ | ⟨info, isAnswer, isReading, unseen, rfl⟩
  · refine ⟨rfl, lists.seen, lists.nodup, lists.found, ?_⟩
    rintro other (old | rfl) isAnswer
    · exact lists.heard other old isAnswer
    · exact known isAnswer
  · refine ⟨rfl, ?_, List.nodup_cons.mpr ⟨unseen, lists.nodup⟩, ?_, ?_⟩
    · simp [lists.seen, ipAddress_of_reading isReading]
    · intro device member
      rcases List.mem_append.mp member with old | new
      · exact lists.found device old
      · rw [List.mem_singleton.mp new]
        exact ⟨datagram, isSent, isAnswer, isReading⟩
    · rintro other (old | rfl) isOther
      · exact List.mem_cons_of_mem _ (lists.heard other old isOther)
      · exact List.mem_cons_self

namespace DiscoveryNetwork

/-- No packet with the id has been sent. -/
def IsNew (self : DiscoveryNetwork) (requestId : BitVec 32) : Prop :=
  ∀ datagram ∈ self.sent,
    ¬IsRequest requestId datagram.bytes ∧ ¬IsAnswer requestId datagram.bytes

/-- The host announces the information when the finder starts, or has been given
it since. -/
def InForce (start : DiscoveryNetwork) (past : List DiscoveryAction)
    (host : IPv4Address) (info : DeviceInfo) : Prop :=
  info = (start.listeners host).deviceInfo ∨ .initializeWith host info ∈ past

theorem InForce.concat {start : DiscoveryNetwork} {past : List DiscoveryAction}
    {host : IPv4Address} {info : DeviceInfo} (inForce : InForce start past host info)
    (action : DiscoveryAction) : InForce start (past ++ [action]) host info :=
  inForce.imp_right (List.mem_append_left _)

/-- What holds from the start of a finder on: its answers tell what the trusted
hosts announce meanwhile. -/
structure Reporting (isTrusted : IPv4Address → Bool) (start : DiscoveryNetwork)
    (requestId : BitVec 32) (past : List DiscoveryAction)
    (state : DiscoveryNetwork) : Prop where
  informed : ∀ host, InForce start past host (state.listeners host).deviceInfo
  threads : ∀ host made, (state.listeners host).thread.answer? = some made →
    IsAnswer requestId made →
      ∃ info, InForce start past host info ∧ made = answer requestId info
  sent : ∀ datagram ∈ state.sent, isTrusted datagram.source.address = true →
    IsAnswer requestId datagram.bytes →
      ∃ info, InForce start past datagram.source.address info ∧
        datagram.bytes = answer requestId info
  finder : ∃ finder, state.finders[start.finders.length]? = some finder ∧
    finder.requestId = requestId ∧
    finder.Lists state.sent fun datagram =>
      .hear start.finders.length datagram ∈ past

variable {isTrusted : IPv4Address → Bool} {start self next : DiscoveryNetwork}
  {requestId : BitVec 32} {past : List DiscoveryAction} {action : DiscoveryAction}

/-- A finder with a new id starts with nothing that could mislead it. -/
theorem reporting_start (answered : start.Answered) (isNew : start.IsNew requestId)
    {source : Endpoint} {broadcasts : List IPv4Address}
    (called : start.step isTrusted (.discover source requestId broadcasts) =
      some self) : Reporting isTrusted start requestId [] self := by
  obtain rfl := Option.some.inj called
  constructor
  · exact fun host => Or.inl rfl
  · intro host made isMade isAnswer
    obtain ⟨datagram, sent, otherId, isRequest, isOther⟩ :=
      answered host made isMade
    obtain rfl := isOther.requestId_eq isAnswer
    exact absurd isRequest (isNew datagram sent).1
  · intro datagram member _ isAnswer
    rcases List.mem_append.mp member with old | request
    · exact absurd isAnswer (isNew datagram old).2
    · obtain ⟨address, -, rfl⟩ := List.mem_map.mp request
      exact absurd isAnswer (not_isAnswer_of_isRequest (isRequest_request _))
  · refine ⟨{ requestId }, List.getElem?_concat_length, rfl, rfl,
      List.nodup_nil, nofun, nofun⟩

namespace Reporting

theorem informed_setListener
    (reporting : Reporting isTrusted start requestId past self)
    {host : IPv4Address} {listener : Listener}
    (relistens : self.Relistens host listener action) (other : IPv4Address) :
    InForce start (past ++ [action]) other
      ((self.setListener host listener).listeners other).deviceInfo := by
  by_cases same : other = host
  · subst same
    rw [setListener_self]
    rcases relistens with ⟨rfl, -⟩ | ⟨kept, -⟩
    · exact Or.inr (List.mem_append_right _ List.mem_cons_self)
    · rw [kept]
      exact (reporting.informed other).concat action
  · rw [setListener_of_ne same]
    exact (reporting.informed other).concat action

/-- An answer that is made now tells what the host announces now. -/
theorem threads_setListener
    (reporting : Reporting isTrusted start requestId past self)
    {host : IPv4Address} {listener : Listener}
    (relistens : self.Relistens host listener action)
    (other : IPv4Address) (made : List Byte)
    (isMade : ((self.setListener host listener).listeners other).thread.answer? =
      some made) (isAnswer : IsAnswer requestId made) :
    ∃ info, InForce start (past ++ [action]) other info ∧
      made = answer requestId info := by
  have kept : ∀ host made, (self.listeners host).thread.answer? = some made →
      IsAnswer requestId made →
        ∃ info, InForce start (past ++ [action]) host info ∧
          made = answer requestId info := by
    intro host made isMade isAnswer
    obtain ⟨info, inForce, same⟩ := reporting.threads host made isMade isAnswer
    exact ⟨info, inForce.concat action, same⟩
  by_cases same : other = host
  · subst same
    have informed := reporting.informed_setListener relistens other
    rw [setListener_self] at isMade informed
    rcases relistens with ⟨-, nothing⟩ | ⟨-, answers⟩
    · rw [nothing] at isMade
      cases isMade
    · rcases answers made isMade with old | ⟨datagram, -, otherId, -, rfl⟩
      · exact kept other made old isAnswer
      · obtain rfl := (isAnswer_answer otherId _).requestId_eq isAnswer
        exact ⟨listener.deviceInfo, informed, rfl⟩
  · rw [setListener_of_ne same] at isMade
    exact kept other made isMade isAnswer

theorem sent_concat (reporting : Reporting isTrusted start requestId past self) :
    ∀ datagram ∈ self.sent, isTrusted datagram.source.address = true →
      IsAnswer requestId datagram.bytes →
        ∃ info, InForce start (past ++ [action]) datagram.source.address info ∧
          datagram.bytes = answer requestId info := by
  intro datagram member trusted isAnswer
  obtain ⟨info, inForce, same⟩ := reporting.sent datagram member trusted isAnswer
  exact ⟨info, inForce.concat action, same⟩

/-- A step that leaves the finder alone, and is not one in which it reads. -/
theorem finder_kept (reporting : Reporting isTrusted start requestId past self)
    (subset : self.sent ⊆ next.sent)
    (finders : next.finders[start.finders.length]? =
      self.finders[start.finders.length]?)
    (quiet : ∀ datagram, action ≠ .hear start.finders.length datagram) :
    ∃ finder, next.finders[start.finders.length]? = some finder ∧
      finder.requestId = requestId ∧
      finder.Lists next.sent fun datagram =>
        .hear start.finders.length datagram ∈ past ++ [action] := by
  obtain ⟨finder, present, sameId, lists⟩ := reporting.finder
  refine ⟨finder, finders.trans present, sameId, lists.mono subset ?_⟩
  intro datagram hears
  rcases List.mem_append.mp hears with old | now
  · exact old
  · exact absurd (List.mem_singleton.mp now).symm (quiet datagram)

theorem step (reporting : Reporting isTrusted start requestId past self)
    (taken : self.step isTrusted action = some next) :
    Reporting isTrusted start requestId (past ++ [action]) next := by
  have quiet : ∀ host, self.Relistens host
      { self.listeners host with thread := .waiting } action :=
    fun host => Or.inr ⟨rfl, nofun⟩
  have informed : ∀ host, InForce start (past ++ [action]) host
      (self.listeners host).deviceInfo :=
    fun host => (reporting.informed host).concat action
  have threads : ∀ host made,
      (self.listeners host).thread.answer? = some made →
        IsAnswer requestId made →
          ∃ info, InForce start (past ++ [action]) host info ∧
            made = answer requestId info := by
    intro host made isMade isAnswer
    obtain ⟨info, inForce, same⟩ := reporting.threads host made isMade isAnswer
    exact ⟨info, inForce.concat action, same⟩
  rcases step_cases taken with
    ⟨host, listener, rfl, deaf, relistens⟩ |
      ⟨host, made, destination, isReply, isMade, rfl⟩ |
      ⟨source, otherId, broadcasts, isDiscover, rfl⟩ |
      ⟨finder, listening, heard, datagram, rfl, present, isSent, received, rfl⟩ |
      ⟨finder, listening, isTimeout, present, rfl⟩ |
      ⟨datagram, isInject, untrusted, rfl⟩
  · exact ⟨reporting.informed_setListener relistens,
      reporting.threads_setListener relistens, reporting.sent_concat,
      reporting.finder_kept (List.Subset.refl _) rfl (deaf _)⟩
  · refine ⟨reporting.informed_setListener (quiet host),
      reporting.threads_setListener (quiet host), ?_,
      reporting.finder_kept (List.subset_append_left ..) rfl
        (fun _ isHear => nomatch isReply.symm.trans isHear)⟩
    intro datagram member trusted isAnswer
    rcases List.mem_append.mp member with old | new
    · exact reporting.sent_concat datagram old trusted isAnswer
    · obtain rfl := List.mem_singleton.mp new
      exact threads host made isMade isAnswer
  · refine ⟨informed, threads, ?_,
      reporting.finder_kept (List.subset_append_left ..) ?_
        (fun _ isHear => nomatch isDiscover.symm.trans isHear)⟩
    · intro datagram member trusted isAnswer
      rcases List.mem_append.mp member with old | request
      · exact reporting.sent_concat datagram old trusted isAnswer
      · obtain ⟨address, -, rfl⟩ := List.mem_map.mp request
        exact absurd isAnswer (not_isAnswer_of_isRequest (isRequest_request _))
    · obtain ⟨finder, present, -⟩ := reporting.finder
      exact List.getElem?_append_left (List.getElem?_eq_some_iff.mp present).1
  · by_cases same : finder = start.finders.length
    · subst same
      obtain ⟨finder, isFinder, sameId, lists⟩ := reporting.finder
      obtain rfl := Option.some.inj (present.symm.trans isFinder)
      obtain ⟨keptId, lists⟩ := lists.receive isSent received
      have inside := (List.getElem?_eq_some_iff.mp present).1
      refine ⟨informed, threads, reporting.sent_concat, heard,
        List.getElem?_set_self inside, keptId.trans sameId,
        lists.mono (List.Subset.refl _) ?_⟩
      intro other hears
      rcases List.mem_append.mp hears with old | now
      · exact Or.inl old
      · exact Or.inr (DiscoveryAction.hear.inj (List.mem_singleton.mp now)).2
    · refine ⟨informed, threads, reporting.sent_concat,
        reporting.finder_kept (List.Subset.refl _) (List.getElem?_set_ne same) ?_⟩
      intro other isHear
      exact same (DiscoveryAction.hear.inj isHear).1
  · obtain ⟨mine, isMine, sameId, lists⟩ := reporting.finder
    refine ⟨informed, threads, reporting.sent_concat, ?_⟩
    by_cases same : finder = start.finders.length
    · subst same
      obtain rfl := Option.some.inj (present.symm.trans isMine)
      have inside := (List.getElem?_eq_some_iff.mp present).1
      refine ⟨_, List.getElem?_set_self inside, sameId, lists.seen, lists.nodup,
        lists.found, ?_⟩
      intro datagram hears
      rcases List.mem_append.mp hears with old | now
      · exact lists.heard datagram old
      · exact nomatch isTimeout.symm.trans (List.mem_singleton.mp now).symm
    · exact reporting.finder_kept (List.Subset.refl _)
        (List.getElem?_set_ne same)
        (fun _ isHear => nomatch isTimeout.symm.trans isHear)
  · refine ⟨informed, threads, ?_,
      reporting.finder_kept (List.subset_append_left ..) rfl
        (fun _ isHear => nomatch isInject.symm.trans isHear)⟩
    intro other member trusted isAnswer
    rcases List.mem_append.mp member with old | new
    · exact reporting.sent_concat other old trusted isAnswer
    · obtain rfl := List.mem_singleton.mp new
      rw [untrusted] at trusted
      cases trusted

end Reporting

/-- Over any run, a finder whose id is new reports no host twice and none that
has not answered it; what it reports of a trusted host is what that host
announced at some time since the finder started; and no host whose answer it has
read is missing. -/
theorem discovery_reports {before after : List DiscoveryAction}
    {start final : DiscoveryNetwork} {source : Endpoint}
    {broadcasts : List IPv4Address}
    (toStart : Transition.run (step isTrusted) {} before = some start)
    (isNew : start.IsNew requestId)
    (toEnd : Transition.run (step isTrusted) start
      (.discover source requestId broadcasts :: after) = some final) :
    ∃ finder, final.finders[start.finders.length]? = some finder ∧
      (finder.devices.map (·.ipAddress)).Nodup ∧
      (∀ device ∈ finder.devices,
        (∃ datagram ∈ final.sent, IsAnswer requestId datagram.bytes ∧
          device.ipAddress = inetNtop datagram.source.address) ∧
        ∀ host, isTrusted host = true → device.ipAddress = inetNtop host →
          ∃ info, ReportOf info device ∧
            (info = (start.listeners host).deviceInfo ∨
              .initializeWith host info ∈ after)) ∧
      ∀ datagram, .hear start.finders.length datagram ∈ after →
        IsAnswer requestId datagram.bytes →
          inetNtop datagram.source.address ∈
            finder.devices.map (·.ipAddress) := by
  have answered : start.Answered := Transition.run_invariant
    (fun _ _ _ answered taken => answered.step taken) toStart answered_initial
  obtain ⟨started, called, toFinal⟩ := Transition.run_cons.mp toEnd
  have reporting : Reporting isTrusted start requestId ([] ++ after) final :=
    Transition.run_history (fun _ _ _ _ reporting taken => reporting.step taken)
      toFinal (reporting_start answered isNew called)
  obtain ⟨finder, present, rfl, lists⟩ := reporting.finder
  have listed : finder.devices.map (·.ipAddress) = finder.seenKeys.reverse := by
    rw [lists.seen, List.reverse_reverse]
  refine ⟨finder, present, ?_, ?_, ?_⟩
  · rw [listed]
    exact List.nodup_reverse.mpr lists.nodup
  · intro device member
    obtain ⟨datagram, isSent, isAnswer, isReading⟩ := lists.found device member
    have address := ipAddress_of_reading isReading
    refine ⟨⟨datagram, isSent, isAnswer, address⟩, ?_⟩
    intro host trusted isHost
    obtain rfl := inetNtop_injective (isHost.symm.trans address)
    obtain ⟨info, inForce, same⟩ :=
      reporting.sent datagram isSent trusted isAnswer
    rw [same, reading_answer] at isReading
    obtain rfl := Option.some.inj isReading
    exact ⟨info, reportOf_received info _, inForce⟩
  · intro datagram hears isAnswer
    rw [listed, List.mem_reverse]
    exact lists.heard datagram hears isAnswer

/-- A run in which one device is found. -/
def pinballHost : IPv4Address := 0x0A000001

def pinballInfo : DeviceInfo := ⟨[80, 105, 110], [83], 7, [], []⟩

def phone : Endpoint := { address := 0x0A000002, port := 5000 }

def pinballRequest : Datagram := broadcast phone 9 0x0A0000FF

def pinballAnswer : Datagram :=
  { source := { address := pinballHost, port := kDiscoveryPort }
    destination := phone
    bytes := answer 9 pinballInfo }

def pinballStart : DiscoveryNetwork :=
  setListener {} pinballHost
    { running := true, deviceInfo := pinballInfo, thread := .waiting }

def pinballRun : List DiscoveryAction :=
  [.receive pinballHost pinballRequest, .endDelay pinballHost,
    .reply pinballHost, .hear 0 pinballAnswer]

theorem discovery_reports_pinball :
    ∃ final finder,
      Transition.run (step fun _ => true) pinballStart
        (.discover phone 9 [0x0A0000FF] :: pinballRun) = some final ∧
      final.finders[0]? = some finder ∧
      inetNtop pinballHost ∈ finder.devices.map (·.ipAddress) := by
  have toStart : Transition.run (step fun _ => true) {}
      [.initializeWith pinballHost pinballInfo] = some pinballStart := rfl
  have isNew : pinballStart.IsNew 9 := fun _ member => nomatch member
  obtain ⟨final, toEnd⟩ := Option.isSome_iff_exists.mp
    (show (Transition.run (step fun _ => true) pinballStart
      (.discover phone 9 [0x0A0000FF] :: pinballRun)).isSome = true by
        decide +kernel)
  obtain ⟨finder, present, -, -, heard⟩ :=
    discovery_reports toStart isNew toEnd
  have hears : .hear pinballStart.finders.length pinballAnswer ∈ pinballRun := by
    simp [pinballRun, pinballStart, setListener]
  exact ⟨final, finder, toEnd, present,
    heard pinballAnswer hears (isAnswer_answer 9 pinballInfo)⟩

end DiscoveryNetwork

end ScorbitSdk.Discovery
