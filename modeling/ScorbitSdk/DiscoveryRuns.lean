import ScorbitSdk.DiscoveryNetworks

/-!
# Answers and steps of the discovery network

Listeners answer requests and nothing else, and finders list the senders of
answers to their request.  Each step changes one listener or one finder, or
sends something.
-/

namespace ScorbitSdk.Discovery

open BoundedMemory

/-! ## Packets -/

section Fields

variable {Value : Type*}

theorem field_append {front field rest : List Value} {start length : Nat}
    (isStart : front.length = start) (isLength : field.length = length) :
    ((front ++ field ++ rest).drop start).take length = field := by
  subst isStart isLength
  simp [List.append_assoc]

theorem field_take {start length count : Nat} (inside : start + length ≤ count)
    (buffer : List Value) :
    ((buffer.take count).drop start).take length =
      (buffer.drop start).take length := by
  rw [List.drop_take, List.take_take, Nat.min_eq_left (by omega)]

end Fields

namespace PacketHeader

@[simp]
theorem length_bytes (header : PacketHeader) : header.bytes.length = size := by
  simp [bytes, size]

theorem ofBytes_bytes_append (header : PacketHeader) (rest : List Byte) :
    ofBytes (header.bytes ++ rest) = some header := by
  have long : ¬(header.bytes ++ rest).length < size := by
    rw [List.length_append, length_bytes]
    omega
  have magic : (header.bytes ++ rest).take 4 =
      BigEndian.encode 4 header.magic.toNat := by
    simp [bytes]
  have version : ((header.bytes ++ rest).drop 4).take 2 =
      BigEndian.encode 2 header.version.toNat := by
    rw [bytes, List.append_assoc, List.append_assoc]
    exact field_append (by simp) (by simp)
  have type : ((header.bytes ++ rest).drop 6).take 2 =
      BigEndian.encode 2 header.type.toNat := by
    rw [bytes, List.append_assoc]
    exact field_append (by simp) (by simp)
  have requestId : ((header.bytes ++ rest).drop 8).take 4 =
      BigEndian.encode 4 header.requestId.toNat :=
    field_append (by simp) (by simp)
  rw [ofBytes, if_neg long, magic, version, type, requestId]
  simp only [BigEndian.ofNat_value_encode, Nat.reducePow, Nat.le_refl]

/-- Only the first bytes of a packet matter. -/
theorem ofBytes_take {count : Nat} (enough : size ≤ count) (buffer : List Byte) :
    ofBytes (buffer.take count) = ofBytes buffer := by
  have twelve : 12 ≤ count := enough
  have same : (buffer.take count).length < size ↔ buffer.length < size := by
    rw [List.length_take]
    omega
  have first : (buffer.take count).take 4 = buffer.take 4 := by
    rw [List.take_take, Nat.min_eq_left (by omega)]
  unfold ofBytes
  simp only [same, first, field_take (show 4 + 2 ≤ count by omega),
    field_take (show 6 + 2 ≤ count by omega),
    field_take (show 8 + 4 ≤ count by omega)]

end PacketHeader

/-! ## The texts of addresses -/

theorem forall_mem_intercalate {holds : Char → Prop} {separator : Char}
    (ofSeparator : holds separator) {parts : List (List Char)}
    (ofParts : ∀ part ∈ parts, ∀ c ∈ part, holds c) :
    ∀ c ∈ [separator].intercalate parts, holds c := by
  induction parts with
  | nil => simp
  | cons part parts ih =>
      obtain ⟨ofPart, ofParts⟩ := List.forall_mem_cons.mp ofParts
      cases parts with
      | nil => simpa using ofPart
      | cons next parts =>
          rw [List.intercalate_cons_cons, List.forall_mem_append,
            List.forall_mem_append, List.forall_mem_singleton]
          exact ⟨⟨ofPart, ofSeparator⟩, ih ofParts⟩

theorem isDigit_of_mem_decimal {c : Char} {number : Nat}
    (member : c ∈ decimal number) : c.isDigit = true :=
  Nat.isDigit_of_mem_toDigits (by decide) (by decide) member

theorem dot_notMem_decimal (number : Nat) : '.' ∉ decimal number := by
  intro member
  exact absurd (isDigit_of_mem_decimal member) (by decide)

theorem toNat_lt_of_isDigit {c : Char} (isDigit : c.isDigit = true) :
    c.toNat < 256 :=
  Nat.lt_of_le_of_lt (Char.isDigit_iff_toNat.mp isDigit).2 (by decide)

theorem ofNat_byte_of_lt {c : Char} (small : c.toNat < 256) :
    Char.ofNat (BitVec.ofNat 8 c.toNat).toNat = c := by
  rw [BitVec.toNat_ofNat, Nat.mod_eq_of_lt small, Char.ofNat_toNat]

/-- Two addresses never have the same text. -/
theorem inetNtop_injective : Function.Injective inetNtop := by
  intro first second same
  let parts (address : IPv4Address) : List (List Char) :=
    (BigEndian.encode 4 address.toNat).map fun byte => decimal byte.toNat
  have small : ∀ address, ∀ c ∈ ['.'].intercalate (parts address),
      c.toNat < 256 := by
    intro address
    refine forall_mem_intercalate (by decide) ?_
    simp only [parts, List.forall_mem_map]
    exact fun byte _ c member =>
      toNat_lt_of_isDigit (isDigit_of_mem_decimal member)
  have text : ∀ address,
      (inetNtop address).map (fun byte => Char.ofNat byte.toNat) =
        ['.'].intercalate (parts address) := by
    intro address
    rw [inetNtop, List.map_map]
    exact (List.map_congr_left fun c member =>
      ofNat_byte_of_lt (small address c member)).trans (List.map_id' _)
  have split : ∀ address,
      (['.'].intercalate (parts address)).splitOn '.' = parts address := by
    intro address
    refine List.splitOn_intercalate '.' ?_ ?_
    · simp only [parts, List.forall_mem_map]
      exact fun byte _ => dot_notMem_decimal byte.toNat
    · intro empty
      have := congrArg List.length empty
      simp [parts] at this
  have sameParts : parts first = parts second := by
    rw [← split first, ← split second, ← text first, ← text second, same]
  have sameBytes := List.map_injective_iff.mpr
    (fun _ _ equal => BitVec.eq_of_toNat_eq (DecimalFields.decimal_inj.mp equal))
    sameParts
  have values := congrArg BigEndian.value sameBytes
  rw [BigEndian.value_encode_of_lt first.isLt,
    BigEndian.value_encode_of_lt second.isLt] at values
  exact BitVec.eq_of_toNat_eq values

/-! ## Answers -/

/-- The bytes are a request with the given id. -/
def IsRequest (requestId : BitVec 32) (bytes : List Byte) : Prop :=
  PacketHeader.ofBytes bytes = some (.request requestId)

/-- The bytes are an answer to the request with the given id. -/
def IsAnswer (requestId : BitVec 32) (bytes : List Byte) : Prop :=
  PacketHeader.ofBytes bytes = some (.response requestId)

/-- What a listener with the given information answers. -/
def answer (requestId : BitVec 32) (info : DeviceInfo) : List Byte :=
  (PacketHeader.response requestId).bytes ++ extraPart info

theorem isAnswer_answer (requestId : BitVec 32) (info : DeviceInfo) :
    IsAnswer requestId (answer requestId info) :=
  PacketHeader.ofBytes_bytes_append _ _

theorem isRequest_request (requestId : BitVec 32) :
    IsRequest requestId (PacketHeader.request requestId).bytes := by
  have parsed := PacketHeader.ofBytes_bytes_append (.request requestId) []
  rwa [List.append_nil] at parsed

theorem not_isAnswer_of_isRequest {requestId otherId : BitVec 32}
    {bytes : List Byte} (isRequest : IsRequest requestId bytes) :
    ¬IsAnswer otherId bytes := by
  intro isAnswer
  have same := isRequest.symm.trans isAnswer
  have types := congrArg (Option.map PacketHeader.type) same
  exact absurd types (by simp [PacketHeader.request, PacketHeader.response,
    kPacketTypeDiscover, kPacketTypeResponse])

theorem IsAnswer.requestId_eq {first second : BitVec 32} {bytes : List Byte}
    (isFirst : IsAnswer first bytes) (isSecond : IsAnswer second bytes) :
    first = second := by
  have same := Option.some.inj (isFirst.symm.trans isSecond)
  exact congrArg PacketHeader.requestId same

/-- A listener answers a request, and nothing else. -/
theorem Listener.receive_cases {self next : Listener} {source : Endpoint}
    {bytes : List Byte} (received : self.receive source bytes = some next) :
    (next = self ∧ ∀ requestId, ¬IsRequest requestId bytes) ∨
      ∃ requestId, IsRequest requestId bytes ∧
        next = { self with
          thread := .delaying (answer requestId self.deviceInfo) source } := by
  rw [Listener.receive, PacketHeader.ofBytes_take (by decide)] at received
  unfold IsRequest
  cases parsed : PacketHeader.ofBytes bytes with
  | none =>
      rw [parsed] at received
      exact Or.inl ⟨(Option.some.inj received).symm, nofun⟩
  | some request =>
      simp only [parsed] at received
      split at received
      · next other =>
        refine Or.inl ⟨(Option.some.inj received).symm, ?_⟩
        rintro requestId same
        rw [Option.some.inj same] at other
        simp [PacketHeader.request] at other
      · next same =>
        simp only [not_or, not_not] at same
        obtain ⟨magic, version, type⟩ := same
        rw [responsePayload_eq] at received
        refine Or.inr ⟨request.requestId, ?_, (Option.some.inj received).symm⟩
        rw [PacketHeader.request, ← magic, ← version, ← type]

/-- What a finder reads from an answer. -/
def reading (source : Endpoint) (bytes : List Byte) : Option DeviceInfo :=
  discovered (inetNtop source.address)
    ((bytes.take (PacketHeader.size + kMaxPayloadSize)).drop PacketHeader.size)

theorem reading_answer (source : Endpoint) (requestId : BitVec 32)
    (info : DeviceInfo) :
    reading source (answer requestId info) =
      some (received info (inetNtop source.address)) := by
  have bound := length_extraPart info
  have whole : (answer requestId info).length ≤
      PacketHeader.size + kMaxPayloadSize := by
    rw [answer, List.length_append, PacketHeader.length_bytes]
    omega
  rw [reading, List.take_of_length_le whole, answer,
    List.drop_left' (PacketHeader.length_bytes _), discovered_extraPart]

/-- A finder lists the sender of an answer to its request, once, and passes over
everything else. -/
theorem Finder.receive_cases {self next : Finder} {source : Endpoint}
    {bytes : List Byte} (received : self.receive source bytes = some next) :
    (next = self ∧ (IsAnswer self.requestId bytes →
      inetNtop source.address ∈ self.seenKeys)) ∨
    ∃ info, IsAnswer self.requestId bytes ∧ reading source bytes = some info ∧
      inetNtop source.address ∉ self.seenKeys ∧
      next = { self with
        devices := self.devices ++ [info]
        seenKeys := inetNtop source.address :: self.seenKeys } := by
  rw [Finder.receive, PacketHeader.ofBytes_take (by decide)] at received
  unfold IsAnswer
  cases parsed : PacketHeader.ofBytes bytes with
  | none =>
      rw [parsed] at received
      exact Or.inl ⟨(Option.some.inj received).symm, nofun⟩
  | some header =>
      simp only [parsed] at received
      split at received
      · next other =>
        refine Or.inl ⟨(Option.some.inj received).symm, fun same => ?_⟩
        rw [Option.some.inj same] at other
        simp [PacketHeader.response] at other
      · next same =>
        simp only [not_or, not_not] at same
        obtain ⟨magic, version, type, requestId⟩ := same
        have isAnswer : header = .response self.requestId := by
          rw [PacketHeader.response, ← magic, ← version, ← type, ← requestId]
        obtain ⟨info, isInfo, taken⟩ := Option.bind_eq_some_iff.mp received
        split at taken
        · next seen =>
          exact Or.inl ⟨(Option.some.inj taken).symm, fun _ => seen⟩
        · next unseen =>
          exact Or.inr ⟨info, congrArg some isAnswer, isInfo, unseen,
            (Option.some.inj taken).symm⟩

/-! ## Steps -/

/-- The answer that a thread is about to send. -/
def ListenerThread.answer? : ListenerThread → Option (List Byte)
  | .delaying answer _ => some answer
  | .sending answer _ => some answer
  | _ => none

namespace DiscoveryNetwork

variable {isTrusted : IPv4Address → Bool} {self next : DiscoveryNetwork}
  {action : DiscoveryAction}

/-- What a step does to a listener without sending anything: it is given new
information, or it keeps its information, and an answer it makes is one to a
request that has been sent. -/
def Relistens (self : DiscoveryNetwork) (host : IPv4Address)
    (listener : Listener) (action : DiscoveryAction) : Prop :=
  (action = .initializeWith host listener.deviceInfo ∧
    listener.thread.answer? = none) ∨
  (listener.deviceInfo = (self.listeners host).deviceInfo ∧
    ∀ made, listener.thread.answer? = some made →
      (self.listeners host).thread.answer? = some made ∨
      ∃ datagram ∈ self.sent, ∃ requestId,
        IsRequest requestId datagram.bytes ∧
          made = answer requestId listener.deviceInfo)

theorem step_cases (taken : self.step isTrusted action = some next) :
    (∃ host listener, next = self.setListener host listener ∧
      (∀ finder datagram, action ≠ .hear finder datagram) ∧
      self.Relistens host listener action) ∨
    (∃ host made destination, action = .reply host ∧
      (self.listeners host).thread.answer? = some made ∧
      next = { self.setListener host
          { self.listeners host with thread := .waiting } with
        sent := self.sent ++
          [{ source := { address := host, port := kDiscoveryPort }
             destination, bytes := made }] }) ∨
    (∃ source requestId broadcasts,
      action = .discover source requestId broadcasts ∧
      next = { self with
        finders := self.finders ++ [{ requestId }]
        sent := self.sent ++ broadcasts.map (broadcast source requestId) }) ∨
    (∃ finder listening heard datagram, action = .hear finder datagram ∧
      self.finders[finder]? = some listening ∧ datagram ∈ self.sent ∧
      listening.receive datagram.source datagram.bytes = some heard ∧
      next = { self with finders := self.finders.set finder heard }) ∨
    (∃ finder listening, action = .timeout finder ∧
      self.finders[finder]? = some listening ∧
      next = { self with
        finders := self.finders.set finder
          { listening with isWaiting := false } }) ∨
    (∃ datagram, action = .inject datagram ∧
      isTrusted datagram.source.address = false ∧
      next = { self with sent := self.sent ++ [datagram] }) := by
  cases action with
  | initializeWith host info =>
      obtain ⟨-, taken⟩ := Option.ite_none_right_eq_some.mp taken
      exact Or.inl ⟨host, _, (Option.some.inj taken).symm, nofun,
        Or.inl ⟨rfl, rfl⟩⟩
  | unInitialize host =>
      exact Or.inl ⟨host, _, (Option.some.inj taken).symm, nofun,
        Or.inr ⟨rfl, fun made same => Or.inl same⟩⟩
  | endThread host =>
      obtain ⟨-, taken⟩ := Option.ite_none_right_eq_some.mp taken
      exact Or.inl ⟨host, _, (Option.some.inj taken).symm, nofun,
        Or.inr ⟨rfl, nofun⟩⟩
  | receive host datagram =>
      obtain ⟨⟨-, sent⟩, taken⟩ := Option.ite_none_right_eq_some.mp taken
      obtain ⟨listener, received, rfl⟩ := Option.map_eq_some_iff.mp taken
      rcases Listener.receive_cases received with
        ⟨rfl, -⟩ | ⟨requestId, isRequest, rfl⟩
      · exact Or.inl ⟨host, _, rfl, nofun,
          Or.inr ⟨rfl, fun made same => Or.inl same⟩⟩
      · refine Or.inl ⟨host, _, rfl, nofun,
          Or.inr ⟨rfl, fun made same => Or.inr ?_⟩⟩
        exact ⟨datagram, sent, requestId, isRequest,
          (Option.some.inj same).symm⟩
  | endDelay host =>
      simp only [step] at taken
      split at taken
      · next made destination thread =>
        have same : (self.listeners host).thread.answer? = some made := by
          rw [thread]
          rfl
        split at taken
        · refine Or.inl ⟨host, _, (Option.some.inj taken).symm, nofun,
            Or.inr ⟨rfl, ?_⟩⟩
          exact fun other isOther => Or.inl (same.trans isOther)
        · exact Or.inl ⟨host, _, (Option.some.inj taken).symm, nofun,
            Or.inr ⟨rfl, nofun⟩⟩
      · cases taken
  | reply host =>
      simp only [step] at taken
      split at taken
      · next made destination thread =>
        refine Or.inr (Or.inl ⟨host, made, destination, rfl, ?_,
          (Option.some.inj taken).symm⟩)
        rw [thread]
        rfl
      · cases taken
  | discover source requestId broadcasts =>
      exact Or.inr (Or.inr (Or.inl ⟨source, requestId, broadcasts, rfl,
        (Option.some.inj taken).symm⟩))
  | hear finder datagram =>
      obtain ⟨listening, present, taken⟩ := Option.bind_eq_some_iff.mp taken
      obtain ⟨⟨-, sent⟩, taken⟩ := Option.ite_none_right_eq_some.mp taken
      obtain ⟨heard, received, taken⟩ := Option.bind_eq_some_iff.mp taken
      exact Or.inr (Or.inr (Or.inr (Or.inl ⟨finder, listening, heard, datagram,
        rfl, present, sent, received, (Option.some.inj taken).symm⟩)))
  | timeout finder =>
      obtain ⟨listening, present, taken⟩ := Option.bind_eq_some_iff.mp taken
      exact Or.inr (Or.inr (Or.inr (Or.inr (Or.inl ⟨finder, listening, rfl,
        present, (Option.some.inj taken).symm⟩))))
  | inject datagram =>
      obtain ⟨untrusted, taken⟩ := Option.ite_none_left_eq_some.mp taken
      exact Or.inr (Or.inr (Or.inr (Or.inr (Or.inr ⟨datagram, rfl,
        Bool.eq_false_iff.mpr untrusted, (Option.some.inj taken).symm⟩))))

@[simp]
theorem setListener_self (host : IPv4Address) (listener : Listener) :
    (self.setListener host listener).listeners host = listener :=
  Function.update_self ..

theorem setListener_of_ne {host other : IPv4Address} (different : other ≠ host)
    (listener : Listener) :
    (self.setListener host listener).listeners other = self.listeners other :=
  Function.update_of_ne different ..

/-! ## Answers are made of requests -/

/-- Every answer that a thread is about to send is one to a request that has
been sent. -/
def Answered (self : DiscoveryNetwork) : Prop :=
  ∀ host made, (self.listeners host).thread.answer? = some made →
    ∃ datagram ∈ self.sent, ∃ requestId,
      IsRequest requestId datagram.bytes ∧ IsAnswer requestId made

theorem answered_initial : Answered {} :=
  nofun

theorem Answered.mono (answered : self.Answered)
    (threads : ∀ host made,
      (next.listeners host).thread.answer? = some made →
        (self.listeners host).thread.answer? = some made)
    (sent : self.sent ⊆ next.sent) : next.Answered := by
  intro host made isMade
  obtain ⟨datagram, member, rest⟩ := answered host made (threads host made isMade)
  exact ⟨datagram, sent member, rest⟩

theorem Answered.setListener (answered : self.Answered) {host : IPv4Address}
    {listener : Listener} (relistens : self.Relistens host listener action) :
    (self.setListener host listener).Answered := by
  intro other made isMade
  by_cases same : other = host
  · subst same
    rw [setListener_self] at isMade
    rcases relistens with ⟨-, nothing⟩ | ⟨-, answers⟩
    · rw [nothing] at isMade
      cases isMade
    · rcases answers made isMade with old | ⟨datagram, sent, requestId, isRequest, rfl⟩
      · exact answered other made old
      · exact ⟨datagram, sent, requestId, isRequest, isAnswer_answer _ _⟩
  · rw [setListener_of_ne same] at isMade
    exact answered other made isMade

theorem Answered.step (answered : self.Answered)
    (taken : self.step isTrusted action = some next) : next.Answered := by
  rcases step_cases taken with
    ⟨host, listener, rfl, -, relistens⟩ |
      ⟨host, made, destination, -, -, rfl⟩ |
      ⟨source, requestId, broadcasts, -, rfl⟩ |
      ⟨finder, listening, heard, datagram, -, -, -, -, rfl⟩ |
      ⟨finder, listening, -, -, rfl⟩ | ⟨datagram, -, -, rfl⟩
  · exact answered.setListener relistens
  · have quiet : self.Relistens host
        { self.listeners host with thread := .waiting } action :=
      Or.inr ⟨rfl, nofun⟩
    exact (answered.setListener quiet).mono (fun _ _ isMade => isMade)
      (List.subset_append_left ..)
  · exact answered.mono (fun _ _ isMade => isMade) (List.subset_append_left ..)
  · exact answered
  · exact answered
  · exact answered.mono (fun _ _ isMade => isMade) (List.subset_append_left ..)

end DiscoveryNetwork

end ScorbitSdk.Discovery
