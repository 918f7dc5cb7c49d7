import ScorbitSdk.BigEndian
import ScorbitSdk.DecimalFields
import ScorbitSdk.Discovery
import ScorbitSdk.TransitionRuns
import Mathlib.Logic.Function.Basic

/-!
# Discovery over a network

Devices listen for discovery requests and answer them, finders send a request
and collect the answers until their time is up.  The network may lose, repeat,
delay, reorder and misdirect datagrams, and hosts of other makes send whatever
they like from their own addresses.
-/

namespace ScorbitSdk.Discovery

open BoundedMemory

abbrev IPv4Address := BitVec 32

structure Endpoint where
  address : IPv4Address
  port : BitVec 16
deriving DecidableEq, Repr

structure Datagram where
  source : Endpoint
  destination : Endpoint
  bytes : List Byte
deriving DecidableEq, Repr

def kDiscoveryPort : BitVec 16 := 37020
def kMagic : BitVec 32 := 0x4E445343
def kVersion : BitVec 16 := 1
def kPacketTypeDiscover : BitVec 16 := 1
def kPacketTypeResponse : BitVec 16 := 2

/-- The dotted text of an address, as `inet_ntop` writes it. -/
def inetNtop (address : IPv4Address) : List Byte :=
  let parts := (BigEndian.encode 4 address.toNat).map fun byte =>
    decimal byte.toNat
  (['.'].intercalate parts).map fun c => BitVec.ofNat 8 c.toNat

/-! ## The packets -/

/-- `DiscoveryRequestPacket` and `DiscoveryResponseHeader`, which have the same
fields, each in network order. -/
structure PacketHeader where
  magic : BitVec 32
  version : BitVec 16
  type : BitVec 16
  requestId : BitVec 32
deriving DecidableEq, Repr

namespace PacketHeader

def size : Nat := 12

def bytes (header : PacketHeader) : List Byte :=
  BigEndian.encode 4 header.magic.toNat ++
    BigEndian.encode 2 header.version.toNat ++
    BigEndian.encode 2 header.type.toNat ++
    BigEndian.encode 4 header.requestId.toNat

/-- What `memcpy` and `ntohl` make of a buffer that is long enough. -/
def ofBytes (buffer : List Byte) : Option PacketHeader :=
  if buffer.length < size then none
  else some
    { magic := .ofNat 32 (BigEndian.value (buffer.take 4))
      version := .ofNat 16 (BigEndian.value ((buffer.drop 4).take 2))
      type := .ofNat 16 (BigEndian.value ((buffer.drop 6).take 2))
      requestId := .ofNat 32 (BigEndian.value ((buffer.drop 8).take 4)) }

def request (requestId : BitVec 32) : PacketHeader :=
  { magic := kMagic, version := kVersion, type := kPacketTypeDiscover, requestId }

def response (requestId : BitVec 32) : PacketHeader :=
  { magic := kMagic, version := kVersion, type := kPacketTypeResponse, requestId }

end PacketHeader

/-! ## The listener -/

/-- Where the thread of `ListenerThreadProc` stands: with an answer it is in the
random delay, or behind the last check of `m_Running`. -/
inductive ListenerThread
  | waiting
  | delaying (answer : List Byte) (destination : Endpoint)
  | sending (answer : List Byte) (destination : Endpoint)
  | ended
deriving DecidableEq, Repr

structure Listener where
  running : Bool := false
  deviceInfo : DeviceInfo := ⟨[], [], 0, [], []⟩
  thread : ListenerThread := .ended
deriving DecidableEq, Repr

namespace Listener

/-- One datagram read by the listening thread, into a buffer of 512 bytes. -/
def receive (self : Listener) (source : Endpoint) (bytes : List Byte) :
    Option Listener :=
  match PacketHeader.ofBytes (bytes.take 512) with
  | none => some self
  | some request =>
      if request.magic ≠ kMagic ∨ request.version ≠ kVersion ∨
          request.type ≠ kPacketTypeDiscover then
        some self
      else do
        let payload ← responsePayload self.deviceInfo
        let header := PacketHeader.response request.requestId
        some { self with thread := .delaying (header.bytes ++ payload) source }

end Listener

/-! ## The finder -/

/-- A call of `Discover` that waits for answers, or has returned. -/
structure Finder where
  requestId : BitVec 32
  devices : List DeviceInfo := []
  seenKeys : List (List Byte) := []
  isWaiting : Bool := true
deriving DecidableEq, Repr

namespace Finder

/-- One datagram read by `Discover`. -/
def receive (self : Finder) (source : Endpoint) (bytes : List Byte) :
    Option Finder :=
  let buffer := bytes.take (PacketHeader.size + kMaxPayloadSize)
  match PacketHeader.ofBytes buffer with
  | none => some self
  | some header =>
      if header.magic ≠ kMagic ∨ header.version ≠ kVersion ∨
          header.type ≠ kPacketTypeResponse ∨
          header.requestId ≠ self.requestId then
        some self
      else do
        let ipAddress := inetNtop source.address
        let info ← discovered ipAddress (buffer.drop PacketHeader.size)
        if ipAddress ∈ self.seenKeys then some self
        else some { self with
          devices := self.devices ++ [info]
          seenKeys := ipAddress :: self.seenKeys }

end Finder

/-! ## The network -/

/-- The hosts, and every datagram ever sent: the network may deliver any of
them, to anyone, at any time and any number of times. -/
structure DiscoveryNetwork where
  listeners : IPv4Address → Listener := fun _ => {}
  finders : List Finder := []
  sent : List Datagram := []

inductive DiscoveryAction
  /-- The rest of `Initialize`, behind `UnInitialize`. -/
  | initializeWith (host : IPv4Address) (info : DeviceInfo)
  /-- `UnInitialize` clears `m_Running`; `join` then waits for the thread. -/
  | unInitialize (host : IPv4Address)
  /-- The thread ends: `m_Running` is false, or the socket fails. -/
  | endThread (host : IPv4Address)
  | receive (host : IPv4Address) (datagram : Datagram)
  | endDelay (host : IPv4Address)
  | reply (host : IPv4Address)
  /-- `Discover` sends its request to the broadcast addresses. -/
  | discover (source : Endpoint) (requestId : BitVec 32)
      (broadcasts : List IPv4Address)
  | hear (finder : Nat) (datagram : Datagram)
  | timeout (finder : Nat)
  /-- A host of another make sends a datagram. -/
  | inject (datagram : Datagram)
deriving DecidableEq, Repr

namespace DiscoveryNetwork

def setListener (self : DiscoveryNetwork) (host : IPv4Address)
    (listener : Listener) : DiscoveryNetwork :=
  { self with listeners := Function.update self.listeners host listener }

def broadcast (source : Endpoint) (requestId : BitVec 32)
    (address : IPv4Address) : Datagram :=
  { source
    destination := { address, port := kDiscoveryPort }
    bytes := (PacketHeader.request requestId).bytes }

/-- A trusted host sends only what the code of this library sends. -/
def step (isTrusted : IPv4Address → Bool) (self : DiscoveryNetwork) :
    DiscoveryAction → Option DiscoveryNetwork
  | .initializeWith host info =>
      if (self.listeners host).thread = .ended then
        some (self.setListener host
          { running := true, deviceInfo := info, thread := .waiting })
      else none
  | .unInitialize host =>
      some (self.setListener host { self.listeners host with running := false })
  | .endThread host =>
      if (self.listeners host).thread = .waiting then
        some (self.setListener host
          { self.listeners host with running := false, thread := .ended })
      else none
  | .receive host datagram =>
      if (self.listeners host).thread = .waiting ∧ datagram ∈ self.sent then
        ((self.listeners host).receive datagram.source datagram.bytes).map
          (self.setListener host)
      else none
  | .endDelay host =>
      match (self.listeners host).thread with
      | .delaying answer destination =>
          if (self.listeners host).running then
            some (self.setListener host
              { self.listeners host with thread := .sending answer destination })
          else
            some (self.setListener host
              { self.listeners host with thread := .ended })
      | _ => none
  | .reply host =>
      match (self.listeners host).thread with
      | .sending answer destination =>
          let datagram : Datagram :=
            { source := { address := host, port := kDiscoveryPort }
              destination, bytes := answer }
          some { self.setListener host
              { self.listeners host with thread := .waiting } with
            sent := self.sent ++ [datagram] }
      | _ => none
  | .discover source requestId broadcasts =>
      some { self with
        finders := self.finders ++ [{ requestId }]
        sent := self.sent ++ broadcasts.map (broadcast source requestId) }
  | .hear finder datagram => do
      let listening ← self.finders[finder]?
      if listening.isWaiting ∧ datagram ∈ self.sent then
        let listening ← listening.receive datagram.source datagram.bytes
        some { self with finders := self.finders.set finder listening }
      else none
  | .timeout finder => do
      let listening ← self.finders[finder]?
      some { self with
        finders := self.finders.set finder { listening with isWaiting := false } }
  | .inject datagram =>
      if isTrusted datagram.source.address then none
      else some { self with sent := self.sent ++ [datagram] }

end DiscoveryNetwork

end ScorbitSdk.Discovery
