import ScorbitSdk.Base64
import ScorbitSdk.JsonReads
import ScorbitSdk.TextStreams
import Mathlib.Data.List.DropRight
import Mathlib.Data.List.GetD

/-!
# When a token expires

The payload of a token is decoded into a buffer of a fixed size, and what is in the
buffer is parsed.  From the time that is found there the timer of the token's
refresh is set.
-/

namespace ScorbitSdk

open JsonNode TextStream

namespace JwtParser

/-- One read of a text in base64, of at most so many bytes, and the parser, which
throws where the text is no JSON. -/
structure Decoders where
  bioRead : List Char → Nat → List UInt8
  parse : List UInt8 → Option JsonNode

/-- The clock counts its ticks in 64 bits. -/
structure SystemClock where
  ticksPerSecond : Nat
  positive : 0 < ticksPerSecond

/-- `while (payload.length() % 4) payload += '='`. -/
def pad (payload : List Char) : List Char :=
  if payload.length % 4 = 0 then payload else pad (payload ++ ['='])
termination_by (4 - payload.length % 4) % 4
decreasing_by
  rw [List.length_append, List.length_singleton]
  omega

def replace (old new : Char) (text : List Char) : List Char :=
  text.map fun c => if c = old then new else c

def bufferSize : Nat := 1024

/-- `from_time_t`: the multiplication by the ticks wraps around. -/
def SystemClock.fromTimeT (clock : SystemClock) (seconds : BitVec 64) : Int :=
  (BitVec.ofInt 64 (seconds.toInt * clock.ticksPerSecond)).toInt

section Source

variable (decoders : Decoders) (clock : SystemClock)

/-- The ticks since the epoch.  `get<int64_t>` has the bits of `get<uint64_t>`. -/
def parseJwtExpiration (jwtToken : List Char) : Option Int := do
  let (_header, tokenStream) ← getline '.' jwtToken
  let (payload, tokenStream) ← getline '.' tokenStream
  let _signature ← getline '.' tokenStream
  let payload := replace '_' '/' (replace '-' '+' (pad payload))
  let decodedPayload := decoders.bioRead payload bufferSize
  if decodedPayload = [] then none
  else
    let json ← decoders.parse decodedPayload
    let exp ← json.find? "exp"
    if exp.isNumber then exp.getUnsigned64.map clock.fromTimeT else none

/-- The seconds, rounded down. -/
def getJwtTokenTimeUntilExpiration (now : Nat) (jwtToken : List Char) : Option Int :=
  (parseJwtExpiration decoders clock jwtToken).map fun (expiration : Int) =>
    if expiration ≤ now then 0 else (expiration - now).tdiv clock.ticksPerSecond

/-- `REFRESH_TOKEN_BEFORE_EXPIRY`, in seconds. -/
def refreshTokenBeforeExpiry : Int := 5 * 60

/-- The delay of the timer, if it is started. -/
def startTokenRefreshTimer (now : Nat) (jwtToken : List Char) : Option Int :=
  match getJwtTokenTimeUntilExpiration decoders clock now jwtToken with
  | some timeUntilExpiration =>
      if refreshTokenBeforeExpiry < timeUntilExpiration then
        some (timeUntilExpiration - refreshTokenBeforeExpiry)
      else none
  | none => none

end Source

/-! ## What is assumed of the libraries, and what is expected -/

def isSpace (byte : UInt8) : Bool :=
  byte = 0x20 || byte = 0x09 || byte = 0x0a || byte = 0x0d

/-- The first bytes are read of what was encoded.  White space after a document is
ignored, nothing else may follow an object, and what begins an object is no other
document.  A byte zero would end the text. -/
structure Decoders.Correct (decoders : Decoders) : Prop where
  bioRead_encode : ∀ data,
    decoders.bioRead (Base64.encode data) bufferSize = data.take bufferSize
  parse_space : ∀ text spaces, spaces.all isSpace = true →
    decoders.parse (text ++ spaces) = decoders.parse text
  parse_after_object : ∀ text after members, 0 ∉ text ++ after →
    decoders.parse text = some (object members) → after.all isSpace = false →
      decoders.parse (text ++ after) = none
  parse_before_object : ∀ text after members node,
    decoders.parse (text ++ after) = some (object members) →
      decoders.parse text = some node → node.isObject = true

def token (header : List Char) (text : List UInt8) (signature : List Char) :
    List Char :=
  header ++ '.' :: (Base64.encodeUrl text ++ '.' :: signature)

section Tokens

variable {decoders : Decoders} {clock : SystemClock} {header signature : List Char}
  {text : List UInt8} {exp : Nat}

end Tokens

/-! ## A parser of one document -/

def bytesOf (text : String) : List UInt8 :=
  text.toList.map fun c => UInt8.ofNat c.toNat

def nanoseconds : SystemClock :=
  ⟨10 ^ 9, by decide⟩

end JwtParser

end ScorbitSdk
