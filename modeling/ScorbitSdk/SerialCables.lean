import ScorbitSdk.BoundedMemory
import Mathlib.Data.List.Basic

/-!
# Replies of a probe

A reply is a header, the data and a checksum, which is the complement of the sum
of the bytes before it.  The cable reads each part in as many pieces as it comes
in, and gives a part up where nothing has come for too long.
-/

namespace ScorbitSdk

open BoundedMemory

/-- A serial port, and what its next reads find there: an empty piece where
nothing has come yet, or the read fails. -/
structure SerialPort where
  isOpen : Bool
  arrivals : List (List Byte)
deriving DecidableEq

namespace SerialPort

/-- `read`, of at most so many bytes.  Nothing comes any more once the arrivals
are used up. -/
def read (port : SerialPort) (count : Nat) : List Byte × SerialPort :=
  match port.arrivals with
  | [] => ([], port)
  | piece :: later =>
      if piece.length ≤ count then (piece, { port with arrivals := later })
      else (piece.take count, { port with arrivals := piece.drop count :: later })

theorem length_read_le (port : SerialPort) (count : Nat) :
    (port.read count).1.length ≤ count := by
  unfold read
  split
  · simp
  · split
    · assumption
    · rw [List.length_take]
      exact Nat.min_le_left ..

theorem isOpen_read (port : SerialPort) (count : Nat) :
    (port.read count).2.isOpen = port.isOpen := by
  unfold read
  split
  · rfl
  · split <;> rfl

/-- The bytes that have come are not lost. -/
theorem flatten_read (port : SerialPort) (count : Nat) :
    (port.read count).1 ++ (port.read count).2.arrivals.flatten =
      port.arrivals.flatten := by
  unfold read
  split
  · next none => simp [none]
  · next piece later some =>
    split
    · simp [some]
    · rw [some, List.flatten_cons, List.flatten_cons, ← List.append_assoc,
        List.take_append_drop]

end SerialPort

namespace SerialCable

/-! ## The code -/

/-- The loop of `_DataRead`; `time` is what has been waited since the last byte. -/
def dataReadFrom (timeoutMs : Nat) (buffer : List Byte) (count time : Nat)
    (port : SerialPort) : List Byte × SerialPort :=
  if count = 0 then (buffer, port)
  else if (port.read count).1 = [] then
    if timeoutMs ≤ time + 10 then ([], (port.read count).2)
    else dataReadFrom timeoutMs buffer count (time + 10) (port.read count).2
  else
    dataReadFrom timeoutMs (buffer ++ (port.read count).1)
      (count - (port.read count).1.length) 0 (port.read count).2
termination_by (count, timeoutMs - time)
decreasing_by
  · exact Prod.Lex.right _ (by omega)
  · next more some =>
    have positive := List.length_pos_iff.mpr some
    exact Prod.Lex.left _ _ (by omega)

/-- `_DataRead`; nothing where the port is closed or the time is up. -/
def dataRead (count : Nat) (port : SerialPort) : List Byte × SerialPort :=
  if port.isOpen then dataReadFrom 2000 [] count 0 port else ([], port)

/-- The sum of bytes, in sixteen bits. -/
def sumOf (data : List Byte) : BitVec 16 :=
  data.foldl (fun sum byte => sum + byte.setWidth 16) 0

def addCrc (data : List Byte) : List Byte :=
  let crc := ~~~(sumOf data)
  data ++ [(crc &&& 0xff).setWidth 8, (crc >>> 8).setWidth 8]

/-- `WaitForReply`: whether a reply has come, and its data. -/
def waitForReply (data : List Byte) (count : Nat) (port : SerialPort) :
    Bool × List Byte × SerialPort :=
  let (header, port) := dataRead 2 port
  match header with
  | [first, second] =>
      if first ≠ 0x04 ∨ second ≠ 0x46 then (false, data, port)
      else
        let (data, port) := if count ≠ 0 then dataRead count port else ([], port)
        let (crc, port) := dataRead 2 port
        match crc with
        | [low, high] =>
            let sum := ~~~(sumOf (header ++ data))
            (sum.setWidth 8 = low && (sum >>> 8).setWidth 8 = high, data, port)
        | _ => (false, data, port)
  | _ => (false, data, port)

/-- `while (read(hSerial, &c, 1) > 0)`, which takes everything up to the first
read that finds nothing. -/
def flush (port : SerialPort) : SerialPort :=
  if port.isOpen then
    { port with arrivals := (port.arrivals.dropWhile (· ≠ [])).tail }
  else port

/-- `CommandRead`, with whether the lock has been taken and whether the command
has been written. -/
def commandRead (isLocked isWritten : Bool) (count : Nat) (port : SerialPort) :
    List Byte × SerialPort :=
  if !isLocked then ([], port)
  else
    let port := flush port
    if !isWritten then ([], port)
    else
      let (replied, data, port) := waitForReply [] count port
      if !replied then ([], port) else (data, port)

/-! ## What one part is read as -/

/-- A part is given up, or read to its end. -/
theorem dataReadFrom_length (timeoutMs : Nat) (buffer : List Byte)
    (count time : Nat) (port : SerialPort) :
    (dataReadFrom timeoutMs buffer count time port).1 = [] ∨
      (dataReadFrom timeoutMs buffer count time port).1.length =
        buffer.length + count := by
  fun_induction dataReadFrom timeoutMs buffer count time port with
  | case1 buffer time port => exact .inr rfl
  | case2 => exact .inl rfl
  | case3 buffer count time port some none inTime ih => exact ih
  | case4 buffer count time port some found ih =>
      have atMost := port.length_read_le count
      rwa [List.length_append, Nat.add_assoc, Nat.add_sub_of_le atMost] at ih

theorem dataRead_length (count : Nat) (port : SerialPort) :
    (dataRead count port).1 = [] ∨ (dataRead count port).1.length = count := by
  unfold dataRead
  split
  · have length := dataReadFrom_length 2000 [] count 0 port
    rwa [List.length_nil, Nat.zero_add] at length
  · exact .inl rfl

/-- Where as many reads in a row as make a timeout find nothing, nothing comes
behind them. -/
def Prompt (timeoutMs : Nat) (arrivals : List (List Byte)) : Prop :=
  ∀ before pause after, arrivals = before ++ (pause ++ after) →
    pause.flatten = [] → timeoutMs ≤ 10 * pause.length → after.flatten = []

theorem Prompt.suffix {timeoutMs : Nat} {before arrivals : List (List Byte)}
    (prompt : Prompt timeoutMs (before ++ arrivals)) : Prompt timeoutMs arrivals := by
  intro earlier pause after split silent long
  refine prompt (before ++ earlier) pause after ?_ silent long
  rw [split, List.append_assoc]

/-- A piece that is cut leaves the pauses as they are. -/
theorem Prompt.cut {timeoutMs : Nat} {piece rest : List Byte}
    {later : List (List Byte)} (positive : 0 < timeoutMs) (nonempty : rest ≠ [])
    (prompt : Prompt timeoutMs (piece :: later)) :
    Prompt timeoutMs (rest :: later) := by
  intro before pause after split silent long
  cases before with
  | nil =>
      cases pause with
      | nil =>
          rw [List.length_nil] at long
          omega
      | cons first pause =>
          have head := (List.cons.inj split).1
          rw [List.flatten_cons, ← head] at silent
          exact absurd (List.append_eq_nil_iff.mp silent).1 nonempty
  | cons first before =>
      have tail : later = before ++ (pause ++ after) := (List.cons.inj split).2
      refine prompt (piece :: before) pause after ?_ silent long
      rw [tail, List.cons_append]

theorem prompt_read {timeoutMs count : Nat} {port : SerialPort}
    (positive : 0 < timeoutMs) (prompt : Prompt timeoutMs port.arrivals)
    (found : (port.read count).1 ≠ []) :
    Prompt timeoutMs (port.read count).2.arrivals := by
  unfold SerialPort.read at found ⊢
  split at found
  · exact absurd rfl found
  · next piece later some =>
    rw [some] at prompt
    split at found
    · next whole =>
      rw [if_pos whole]
      rw [← List.singleton_append] at prompt
      exact prompt.suffix
    · next long =>
      rw [if_neg long]
      refine prompt.cut positive ?_
      rw [Ne, List.drop_eq_nil_iff]
      exact long

/-- A read that finds nothing has an empty piece before it, if any at all. -/
theorem arrivals_of_read_eq_nil {port : SerialPort} {count : Nat}
    (positive : count ≠ 0) (none : (port.read count).1 = []) :
    port.arrivals = [] ∨ port.arrivals = [] :: (port.read count).2.arrivals := by
  unfold SerialPort.read at none ⊢
  split at none
  · next nothing => exact .inl nothing
  · next piece later some =>
    split at none
    · next whole =>
      dsimp only at none
      subst none
      exact .inr (by rw [if_pos whole, some])
    · next long =>
      have length := congrArg List.length none
      rw [List.length_take, List.length_nil] at length
      omega

/-- On a line without timeouts a part is read just as it was sent. -/
theorem dataReadFrom_prompt {timeoutMs : Nat} (positive : 0 < timeoutMs)
    (buffer : List Byte) (count time : Nat) (port : SerialPort) (waited : Nat)
    (timeEq : time = 10 * waited)
    (prompt : Prompt timeoutMs (List.replicate waited [] ++ port.arrivals))
    {bytes rest : List Byte} (sent : port.arrivals.flatten = bytes ++ rest)
    (length : bytes.length = count) :
    ∃ left : SerialPort,
      dataReadFrom timeoutMs buffer count time port = (buffer ++ bytes, left) ∧
      left.isOpen = port.isOpen ∧ left.arrivals.flatten = rest ∧
        Prompt timeoutMs left.arrivals := by
  fun_induction dataReadFrom timeoutMs buffer count time port
    generalizing waited bytes with
  | case1 buffer time port =>
      obtain rfl := List.eq_nil_of_length_eq_zero length
      exact ⟨port, by rw [List.append_nil], rfl, by simpa using sent, prompt.suffix⟩
  | case2 buffer count time port more none late =>
      rcases arrivals_of_read_eq_nil more none with nothing | pause
      · rw [nothing, List.flatten_nil] at sent
        have noBytes := (List.append_eq_nil_iff.mp sent.symm).1
        rw [noBytes] at length
        exact absurd length.symm more
      · -- With this read the pause is a timeout, and nothing would come behind it.
        have silent : (List.replicate waited ([] : List Byte) ++ [[]]).flatten = [] := by
          simp
        have nothingMore := prompt [] (List.replicate waited [] ++ [[]])
          (port.read count).2.arrivals (by rw [pause]; simp) silent
          (by rw [List.length_append, List.length_replicate, List.length_singleton]
              omega)
        rw [pause, List.flatten_cons, nothingMore] at sent
        have noBytes := (List.append_eq_nil_iff.mp sent.symm).1
        rw [noBytes] at length
        exact absurd length.symm more
  | case3 buffer count time port more none inTime ih =>
      have opened := port.isOpen_read count
      have same := port.flatten_read count
      rw [none, List.nil_append, sent] at same
      have longer : Prompt timeoutMs (List.replicate (waited + 1) [] ++
          (port.read count).2.arrivals) := by
        rcases arrivals_of_read_eq_nil more none with nothing | pause
        · rw [nothing, List.flatten_nil] at sent
          have noBytes := (List.append_eq_nil_iff.mp sent.symm).1
          rw [noBytes] at length
          exact absurd length.symm more
        · rw [pause] at prompt
          rwa [List.replicate_succ', List.append_assoc, List.singleton_append]
      obtain ⟨left, read, leftOpen, leftRest, leftPrompt⟩ :=
        ih (waited + 1) (by omega) longer same length
      exact ⟨left, read, leftOpen.trans opened, leftRest, leftPrompt⟩
  | case4 buffer count time port more found ih =>
      have atMost := port.length_read_le count
      have opened := port.isOpen_read count
      have same := port.flatten_read count
      rw [sent] at same
      -- What has been read is the beginning of what is wanted.
      obtain ⟨wanted, split⟩ : (port.read count).1 <+: bytes :=
        List.prefix_of_prefix_length_le ⟨_, same⟩ ⟨rest, rfl⟩ (by omega)
      have later : (port.read count).2.arrivals.flatten = wanted ++ rest := by
        rw [← split, List.append_assoc] at same
        exact List.append_cancel_left same
      have wantedLength : wanted.length = count - (port.read count).1.length := by
        have lengths := congrArg List.length split
        rw [List.length_append] at lengths
        omega
      obtain ⟨left, read, leftOpen, leftRest, leftPrompt⟩ := ih 0 rfl
        (by simpa using prompt_read positive prompt.suffix found) later wantedLength
      refine ⟨left, ?_, leftOpen.trans opened, leftRest, leftPrompt⟩
      rw [read, List.append_assoc, split]

/-- The port is open, and these bytes come without timeouts, in any pieces. -/
structure Feeds (port : SerialPort) (bytes : List Byte) : Prop where
  isOpen : port.isOpen = true
  flatten_eq : port.arrivals.flatten = bytes
  prompt : Prompt 2000 port.arrivals

theorem Feeds.dataRead {port : SerialPort} {bytes rest : List Byte}
    (feeds : Feeds port (bytes ++ rest)) :
    ∃ left, dataRead bytes.length port = (bytes, left) ∧ Feeds left rest := by
  obtain ⟨left, read, opened, flatten, prompt⟩ :=
    dataReadFrom_prompt (show 0 < 2000 by decide) [] bytes.length 0 port 0 rfl
      (by simpa using feeds.prompt) feeds.flatten_eq rfl
  refine ⟨left, ?_, opened.trans feeds.isOpen, flatten, prompt⟩
  rw [SerialCable.dataRead, if_pos feeds.isOpen, read, List.nil_append]

/-! ## The checksum -/

/-- The two bytes that `AddCrc` appends. -/
def checksum (data : List Byte) : List Byte :=
  let crc := ~~~(sumOf data)
  [crc.setWidth 8, (crc >>> 8).setWidth 8]

theorem addCrc_eq (data : List Byte) : addCrc data = data ++ checksum data := by
  have ones : (0xff : BitVec 16).setWidth 8 = BitVec.allOnes 8 := by decide
  simp only [addCrc, checksum, BitVec.setWidth_and, ones, BitVec.and_allOnes]

theorem sumOf_cons (byte : Byte) (data : List Byte) :
    sumOf (byte :: data) = byte.setWidth 16 + sumOf data := by
  have shift : ∀ (data : List Byte) (start : BitVec 16),
      data.foldl (fun sum byte => sum + byte.setWidth 16) start =
        start + sumOf data := by
    intro data
    induction data with
    | nil => simp [sumOf]
    | cons byte data ih =>
        intro start
        simp only [sumOf, List.foldl_cons] at ih ⊢
        rw [ih, ih (0 + byte.setWidth 16)]
        simp [BitVec.add_assoc]
  rw [sumOf, List.foldl_cons, shift]
  simp

/-- The checksum has all of the sum. -/
theorem sumOf_of_checksum {first second : List Byte}
    (same : checksum first = checksum second) : sumOf first = sumOf second := by
  simp only [checksum, List.cons.injEq, and_true] at same
  have whole : ∀ sum : BitVec (8 + 8), (sum.setWidth 8).setWidth (8 + 8) |||
      ((sum >>> 8).setWidth 8).setWidth (8 + 8) <<< 8 = sum := halves_or
  have complements := whole (~~~(sumOf first))
  rw [same.1, same.2, whole] at complements
  exact BitVec.not_inj.mp complements.symm

/-- A changed byte changes the sum: it is too small to go all the way round. -/
theorem sumOf_set_ne {data : List Byte} {i : Nat} {old byte : Byte}
    (present : data[i]? = some old) (changed : byte ≠ old) :
    sumOf (data.set i byte) ≠ sumOf data := by
  induction data generalizing i with
  | nil => simp at present
  | cons first data ih =>
      cases i with
      | zero =>
          obtain rfl : first = old := by simpa using present
          rw [List.set_cons_zero, sumOf_cons, sumOf_cons, Ne, BitVec.add_left_inj]
          intro same
          apply changed
          have narrow := congrArg (BitVec.setWidth 8) same
          simpa using narrow
      | succ i =>
          have later := ih (i := i) (by simpa using present)
          rwa [List.set_cons_succ, sumOf_cons, sumOf_cons, Ne, BitVec.add_right_inj]

/-! ## Replies -/

/-- The frame in which a probe sends data. -/
def frame (data : List Byte) : List Byte :=
  addCrc ([0x04, 0x46] ++ data)

theorem frame_eq (data : List Byte) :
    frame data = [0x04, 0x46] ++ (data ++ checksum ([0x04, 0x46] ++ data)) := by
  rw [frame, addCrc_eq, List.append_assoc]

theorem dataRead_zero (port : SerialPort) : dataRead 0 port = ([], port) := by
  unfold dataRead dataReadFrom
  split <;> simp

/-- What comes is taken for a reply exactly where it is the frame of its data. -/
theorem Feeds.waitForReply {port : SerialPort} {header bytes crc : List Byte}
    (old : List Byte) (twoBefore : header.length = 2) (twoBehind : crc.length = 2)
    (feeds : Feeds port (header ++ (bytes ++ crc))) :
    let reply := SerialCable.waitForReply old bytes.length port
    (reply.1 = true ↔ header ++ (bytes ++ crc) = frame bytes) ∧
      (reply.1 = true → reply.2.1 = bytes) := by
  obtain ⟨afterHeader, readHeader, feeds⟩ := feeds.dataRead
  obtain ⟨afterData, readData, feeds⟩ := feeds.dataRead
  rw [← List.append_nil crc] at feeds
  obtain ⟨afterCrc, readCrc, -⟩ := feeds.dataRead
  rw [twoBefore] at readHeader
  rw [twoBehind] at readCrc
  obtain ⟨first, second, rfl⟩ := List.length_eq_two.mp twoBefore
  obtain ⟨low, high, rfl⟩ := List.length_eq_two.mp twoBehind
  have body : (if bytes.length ≠ 0 then
      SerialCable.dataRead bytes.length afterHeader else ([], afterHeader)) =
        (bytes, afterData) := by
    split
    · exact readData
    · next empty =>
      rw [← readData, not_not.mp empty, dataRead_zero]
  simp only [SerialCable.waitForReply, readHeader]
  split
  · next wrong =>
    refine ⟨⟨nofun, fun same => ?_⟩, nofun⟩
    simp only [frame_eq, List.cons_append, List.cons.injEq] at same
    rcases wrong with other | other
    · exact absurd same.1 other
    · exact absurd same.2.1 other
  · next right =>
    simp only [not_or, not_not] at right
    obtain ⟨rfl, rfl⟩ := right
    simp only [body, readCrc, frame_eq, List.cons_append, List.nil_append,
      List.append_cancel_left_eq, checksum, List.cons.injEq, and_true, true_and,
      Bool.and_eq_true, decide_eq_true_eq, implies_true]
    exact and_congr eq_comm eq_comm

/-- Of a frame that comes in any pieces the data are read. -/
theorem waitForReply_frame {port : SerialPort} {bytes : List Byte}
    (old : List Byte) (feeds : Feeds port (frame bytes)) :
    (waitForReply old bytes.length port).1 = true ∧
      (waitForReply old bytes.length port).2.1 = bytes := by
  rw [frame_eq] at feeds
  obtain ⟨accepted, data⟩ := feeds.waitForReply old rfl rfl
  have taken := accepted.mpr (frame_eq bytes).symm
  exact ⟨taken, data taken⟩

/-- A list with one element changed is another one. -/
theorem set_ne_self {bytes : List Byte} {i : Nat} {old byte : Byte}
    (present : bytes[i]? = some old) (changed : byte ≠ old) :
    bytes.set i byte ≠ bytes := by
  intro same
  obtain ⟨inside, -⟩ := List.getElem?_eq_some_iff.mp present
  have there := List.getElem?_set_self inside (a := byte)
  rw [same, present] at there
  exact changed (Option.some.inj there).symm

/-- No frame differs from another one of its length in one byte only. -/
theorem frame_set_ne {bytes other : List Byte}
    (sameLength : bytes.length = other.length) {i : Nat} {old byte : Byte}
    (present : (frame bytes)[i]? = some old) (changed : byte ≠ old) :
    (frame bytes).set i byte ≠ frame other := by
  intro same
  simp only [frame_eq, List.cons_append, List.nil_append] at same present
  match i with
  | 0 =>
      obtain rfl : 0x04 = old := by simpa using present
      exact changed (List.cons.inj same).1
  | 1 =>
      obtain rfl : 0x46 = old := by simpa using present
      exact changed (List.cons.inj (List.cons.inj same).2).1
  | i + 2 =>
      simp only [List.set_cons_succ, List.cons.injEq, true_and] at same
      simp only [List.getElem?_cons_succ] at present
      rcases Nat.lt_or_ge i bytes.length with inside | behind
      · -- The data are changed, and with them the sum.
        rw [List.set_append_left _ _ inside] at same
        rw [List.getElem?_append_left inside] at present
        obtain ⟨data, sums⟩ := List.append_inj same (by rw [List.length_set, sameLength])
        have equal := sumOf_of_checksum sums
        rw [← data, sumOf_cons, sumOf_cons, sumOf_cons, sumOf_cons,
          BitVec.add_right_inj, BitVec.add_right_inj] at equal
        exact sumOf_set_ne present changed equal.symm
      · -- The data are the same, and the checksum is not.
        rw [List.set_append_right _ _ behind] at same
        rw [List.getElem?_append_right behind] at present
        obtain ⟨data, sums⟩ := List.append_inj same sameLength
        rw [← data] at sums
        exact set_ne_self present changed sums

/-- A frame of which one byte has been changed is no reply. -/
theorem waitForReply_changed {port : SerialPort} {bytes : List Byte} {i : Nat}
    {old byte : Byte} (data : List Byte) (present : (frame bytes)[i]? = some old)
    (changed : byte ≠ old) (feeds : Feeds port ((frame bytes).set i byte)) :
    (waitForReply data bytes.length port).1 = false := by
  generalize sent : (frame bytes).set i byte = received at feeds
  have length : received.length = bytes.length + 4 := by
    rw [← sent, List.length_set, frame_eq]
    simp [checksum]
  -- The parts of what is received, as the cable cuts it.
  have parts : received = received.take 2 ++
      ((received.drop 2).take bytes.length ++
        (received.drop 2).drop bytes.length) := by
    rw [List.take_append_drop, List.take_append_drop]
  have middle : ((received.drop 2).take bytes.length).length = bytes.length := by
    rw [List.length_take, List.length_drop, length]
    omega
  rw [parts] at feeds
  have accepted := (feeds.waitForReply data
    (by rw [List.length_take, length]; omega)
    (by rw [List.length_drop, List.length_drop, length]; omega)).1
  rw [middle, ← parts] at accepted
  rw [← Bool.not_eq_true, accepted]
  intro same
  exact frame_set_ne middle.symm present changed (sent.trans same)

/-- A reply with data has as many bytes as were asked for, or none. -/
theorem waitForReply_length {port : SerialPort} (old : List Byte) {count : Nat}
    (positive : 0 < count) (replied : (waitForReply old count port).1 = true) :
    (waitForReply old count port).2.1 = [] ∨
      (waitForReply old count port).2.1.length = count := by
  revert replied
  simp only [waitForReply]
  split
  · split
    · exact nofun
    · rw [if_pos (Nat.ne_of_gt positive)]
      split
      · exact fun _ => dataRead_length count _
      · exact nofun
  · exact nofun

/-- Frames are read in whatever pieces they come, frames with a changed byte are
not, and no reply is short. -/
structure ChecksReplies (bytes : List Byte) : Prop where
  reads : ∀ (old : List Byte) (port : SerialPort), Feeds port (frame bytes) →
    (waitForReply old bytes.length port).1 = true ∧
      (waitForReply old bytes.length port).2.1 = bytes
  refuses : ∀ (old : List Byte) (port : SerialPort) (i : Nat) (sent byte : Byte),
    (frame bytes)[i]? = some sent → byte ≠ sent →
      Feeds port ((frame bytes).set i byte) →
        (waitForReply old bytes.length port).1 = false

/-- The replies of a probe, for data of every length and on every line. -/
theorem repliesChecked :
    (∀ bytes : List Byte, 1 ≤ bytes.length → bytes.length ≤ 65535 →
      ChecksReplies bytes) ∧
    ∀ (old : List Byte) (port : SerialPort) (count : Nat), 0 < count →
      (waitForReply old count port).1 = true →
        (waitForReply old count port).2.1 = [] ∨
          (waitForReply old count port).2.1.length = count := by
  refine ⟨fun bytes _ _ => ⟨?_, ?_⟩, ?_⟩
  · exact fun old _ feeds => waitForReply_frame old feeds
  · exact fun old _ _ _ _ present changed feeds =>
      waitForReply_changed old present changed feeds
  · exact fun old _ _ positive replied => waitForReply_length old positive replied

/-- Fewer pieces than make a timeout come without one. -/
theorem prompt_of_length {timeoutMs : Nat} {arrivals : List (List Byte)}
    (few : 10 * arrivals.length < timeoutMs) : Prompt timeoutMs arrivals := by
  intro before pause after split _ long
  have lengths := congrArg List.length split
  rw [List.length_append, List.length_append] at lengths
  omega

/-- The frame of one byte in three pieces, with a pause between. -/
theorem repliesChecked_threePieces :
    (waitForReply [] 1 ⟨true, [[0x04], [], [0x46, 0xAB], [0x0A, 0xFF]]⟩).1 = true ∧
      (waitForReply [] 1 ⟨true, [[0x04], [], [0x46, 0xAB], [0x0A, 0xFF]]⟩).2.1 =
        [0xAB] :=
  (repliesChecked.1 [0xAB] (by decide) (by decide)).reads [] _
    ⟨rfl, by decide, prompt_of_length (by decide)⟩

end SerialCable

end ScorbitSdk
