import RfBoard.Waveform.Raw

/-!
The register window of a board: its bytes, and a log of the latest writes.
-/

namespace RfBoard

structure Write where
  offset : UInt32
  width : Width
  value : UInt32
deriving DecidableEq, Repr

structure Window where
  bytes : Bytes
  log : Array Write

namespace Window

def logCapacity : Nat := 4096

def ofSize (size : Nat) : Window := ⟨Array.replicate size 0, #[]⟩

def size (w : Window) : Nat := w.bytes.size

def fits (bytes : Bytes) (offset : UInt32) (length : Nat) : Bool := offset.toNat + length ≤ bytes.size

def remember (log : Array Write) (write : Write) : Array Write :=
  (if log.size < logCapacity then log else log.extract 1).push write

def readBytes (offset : UInt32) (length : Nat) (w : Window) : Except DeviceError Bytes :=
  if fits w.bytes offset length then .ok (w.bytes.slice offset.toNat length)
  else .error (.outsideWindow length offset)

def read (width : Width) (offset : UInt32) (w : Window) : Except DeviceError UInt32 :=
  (w.readBytes offset width.bytes).map fun b => UInt32.ofNat (LittleEndian.decode b.toList)

def load (offset : UInt32) (data : List UInt8) : EStateM DeviceError Window Unit := fun ⟨bytes, log⟩ =>
  if fits bytes offset data.length then .ok () ⟨bytes.overwrite offset.toNat data, log⟩
  else .error (.outsideWindow data.length offset) ⟨bytes, log⟩

def write (width : Width) (offset value : UInt32) : EStateM DeviceError Window Unit := fun ⟨bytes, log⟩ =>
  if fits bytes offset width.bytes then
    .ok () ⟨bytes.overwrite offset.toNat (LittleEndian.encode width.bytes value.toNat),
      remember log ⟨offset, width, value⟩⟩
  else .error (.outsideWindow width.bytes offset) ⟨bytes, log⟩

inductive Argument where
  | value (bytes : Vector UInt8 12)
  | waveform (request : WaveformRequest) (buffer : Bytes)

def readValue (width : Width) (r : ValueRequest) (w : Window) : EStateM.Result TransportError Window Argument :=
  match w.read width r.offset with
  | .ok v => .ok (.value (r.setValue width v).encode) w
  | .error e => .error (.device e) w

def writeValue (width : Width) (r : ValueRequest) (raw : Vector UInt8 12) (w : Window) :
    EStateM.Result TransportError Window Argument :=
  match write width r.offset (r.value width) w with
  | .ok _ w => .ok (.value raw) w
  | .error e w => .error (.device e) w

def readWaveform (r : WaveformRequest) (buffer : Bytes) (w : Window) :
    EStateM.Result TransportError Window Argument :=
  match r.checkBuffer buffer.size with
  | .error e => .error (.request e) w
  | .ok _ =>
    match w.readBytes r.offset r.length with
    | .ok bytes => .ok (.waveform r bytes) w
    | .error e => .error (.device e) w

/-- Answers a request by its code. The answer is the argument as the request leaves it. -/
def serve (code : UInt32) (argument : Argument) : EStateM TransportError Window Argument := fun w =>
  match Command.ofCode? code with
  | none => .error (.request (.unknownCommand code)) w
  | some command =>
    match command.width?, argument with
    | some width, .value raw =>
      if command.isWrite then writeValue width (.decode raw) raw w else readValue width (.decode raw) w
    | none, .waveform r buffer => readWaveform r buffer w
    | _, _ => .error (.device (.argumentMismatch command)) w

end Window

end RfBoard
