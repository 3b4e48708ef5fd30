import RfBoard.Transport
import RfBoard.Window

/-!
A simulated board: a window behind a switch that makes accesses fail.
-/

namespace RfBoard

structure FaultSwitch where
  offline : Bool := false
  pending : Nat := 0
  operations : UInt64 := 0
deriving Repr

namespace FaultSwitch

/-- Counts an access, and tells whether it fails. Being offline uses up no refusal. -/
def access (f : FaultSwitch) : FaultSwitch × Option DeviceError :=
  let f := { f with operations := f.operations + 1 }
  if f.offline then (f, some .boardOffline)
  else match f.pending with
    | 0 => (f, none)
    | n + 1 => ({ f with pending := n }, some .injected)

end FaultSwitch

structure SimBoard where
  window : Window
  faults : FaultSwitch := {}

namespace SimBoard

def windowSize : Nat := 0x60000

def ofSize (size : Nat) : SimBoard := { window := Window.ofSize size }

def request (code : UInt32) (argument : Window.Argument) : AccessM SimBoard Window.Argument := fun ⟨window, faults⟩ =>
  match faults.access with
  | (faults, some e) => .error (.device e) ⟨window, faults⟩
  | (faults, none) =>
    match Window.serve code argument window with
    | .ok a window => .ok a ⟨window, faults⟩
    | .error e window => .error e ⟨window, faults⟩

def answer (width : Width) : Window.Argument → UInt32
  | .value raw => (ValueRequest.decode raw).value width
  | .waveform _ _ => 0

instance : Transport SimBoard where
  readWord width offset board :=
    match request width.readCommand.code (.value (ValueRequest.read offset).encode) board with
    | .ok a board => .ok (answer width a) board
    | .error e board => .error e board
  writeWord width offset value board :=
    match request width.writeCommand.code (.value (ValueRequest.write width offset value).encode) board with
    | .ok _ board => .ok () board
    | .error e board => .error e board

def readWaveform (r : WaveformRequest) (buffer : Bytes) (board : SimBoard) : Transport.Filled SimBoard :=
  match request Command.readWaveform.code (.waveform r buffer) board with
  | .ok (.waveform _ bytes) board => ⟨.ok (), bytes, board⟩
  | .ok (.value _) board => ⟨.ok (), buffer, board⟩
  | .error e board => ⟨.error e, buffer, board⟩

/-- Puts bytes into the window, past the fault switch and the log; outside the window nothing happens. -/
def load (board : SimBoard) (offset : UInt32) (data : List UInt8) : SimBoard :=
  match board with
  | ⟨window, faults⟩ =>
    match Window.load offset data window with
    | .ok _ window | .error _ window => ⟨window, faults⟩

def poke (board : SimBoard) (offset value : UInt32) : SimBoard :=
  board.load offset (LittleEndian.encode 4 value.toNat)

def peek (board : SimBoard) (offset : UInt32) : UInt32 :=
  match board.window.read .u32 offset with
  | .ok v => v
  | .error _ => 0

def loadWaveform (board : SimBoard) (w : RawWaveform) : SimBoard :=
  board.load Waveform.offset w.toBytes.toList

def setOffline (board : SimBoard) (on : Bool) : SimBoard :=
  match board with
  | ⟨window, faults⟩ => ⟨window, { faults with offline := on }⟩

def failNext (board : SimBoard) (count : Nat) : SimBoard :=
  match board with
  | ⟨window, faults⟩ => ⟨window, { faults with pending := count }⟩

end SimBoard

end RfBoard
