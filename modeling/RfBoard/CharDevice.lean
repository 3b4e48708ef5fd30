import RfBoard.Files
import RfBoard.Transport

namespace RfBoard

structure CharDevice where
  path : String
deriving Repr

namespace CharDevice

def ofOpened (path : String) (opened : Except FileError Unit) : Except TransportError CharDevice :=
  match opened with
  | .ok _ => .ok ⟨path⟩
  | .error e => .error (.device (.cannotOpen path e))

def openPath (host : Node) (path : String) : Except TransportError CharDevice :=
  ofOpened path (Files.checkOpen host path)

def refusal (command : Command) (offset : UInt32) : TransportError := .device (.notTheBoard command offset)

instance : Transport CharDevice where
  readWord width offset device := .error (refusal width.readCommand offset) device
  writeWord width offset _ device := .error (refusal width.writeCommand offset) device

def readWaveform (r : WaveformRequest) (buffer : Bytes) (device : CharDevice) : Transport.Filled CharDevice :=
  match r.checkBuffer buffer.size with
  | .error e => ⟨.error (.request e), buffer, device⟩
  | .ok _ => ⟨.error (refusal .readWaveform r.offset), buffer, device⟩

end CharDevice

end RfBoard
