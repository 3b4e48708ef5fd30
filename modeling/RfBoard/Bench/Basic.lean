import RfBoard.Bench.Run
import RfBoard.Station.Parameters

namespace RfBoard

structure HeldFrame where
  publication : Nat
  frame : Frame

structure Bench where
  setup : Setup
  station : Station ScriptedBoard
  queues : Array Nat := #[]
  held : NameTable HeldFrame := []

namespace Bench

def ofSetup (setup : Setup) (size : Nat) (probeIndex : Int64) : Bench where
  setup
  station := { bus := { board := SimBoard.ofSize size }, store := { probeIndex } }

def board (b : Bench) : SimBoard := b.station.bus.board

def onStation {α : Type} (f : Station ScriptedBoard → α × Station ScriptedBoard) : Bench → α × Bench
  | ⟨setup, station, queues, held⟩ =>
    let (a, station) := f station
    (a, ⟨setup, station, queues, held⟩)

def changeBus (f : ScriptedBoard → ScriptedBoard) (b : Bench) : Bench :=
  (b.onStation (Station.onBus fun bus => ((), f bus))).2

def changeBoard (f : SimBoard → SimBoard) : Bench → Bench := changeBus (ScriptedBoard.onBoard f)

def perform {α : Type} (f : StationM ScriptedBoard α) : Bench → Except StationError α × Bench :=
  onStation (Station.perform f)

def access {α : Type} (f : AccessM ScriptedBoard α) : Bench → Except TransportError α × Bench :=
  onStation (Station.onBus f.perform)

def onBoard {α : Type} (f : SimBoard → α × SimBoard) : Bench → α × Bench :=
  onStation <| Station.onBus fun ⟨board, failAfter, ready, running⟩ =>
    let (a, board) := f board
    (a, ⟨board, failAfter, ready, running⟩)

def readBulk (offset : UInt32) (buffer : Bytes) : Bench → (Except TransportError Unit × Bytes) × Bench :=
  onStation (Station.onBus fun bus => (Transport.readBulk offset buffer bus).result)

def readWaveform (r : WaveformRequest) (buffer : Bytes) : Bench → (Except TransportError Unit × Bytes) × Bench :=
  onBoard fun board => (board.readWaveform r buffer).result

def writeMany (offset value : UInt32) : Nat → AccessM ScriptedBoard Unit
  | 0 => pure ()
  | n + 1 => do
    Transport.writeWord .u32 offset value
    writeMany offset (value + 1) n

def readAll (b : Bench) : List (String × Except StationError ParamValue) × Bench :=
  b.onStation (Station.readAll b.setup)

def acquire (plan : Plan) (b : Bench) : Except StationError CycleOutcome × Bench :=
  b.perform (Station.acquire plan b.setup.calibration)

def run (r : Run) (b : Bench) : List Notice × Bench := b.onStation (r.perform b.setup.calibration)

def resetMetrics (b : Bench) : Bench := { b with station := { b.station with metrics := {} } }

def setProbeIndex (b : Bench) (index : Int64) : Bench := (b.perform (Station.setProbeIndex index)).2

def publish (b : Bench) (frame : Frame) : Frame × Bench :=
  let (store, previous) := b.station.store.publish frame
  (previous, { b with station := { b.station with store } })

def hold (b : Bench) (name : String) : Bench :=
  { b with held := b.held.insert name ⟨b.station.store.publications, b.station.store.frame⟩ }

def isCurrent (b : Bench) (h : HeldFrame) : Bool := h.publication == b.station.store.publications

def release (b : Bench) (name : String) : Bool × Bench :=
  ((b.held.find name).isSome, { b with held := b.held.erase name })

def setListeners (b : Bench) (listeners : Listeners) : Bench :=
  { b with station := { b.station with listeners } }

def listeners (b : Bench) : Listeners := b.station.listeners

def addQueue (b : Bench) (capacity : Nat) : Nat × Bench :=
  (b.queues.size,
    { b.setListeners (b.listeners.attach (.queue { capacity })) with
      queues := b.queues.push b.listeners.all.size })

def addSilent (b : Bench) : Nat × Bench :=
  let listeners := b.listeners.attach .silent
  (listeners.attached.length, b.setListeners listeners)

def queue? (b : Bench) (number : Nat) : Option (Nat × FrameQueue) := do
  let listener ← b.queues[number]?
  let q ← b.listeners.queue? listener
  return (listener, q)

inductive Reception where
  | frame (f : Frame)
  | empty
  | closed

def receive (b : Bench) (number : Nat) : Reception × Bench :=
  match b.queue? number with
  | none => (.closed, b)
  | some (listener, q) =>
    if !q.connected then (.closed, b)
    else match q.receive with
      | (some frame, q) => (.frame frame, b.setListeners (b.listeners.setQueue listener q))
      | (none, _) => (.empty, b)

def dropReceiver (b : Bench) (number : Nat) : Bool × Bench :=
  match b.queue? number with
  | none => (false, b)
  | some (listener, q) => (q.connected, b.setListeners (b.listeners.setQueue listener q.disconnect))

def dropped (b : Bench) (number : Nat) : Nat := ((b.queue? number).map (·.2.dropped.toNat)).getD 0

def clearListeners (b : Bench) : Bench := b.setListeners b.listeners.clear

def notifyFailure (b : Bench) (e : StationError) : Bench := b.setListeners (b.listeners.notify (.failed e))

end Bench

end RfBoard
