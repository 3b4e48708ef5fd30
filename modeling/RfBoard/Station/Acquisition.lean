import RfBoard.Station.Basic

/-!
Acquisition cycles. `iterate` is one round: a cycle, its accounting, and rest.
-/

namespace RfBoard

inductive CycleOutcome where
  | published (cycle : UInt64) (faults : UInt32)
  | notReady
deriving DecidableEq, Repr

namespace Station

variable {σ : Type} [Transport σ]

/-- The word that tells whether waveforms are ready; zero says that they are not. -/
def readyOffset : UInt32 := 508

def handshake (plan : Plan) : StationM σ Bool := do
  if plan.handshake then
    let ready ← access (Transport.readWord .u32 readyOffset)
    if ready = 0 then return false
    access (Transport.writeWord .u32 readyOffset 0)
  return true

def fetchBytes (offset : UInt32) : StationM σ Unit :=
  fun ⟨bus, cache, store, listeners, metrics, ⟨bytes, raw, spare, size⟩, trail⟩ =>
    match Transport.readBulk offset bytes bus, Transport.size_readBulk offset bytes bus with
    | ⟨.ok _, bytes, bus⟩, h => .ok () ⟨bus, cache, store, listeners, metrics, ⟨bytes, raw, spare, h.trans size⟩, trail⟩
    | ⟨.error e, bytes, bus⟩, h =>
      .error (.transport e) ⟨bus, cache, store, listeners, metrics, ⟨bytes, raw, spare, h.trans size⟩, trail⟩

def decodeBytes : StationM σ Unit :=
  fun ⟨bus, cache, store, listeners, metrics, ⟨bytes, raw, spare, size⟩, trail⟩ =>
    match raw.refill bytes with
    | .ok raw => .ok () ⟨bus, cache, store, listeners, metrics, ⟨bytes, raw, spare, size⟩, trail⟩
    | .error e => .error (.request e) ⟨bus, cache, store, listeners, metrics, ⟨bytes, raw, spare, size⟩, trail⟩

def deriveFrame (cal : Calibration) : StationM σ Unit :=
  modify fun ⟨bus, cache, store, listeners, metrics, ⟨bytes, raw, spare, size⟩, trail⟩ =>
    let next := { raw.derive cal spare with cycle := store.frame.cycle + 1 }
    ⟨bus, cache, store, listeners, metrics, ⟨bytes, raw, next, size⟩, trail⟩

def publishSpare : StationM σ CycleOutcome :=
  fun ⟨bus, cache, store, listeners, metrics, ⟨bytes, raw, frame, size⟩, trail⟩ =>
    let (store, previous) := store.publish frame
    .ok (.published frame.cycle frame.totalFaults)
      ⟨bus, cache, store, listeners.notify (.published frame), metrics, ⟨bytes, raw, previous, size⟩, trail⟩

def acquire (plan : Plan) (cal : Calibration) : StationM σ CycleOutcome := do
  enter .fetching
  if !(← handshake plan) then return .notReady
  fetchBytes plan.waveformOffset
  decodeBytes
  enter .converting
  deriveFrame cal
  enter .publishing
  publishSpare

def account : EStateM.Result StationError (Station σ) CycleOutcome → Except StationError CycleOutcome × Station σ
  | .ok (.published cycle faults) s =>
    let m := s.metrics
    (.ok (.published cycle faults),
      { s with metrics := { m with ok := m.ok + 1, domainFaults := m.domainFaults + faults.toUInt64 } })
  | .ok .notReady s => (.ok .notReady, { s with metrics := { s.metrics with skipped := s.metrics.skipped + 1 } })
  | .error e s =>
    (.error e, { s with
      metrics := { s.metrics with failed := s.metrics.failed + 1 }
      listeners := s.listeners.notify (.failed e) })

def iterate (plan : Plan) (cal : Calibration) (s : Station σ) : Except StationError CycleOutcome × Station σ :=
  let (outcome, s) := account (acquire plan cal s)
  (outcome, { s with trail := [] })

end Station

end RfBoard
