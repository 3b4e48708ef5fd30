namespace RfBoard

structure Metrics where
  ok : UInt64 := 0
  failed : UInt64 := 0
  skipped : UInt64 := 0
  domainFaults : UInt64 := 0
  lastMicros : UInt64 := 0
  maxMicros : UInt64 := 0
deriving DecidableEq, Repr

namespace Metrics

def recordTime (m : Metrics) (micros : Nat) : Metrics :=
  let t := UInt64.ofNat (min micros 18446744073709551615)
  { m with lastMicros := t, maxMicros := max m.maxMicros t }

def failureRate (m : Metrics) : Float :=
  let total := m.ok + m.failed
  if total = 0 then 0 else m.failed.toFloat / total.toFloat * 100

def isHealthy (m : Metrics) : Bool := m.failureRate < 10

def text (m : Metrics) : String :=
  s!"cycles ok={m.ok} failed={m.failed} skipped={m.skipped} | domain faults={m.domainFaults} | " ++
    s!"cycle last={m.lastMicros}us max={m.maxMicros}us"

end Metrics

end RfBoard
