import RfBoard.Fault
import RfBoard.Telemetry.Frame

namespace RfBoard

inductive Notice where
  | published (frame : Frame)
  | failed (e : StationError)

structure FrameQueue where
  capacity : Nat
  frames : List Frame := []
  dropped : UInt64 := 0
  connected : Bool := true

namespace FrameQueue

def offer (q : FrameQueue) (frame : Frame) : FrameQueue :=
  if q.connected && q.frames.length < q.capacity then { q with frames := q.frames ++ [frame] }
  else { q with dropped := q.dropped + 1 }

def receive (q : FrameQueue) : Option Frame × FrameQueue :=
  match q.frames with
  | [] => (none, q)
  | frame :: frames => (some frame, { q with frames })

def disconnect (q : FrameQueue) : FrameQueue := { q with frames := [], connected := false }

end FrameQueue

inductive Listener where
  | queue (q : FrameQueue)
  | journal (notices : List Notice)
  | silent

def Listener.hear : Listener → Notice → Listener
  | queue q, .published frame => queue (q.offer frame)
  | queue q, .failed _ => queue q
  | journal notices, notice => journal (notices ++ [notice])
  | silent, _ => silent

structure Listeners where
  all : Array Listener := #[]
  attached : List Nat := []

namespace Listeners

def attach (l : Listeners) (listener : Listener) : Listeners :=
  { all := l.all.push listener, attached := l.attached ++ [l.all.size] }

def clear (l : Listeners) : Listeners := { l with attached := [] }

def notify (l : Listeners) (notice : Notice) : Listeners :=
  { l with all := l.attached.foldl (fun all i => all.modify i (·.hear notice)) l.all }

def queue? (l : Listeners) (i : Nat) : Option FrameQueue :=
  match l.all[i]? with
  | some (.queue q) => some q
  | _ => none

def setQueue (l : Listeners) (i : Nat) (q : FrameQueue) : Listeners :=
  { l with all := l.all.setIfInBounds i (.queue q) }

end Listeners

end RfBoard
