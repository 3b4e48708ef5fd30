import RfBoard.Bench.ScriptedBoard

/-!
A run of the acquisition on a scripted board. A published or a failed cycle is an event, and each event is
followed by the next action on the board.
-/

namespace RfBoard

structure Run where
  plan : Plan
  events : Nat := 1
  ready : Option (List UInt32) := none
  actions : List (ScriptedBoard → ScriptedBoard) := []
  stopped : Bool := false

namespace Run

def isEvent : Except StationError CycleOutcome → Bool
  | .ok .notReady => false
  | _ => true

/-- How many cycles a run can take: one per event, one per scripted word, and the last. -/
def cycleBound (r : Run) : Nat := max r.events 1 + (r.ready.getD []).length + 2

def onBoard (f : ScriptedBoard → ScriptedBoard) (s : Station ScriptedBoard) : Station ScriptedBoard :=
  (s.onBus fun bus => ((), f bus)).2

def cycles (plan : Plan) (cal : Calibration) :
    (fuel left : Nat) → List (ScriptedBoard → ScriptedBoard) → Station ScriptedBoard → Station ScriptedBoard
  | 0, _, _, s => s
  | fuel + 1, left, actions, s =>
    if s.bus.running then
      let (outcome, s) := Station.iterate plan cal s
      if isEvent outcome then
        let s := match actions with
          | [] => s
          | action :: _ => onBoard action s
        if left ≤ 1 then onBoard ScriptedBoard.stop s
        else cycles plan cal fuel (left - 1) actions.tail s
      else cycles plan cal fuel left actions s
    else s

def journal : Listener → List Notice
  | .journal notices => notices
  | _ => []

def perform (r : Run) (cal : Calibration) : Station ScriptedBoard → List Notice × Station ScriptedBoard
  | ⟨bus, cache, store, listeners, metrics, buffers, trail⟩ =>
    let number := listeners.all.size
    let s := cycles r.plan cal r.cycleBound (max r.events 1) r.actions
      ⟨bus.start r.ready (!r.stopped), cache, store, listeners.attach (.journal []), metrics, .empty, trail⟩
    match s with
    | ⟨bus, cache, store, listeners, metrics, _, trail⟩ =>
      ((listeners.all[number]?.map journal).getD [],
        ⟨bus.start none false, cache, store, listeners.clear, metrics, buffers, trail⟩)

end Run

end RfBoard
