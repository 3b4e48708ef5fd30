import RfBoard.SimBoard
import RfBoard.Station.Acquisition

namespace RfBoard

structure ScriptedBoard where
  board : SimBoard
  failAfter : Option Nat := none
  ready : Option (List UInt32) := none
  running : Bool := true

namespace ScriptedBoard

def onBoard (f : SimBoard → SimBoard) : ScriptedBoard → ScriptedBoard
  | ⟨board, failAfter, ready, running⟩ => ⟨f board, failAfter, ready, running⟩

def prepareRead (offset : UInt32) : ScriptedBoard → ScriptedBoard
  | ⟨board, failAfter, ready, running⟩ =>
    if offset = Station.readyOffset then
      match ready with
      | none => ⟨board, failAfter, none, running⟩
      | some [] => ⟨board, failAfter, some [], false⟩
      | some (v :: vs) => ⟨board.poke offset v, failAfter, some vs, running⟩
    else ⟨board, failAfter, ready, running⟩

def attempt {α : Type} (f : AccessM SimBoard α) : AccessM ScriptedBoard α
  | ⟨board, some 0, ready, running⟩ => .error (.device .scripted) ⟨board, none, ready, running⟩
  | ⟨board, failAfter, ready, running⟩ =>
    match f board with
    | .ok a board => .ok a ⟨board, failAfter.map (· - 1), ready, running⟩
    | .error e board => .error e ⟨board, failAfter.map (· - 1), ready, running⟩

instance : Transport ScriptedBoard where
  readWord width offset s := attempt (Transport.readWord width offset) (prepareRead offset s)
  writeWord width offset value := attempt (Transport.writeWord width offset value)

def setFailAfter (count : Nat) : ScriptedBoard → ScriptedBoard
  | ⟨board, _, ready, running⟩ => ⟨board, some count, ready, running⟩

def start (ready : Option (List UInt32)) (running : Bool) : ScriptedBoard → ScriptedBoard
  | ⟨board, failAfter, _, _⟩ => ⟨board, failAfter, ready, running⟩

def stop : ScriptedBoard → ScriptedBoard
  | ⟨board, failAfter, ready, _⟩ => ⟨board, failAfter, ready, false⟩

end ScriptedBoard

end RfBoard
