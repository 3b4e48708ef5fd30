import RfBoard.CharDevice
import RfBoard.SimBoard

namespace RfBoard

inductive Link where
  | simulated (board : SimBoard)
  | device (device : CharDevice)

namespace Link

def lift {α σ : Type} (f : AccessM σ α) (link : σ → Link) (s : σ) : EStateM.Result TransportError Link α :=
  match f s with
  | .ok a s => .ok a (link s)
  | .error e s => .error e (link s)

instance : Transport Link where
  readWord width offset
    | simulated board => lift (Transport.readWord width offset) simulated board
    | device d => lift (Transport.readWord width offset) device d
  writeWord width offset value
    | simulated board => lift (Transport.writeWord width offset value) simulated board
    | device d => lift (Transport.writeWord width offset value) device d

def changeBoard (f : SimBoard → SimBoard) : Link → Link
  | simulated board => simulated (f board)
  | device d => device d

end Link

end RfBoard
