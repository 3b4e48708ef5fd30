import RfBoard.Word

namespace RfBoard

inductive Kind where
  | int
  | real
deriving DecidableEq, Repr

def Kind.name : Kind → String
  | int => "Int"
  | real => "Float"

inductive Access where
  | readWrite
  | readOnly
deriving DecidableEq, Repr

def Access.name : Access → String
  | readWrite => "ReadWrite"
  | readOnly => "ReadOnly"

structure Register where
  name : String
  offset : UInt32
  width : Width
  kind : Kind
  access : Access
deriving DecidableEq, Repr

namespace Register

def isWritable (r : Register) : Bool := r.access == .readWrite

def settingInt (name : String) (offset : UInt32) : Register := ⟨name, offset, .u32, .int, .readWrite⟩

def settingReal (name : String) (offset : UInt32) : Register := ⟨name, offset, .u32, .real, .readWrite⟩

def stateInt (name : String) (offset : UInt32) : Register := ⟨name, offset, .u32, .int, .readOnly⟩

def stateReal (name : String) (offset : UInt32) : Register := ⟨name, offset, .u32, .real, .readOnly⟩

def manualClear : String := "manual_Clear"

/-- How long the pulse lasts, in milliseconds. -/
def manualClearHold : Nat := 500

end Register

abbrev RegisterMap := List Register

namespace RegisterMap

def find (m : RegisterMap) (name : String) : Option Register := m.find? fun r => r.name == name

def resolve (m : RegisterMap) (name : String) : Option UInt32 := (m.find name).map (·.offset)

end RegisterMap

end RfBoard
