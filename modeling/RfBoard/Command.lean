import RfBoard.Word

/-!
The commands of the board. A request code packs, from the top, the transfer direction, the size of the
argument pointer, the letter of the board and the number of the command.
-/

namespace RfBoard

inductive Command where
  | readU8
  | writeU8
  | readU16
  | writeU16
  | readU32
  | writeU32
  | readWaveform
deriving DecidableEq, Repr

namespace Command

def all : List Command := [readU8, writeU8, readU16, writeU16, readU32, writeU32, readWaveform]

def number : Command → UInt8
  | readU8 => 97
  | writeU8 => 98
  | readU16 => 99
  | writeU16 => 100
  | readU32 => 101
  | writeU32 => 102
  | readWaveform => 103

def ofNumber? (n : UInt8) : Option Command := all.find? fun c => c.number == n

def isWrite : Command → Bool
  | writeU8 | writeU16 | writeU32 => true
  | _ => false

def name : Command → String
  | readU8 => "ReadU8"
  | writeU8 => "WriteU8"
  | readU16 => "ReadU16"
  | writeU16 => "WriteU16"
  | readU32 => "ReadU32"
  | writeU32 => "WriteU32"
  | readWaveform => "ReadWaveform"

def width? : Command → Option Width
  | readU8 | writeU8 => some .u8
  | readU16 | writeU16 => some .u16
  | readU32 | writeU32 => some .u32
  | readWaveform => none

def boardLetter : UInt8 := 97

def argumentSize : UInt32 := 8

/-- A transfer direction seen from the caller: 1 gives data, 2 receives it. -/
def direction (c : Command) : UInt32 := if c.isWrite then 1 else 2

def pack (direction size : UInt32) (letter number : UInt8) : UInt32 :=
  direction <<< 30 ||| size <<< 16 ||| letter.toUInt32 <<< 8 ||| number.toUInt32

def code (c : Command) : UInt32 := pack c.direction argumentSize boardLetter c.number

def letterOf (code : UInt32) : UInt8 := (code >>> 8).toUInt8

def numberOf (code : UInt32) : UInt8 := code.toUInt8

def ofCode? (code : UInt32) : Option Command :=
  if letterOf code = boardLetter then
    (ofNumber? (numberOf code)).filter fun c => c.code == code
  else none

theorem ofCode?_code (c : Command) : ofCode? c.code = some c := by cases c <;> decide

theorem code_of_ofCode? {code : UInt32} {c : Command} (h : ofCode? code = some c) : c.code = code := by
  unfold ofCode? at h
  split at h
  · obtain ⟨_, hc⟩ := Option.filter_eq_some_iff.mp h
    simpa using hc
  · cases h

end Command

namespace Width

def readCommand : Width → Command
  | u8 => .readU8
  | u16 => .readU16
  | u32 => .readU32

def writeCommand : Width → Command
  | u8 => .writeU8
  | u16 => .writeU16
  | u32 => .writeU32

end Width

end RfBoard
