import RfBoard.Fault

/-!
The two request layouts: 12 bytes with a field per width, and a byte range.
-/

namespace RfBoard

structure ValueRequest where
  offset : UInt32
  value8 : UInt8 := 0
  value16 : UInt16 := 0
  value32 : UInt32 := 0
deriving DecidableEq, Repr

namespace ValueRequest

def size : Nat := 12

def value (r : ValueRequest) : Width → UInt32
  | .u8 => r.value8.toUInt32
  | .u16 => r.value16.toUInt32
  | .u32 => r.value32

def setValue (r : ValueRequest) (w : Width) (v : UInt32) : ValueRequest :=
  match w with
  | .u8 => { r with value8 := v.toUInt8 }
  | .u16 => { r with value16 := v.toUInt16 }
  | .u32 => { r with value32 := v }

def read (offset : UInt32) : ValueRequest := { offset }

def write (w : Width) (offset value : UInt32) : ValueRequest := (read offset).setValue w value

def encode (r : ValueRequest) : Vector UInt8 12 :=
  #v[r.offset.toUInt8, (r.offset >>> 8).toUInt8, (r.offset >>> 16).toUInt8, (r.offset >>> 24).toUInt8,
    r.value8, 0, r.value16.toUInt8, (r.value16 >>> 8).toUInt8,
    r.value32.toUInt8, (r.value32 >>> 8).toUInt8, (r.value32 >>> 16).toUInt8, (r.value32 >>> 24).toUInt8]

def word16 (b₀ b₁ : UInt8) : UInt16 := b₀.toUInt16 ||| b₁.toUInt16 <<< 8

def word32 (b₀ b₁ b₂ b₃ : UInt8) : UInt32 :=
  b₀.toUInt32 ||| b₁.toUInt32 <<< 8 ||| b₂.toUInt32 <<< 16 ||| b₃.toUInt32 <<< 24

def decode (b : Vector UInt8 12) : ValueRequest where
  offset := word32 b[0] b[1] b[2] b[3]
  value8 := b[4]
  value16 := word16 b[6] b[7]
  value32 := word32 b[8] b[9] b[10] b[11]

def ofBytes (bytes : Bytes) : Except RequestError ValueRequest :=
  if h : bytes.size = 12 then .ok (decode ⟨bytes, h⟩) else .error (.invalidLength size bytes.size)

end ValueRequest

def checkBulkLength (length : Int) : Except RequestError Unit :=
  if length < 0 ∨ length % 4 ≠ 0 then .error (.invalidBulkLength length) else .ok ()

structure WaveformRequest where
  offset : UInt32
  length : Nat
  aligned : length % 4 = 0 := by decide
  bounded : length < 2147483648 := by decide
deriving Repr

namespace WaveformRequest

def ofLength (offset : UInt32) (length : Int32) : Except RequestError WaveformRequest :=
  if h : length.toInt < 0 ∨ length.toInt % 4 ≠ 0 then .error (.invalidBulkLength length.toInt)
  else .ok ⟨offset, length.toInt.toNat, by omega, by have := length.toInt_lt; omega⟩

def words (r : WaveformRequest) : Nat := r.length / 4

def checkBuffer (r : WaveformRequest) (size : Nat) : Except RequestError Unit :=
  if size = r.length then .ok () else .error (.invalidLength r.length size)

end WaveformRequest

end RfBoard
