namespace RfBoard

inductive Width where
  | u8
  | u16
  | u32
deriving DecidableEq, Repr

namespace Width

def bytes : Width → Nat
  | u8 => 1
  | u16 => 2
  | u32 => 4

def bits (w : Width) : Nat := 8 * w.bytes

def maxValue : Width → UInt32
  | u8 => 0xFF
  | u16 => 0xFFFF
  | u32 => 0xFFFFFFFF

def name : Width → String
  | u8 => "U8"
  | u16 => "U16"
  | u32 => "U32"

def ofBits? : Nat → Option Width
  | 8 => some u8
  | 16 => some u16
  | 32 => some u32
  | _ => none

def cut (w : Width) (v : UInt32) : UInt32 := v &&& w.maxValue

end Width

namespace LittleEndian

def encode : Nat → Nat → List UInt8
  | 0, _ => []
  | n + 1, v => UInt8.ofNat v :: encode n (v / 256)

def decode : List UInt8 → Nat
  | [] => 0
  | b :: bs => b.toNat + 256 * decode bs

@[simp] theorem length_encode (n v : Nat) : (encode n v).length = n := by
  induction n generalizing v with
  | zero => rfl
  | succ n ih => simp [encode, ih]

theorem encode_decode (bs : List UInt8) : encode bs.length (decode bs) = bs := by
  induction bs with
  | nil => rfl
  | cons b bs ih =>
    have hb := b.toNat_lt
    have hd : (b.toNat + 256 * decode bs) / 256 = decode bs := by omega
    simp only [List.length_cons, encode, decode, hd, ih]
    congr 1
    apply UInt8.toNat_inj.mp
    simp only [UInt8.toNat_ofNat']
    omega

end LittleEndian

abbrev Bytes := Array UInt8

namespace Bytes

def overwrite (buffer : Bytes) (start : Nat) : List UInt8 → Bytes
  | [] => buffer
  | b :: bs => overwrite (buffer.setIfInBounds start b) (start + 1) bs

@[simp] theorem size_overwrite (buffer : Bytes) (start : Nat) (bs : List UInt8) :
    (buffer.overwrite start bs).size = buffer.size := by
  induction bs generalizing buffer start with
  | nil => rfl
  | cons b bs ih => simp [overwrite, ih]

def slice (buffer : Bytes) (start length : Nat) : Bytes := buffer.extract start (start + length)

end Bytes

end RfBoard
