import RfBoard.Request

/-!
Register transports. Bulk reads are made of 32-bit reads, one word after the other.
-/

namespace RfBoard

abbrev AccessM (σ : Type) := EStateM TransportError σ

class Transport (σ : Type) where
  readWord : Width → UInt32 → AccessM σ UInt32
  writeWord : Width → UInt32 → UInt32 → AccessM σ Unit

def AccessM.perform {α σ : Type} (f : AccessM σ α) (s : σ) : Except TransportError α × σ :=
  match f s with
  | .ok a s => (.ok a, s)
  | .error e s => (.error e, s)

namespace Transport

variable {σ : Type} [Transport σ]

def read (width : Width) (offset : UInt32) : AccessM σ UInt32 := readWord width offset

def write (width : Width) (offset value : UInt32) : AccessM σ Unit := fun s =>
  if value ≤ width.maxValue then writeWord width offset value s else .error (.tooWide value width) s

def wordAddress? (offset : UInt32) (i : Nat) : Option UInt32 :=
  if offset.toNat + 4 * i < 4294967296 then some (UInt32.ofNat (offset.toNat + 4 * i)) else none

structure Filled (σ : Type) where
  outcome : Except TransportError Unit
  buffer : Bytes
  bus : σ

def Filled.result : Filled σ → (Except TransportError Unit × Bytes) × σ
  | ⟨outcome, buffer, s⟩ => ((outcome, buffer), s)

def readWords (offset : UInt32) : (n i : Nat) → Bytes → σ → Filled σ
  | 0, _, buffer, s => ⟨.ok (), buffer, s⟩
  | n + 1, i, buffer, s =>
    match wordAddress? offset i with
    | none => ⟨.error (.addressOverflow offset i), buffer, s⟩
    | some address =>
      match readWord .u32 address s with
      | .error e s => ⟨.error e, buffer, s⟩
      | .ok word s =>
        readWords offset n (i + 1) (buffer.overwrite (4 * i) (LittleEndian.encode 4 word.toNat)) s

theorem size_readWords (offset : UInt32) (n i : Nat) (buffer : Bytes) (s : σ) :
    (readWords offset n i buffer s).buffer.size = buffer.size := by
  induction n generalizing i buffer s with
  | zero => rfl
  | succ n ih =>
    rw [readWords]
    split
    · rfl
    · split
      · rfl
      · rw [ih, Bytes.size_overwrite]

def readBulk (offset : UInt32) (buffer : Bytes) (s : σ) : Filled σ :=
  match checkBulkLength buffer.size with
  | .error e => ⟨.error (.request e), buffer, s⟩
  | .ok _ => readWords offset (buffer.size / 4) 0 buffer s

theorem size_readBulk (offset : UInt32) (buffer : Bytes) (s : σ) :
    (readBulk offset buffer s).buffer.size = buffer.size := by
  rw [readBulk]
  split
  · rfl
  · exact size_readWords ..

def readBulkVec (offset : UInt32) (length : Nat) : AccessM σ Bytes := fun s =>
  match readBulk offset (Array.replicate length 0) s with
  | ⟨.ok _, buffer, s⟩ => .ok buffer s
  | ⟨.error e, _, s⟩ => .error e s

end Transport

end RfBoard
