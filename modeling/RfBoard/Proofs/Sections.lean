import RfBoard.Proofs.BulkRead
import RfBoard.Proofs.ParameterExit

namespace RfBoard

inductive BusAccess where
  | read (width : Width) (offset : UInt32)
  | write (width : Width) (offset value : UInt32)
deriving DecidableEq, Repr

namespace BusAccess

variable {σ : Type} [Transport σ]

def perform : BusAccess → σ → Bool × σ
  | read width offset, bus =>
    match Transport.readWord width offset bus with
    | .ok _ bus => (true, bus)
    | .error _ bus => (false, bus)
  | write width offset value, bus =>
    match Transport.writeWord width offset value bus with
    | .ok _ bus => (true, bus)
    | .error _ bus => (false, bus)

def performAll : List BusAccess → σ → σ
  | [], bus => bus
  | a :: as, bus => if (a.perform bus).1 then performAll as (a.perform bus).2 else (a.perform bus).2

lemma performAll_cons (a : BusAccess) (as : List BusAccess) (bus : σ) :
    performAll (a :: as) bus = performAll (if (a.perform bus).1 then as else []) (a.perform bus).2 := by
  rw [performAll]
  split <;> rfl

def checkedWrite (width : Width) (offset value : UInt32) : List BusAccess :=
  if value ≤ width.maxValue then [write width offset value] else []

def words (offset : UInt32) : (n i : Nat) → List BusAccess
  | 0, _ => []
  | n + 1, i =>
    match Transport.wordAddress? offset i with
    | none => []
    | some address => read .u32 address :: words offset n (i + 1)

def pulse (r : Register) : List BusAccess := [write r.width r.offset 1, write r.width r.offset 0]

lemma getElem?_words {offset : UInt32} {n i m : Nat} {a : BusAccess} (h : (words offset n i)[m]? = some a) :
    ∃ address, a = read .u32 address ∧ address.toNat = offset.toNat + 4 * (i + m) := by
  induction n generalizing i m with
  | zero => simp [words] at h
  | succ n ih =>
    rw [words] at h
    cases ha : Transport.wordAddress? offset i with
    | none => simp [ha] at h
    | some address =>
      simp only [ha] at h
      cases m with
      | zero => exact ⟨address, (Option.some.inj h).symm, Transport.toNat_wordAddress? ha⟩
      | succ m =>
        obtain ⟨address', he, ht⟩ := ih h
        exact ⟨address', he, by omega⟩

variable (bus : σ)

lemma performAll_read (width : Width) (offset : UInt32) :
    performAll [read width offset] bus = ((Transport.readWord width offset).perform bus).2 := by
  rw [performAll, perform, AccessM.perform]
  cases Transport.readWord width offset bus <;> rfl

lemma performAll_write (width : Width) (offset value : UInt32) :
    performAll [write width offset value] bus = ((Transport.writeWord width offset value).perform bus).2 := by
  rw [performAll, perform, AccessM.perform]
  cases Transport.writeWord width offset value bus <;> rfl

lemma performAll_checkedWrite (width : Width) (offset value : UInt32) :
    performAll (checkedWrite width offset value) bus = ((Transport.write width offset value).perform bus).2 := by
  rw [checkedWrite, AccessM.perform, Transport.write]
  split
  · exact performAll_write bus width offset value
  · rfl

lemma performAll_words (offset : UInt32) (n i : Nat) (buffer : Bytes) :
    performAll (words offset n i) bus = (Transport.readWords offset n i buffer bus).bus := by
  induction n generalizing i buffer bus with
  | zero => rfl
  | succ n ih =>
    rw [words, Transport.readWords]
    cases Transport.wordAddress? offset i with
    | none => rfl
    | some address =>
      cases hw : Transport.readWord .u32 address bus with
      | error e after => simp only [performAll, perform, hw, Bool.false_eq_true, if_false]
      | ok v after =>
        simp only [performAll, perform, hw, if_true]
        exact ih after (i + 1) _

lemma write_one (width : Width) (offset : UInt32) :
    Transport.write width offset 1 bus = Transport.writeWord width offset 1 bus :=
  if_pos width.one_le_maxValue

lemma write_zero (width : Width) (offset : UInt32) :
    Transport.write width offset 0 bus = Transport.writeWord width offset 0 bus :=
  if_pos UInt32.zero_le

end BusAccess

inductive Request where
  | read (offset : UInt32)
  | write (offset value : UInt32)
  | bulk (offset : UInt32) (length : Nat)
  | readParameter (setup : Setup) (name : String)
  | writeParameter (setup : Setup) (name : String) (v : ParamValue)

namespace Request

open BusAccess

def bulkAccesses (offset : UInt32) (length : Nat) : List BusAccess :=
  match checkBulkLength length with
  | .error _ => []
  | .ok _ => words offset (length / 4) 0

def readAccesses? (setup : Setup) (name : String) : Option (List BusAccess) :=
  if name = DerivedChannel.probeIndexParameter ∨ (Station.probedChannel? name).isSome then none
  else (setup.registers.find name).map fun r => [BusAccess.read r.width r.offset]

def writeAccesses? (setup : Setup) (name : String) (v : ParamValue) : Option (List BusAccess) :=
  if name = DerivedChannel.probeIndexParameter ∨ (DerivedChannel.ofName? name).isSome then none
  else (setup.registers.find name).bind fun r =>
    if !r.isWritable then none
    else if r.name = Register.manualClear ∧ v.toInt64 = 1 then some (pulse r)
    else
      match setup.conversions.inverse r.name v.toReal with
      | .error _ => none
      | .ok raw => some (checkedWrite r.width r.offset raw)

def accesses? : Request → Option (List BusAccess)
  | read offset => some [.read .u32 offset]
  | write offset value => some [.write .u32 offset value]
  | bulk offset length => some (bulkAccesses offset length)
  | readParameter setup name => readAccesses? setup name
  | writeParameter setup name v => writeAccesses? setup name v

variable {σ : Type} [Transport σ]

def alone : Request → σ → σ
  | read offset, bus => ((Transport.readWord .u32 offset).perform bus).2
  | write offset value, bus => ((Transport.writeWord .u32 offset value).perform bus).2
  | bulk offset length, bus => (Transport.readBulk offset (Array.replicate length 0) bus).bus
  | readParameter setup name, bus => (Station.perform (Station.readParameter setup name) { bus }).2.bus
  | writeParameter setup name v, bus => (Station.perform (Station.writeParameter setup name v) { bus }).2.bus

def served (r : Request) (bus : σ) : σ := r.accesses?.elim bus (performAll · bus)

lemma bus_readBulk (offset : UInt32) (buffer : Bytes) (bus : σ) :
    (Transport.readBulk offset buffer bus).bus = (bulk offset buffer.size).served bus := by
  rw [served, accesses?, Option.elim_some, Transport.readBulk, bulkAccesses]
  cases checkBulkLength buffer.size with
  | error e => rfl
  | ok u => exact (performAll_words bus offset _ _ buffer).symm

section Parameters

open Station

variable {setup : Setup} {name : String} {v : ParamValue} {r : Register}

lemma readAccesses?_of_names (hn : Names setup name r) (hc : probedChannel? name = none) :
    readAccesses? setup name = some [BusAccess.read r.width r.offset] := by
  rw [readAccesses?, hc, hn.found, if_neg]
  · rfl
  · simpa using hn.notProbe

lemma writeAccesses?_of_targets (ht : Targets setup name r) : writeAccesses? setup name v =
    if r.name = Register.manualClear ∧ v.toInt64 = 1 then some (pulse r)
    else
      match setup.conversions.inverse r.name v.toReal with
      | .error _ => none
      | .ok raw => some (checkedWrite r.width r.offset raw) := by
  have hn : ¬ (name = DerivedChannel.probeIndexParameter ∨ (DerivedChannel.ofName? name).isSome) := by
    simp [ht.notProbe, ht.notDerived]
  rw [writeAccesses?, if_neg hn, ht.found, Option.bind_some, ht.writable]
  rfl

lemma writeAccesses?_of_pulse (ht : Targets setup name r) (hi : IsPulse r v) :
    writeAccesses? setup name v = some (pulse r) := by
  rw [writeAccesses?_of_targets ht]
  exact if_pos hi

lemma writeAccesses?_of_plain {raw : UInt32} (ht : Targets setup name r) (hi : ¬ IsPulse r v)
    (hv : setup.conversions.inverse r.name v.toReal = .ok raw) :
    writeAccesses? setup name v = some (checkedWrite r.width r.offset raw) := by
  have hi' : ¬ (r.name = Register.manualClear ∧ v.toInt64 = 1) := hi
  rw [writeAccesses?_of_targets ht, if_neg hi', hv]

lemma bus_readParameter (s : Station σ) :
    (perform (Station.readParameter setup name) s).2.bus = (readParameter setup name).served s.bus := by
  rw [served, accesses?, Station.perform]
  have hx := readParameter_exit setup name s
  generalize Station.readParameter setup name s = res at hx
  have hread {r : Register} (hn : Names setup name r) (hc : probedChannel? name = none) :
      (readAccesses? setup name).elim s.bus (performAll · s.bus) =
        ((Transport.readWord r.width r.offset).perform s.bus).2 := by
    rw [readAccesses?_of_names hn hc]
    exact performAll_read s.bus r.width r.offset
  cases hx with
  | probeIndex hp => rw [readAccesses?, if_pos (.inl hp)]; rfl
  | probed _ hc => rw [readAccesses?, hc, if_pos (.inr rfl)]; rfl
  | unknown hp hc hf => rw [readAccesses?, hf, Option.map_none, ite_self]; rfl
  | failed hn hc hr => rw [hread hn hc, AccessM.perform, show Transport.readWord _ _ _ = _ from hr]
  | undefined hn hc hr _ => rw [hread hn hc, AccessM.perform, show Transport.readWord _ _ _ = _ from hr]
  | read hn hc hr _ => rw [hread hn hc, AccessM.perform, show Transport.readWord _ _ _ = _ from hr]

lemma bus_pulse {bus : σ} : performAll (pulse r) bus =
    match Transport.write r.width r.offset 1 bus with
    | .error _ raised => raised
    | .ok _ raised => ((Transport.write r.width r.offset 0).perform raised).2 := by
  rw [write_one, BusAccess.pulse, performAll]
  cases h₁ : Transport.writeWord r.width r.offset 1 bus with
  | error e raised => simp only [BusAccess.perform, h₁, Bool.false_eq_true, if_false]
  | ok u raised =>
    simp only [BusAccess.perform, h₁, if_true, performAll_write, AccessM.perform, write_zero]

lemma bus_writeParameter (s : Station σ) :
    (Station.perform (Station.writeParameter setup name v) s).2.bus = (writeParameter setup name v).served s.bus := by
  rw [served, accesses?, Station.perform]
  have hx := writeParameter_exit setup name v s
  generalize Station.writeParameter setup name v s = res at hx
  cases hx with
  | probeIndex hp => rw [writeAccesses?, if_pos (.inl hp)]; rfl
  | derived hp hc => rw [writeAccesses?, if_pos (.inr (Option.isSome_iff_ne_none.mpr hc))]; rfl
  | unknown hp hc hf => rw [writeAccesses?, hf, Option.bind_none, ite_self]; rfl
  | readOnly hn hc hw => rw [writeAccesses?, hn.found, Option.bind_some, hw, Bool.not_false, if_pos rfl, ite_self]; rfl
  | unraised ht hi h₁ => rw [writeAccesses?_of_pulse ht hi, Option.elim_some, bus_pulse, h₁]
  | unreleased ht hi h₁ h₀ =>
    rw [writeAccesses?_of_pulse ht hi, Option.elim_some, bus_pulse, h₁]
    simp only [AccessM.perform, h₀]
  | pulsed ht hi h₁ h₀ =>
    rw [writeAccesses?_of_pulse ht hi, Option.elim_some, bus_pulse, h₁]
    simp only [AccessM.perform, h₀]
  | refused ht hi hv =>
    have hi' : ¬ (_ = Register.manualClear ∧ v.toInt64 = 1) := hi
    rw [writeAccesses?_of_targets ht, if_neg hi', hv]
    rfl
  | failed ht hi hv hw =>
    rw [writeAccesses?_of_plain ht hi hv, Option.elim_some, performAll_checkedWrite, AccessM.perform, hw]
  | slipped ht hi hv hw _ =>
    rw [writeAccesses?_of_plain ht hi hv, Option.elim_some, performAll_checkedWrite, AccessM.perform, hw]
  | written ht hi hv hw _ =>
    rw [writeAccesses?_of_plain ht hi hv, Option.elim_some, performAll_checkedWrite, AccessM.perform, hw]

end Parameters

lemma alone_eq_served (r : Request) (bus : σ) : r.alone bus = r.served bus := by
  cases r with
  | read offset => exact (performAll_read bus .u32 offset).symm
  | write offset value => exact (performAll_write bus .u32 offset value).symm
  | bulk offset length =>
    rw [alone, bus_readBulk, Array.size_replicate]
  | readParameter setup name => exact bus_readParameter { bus }
  | writeParameter setup name v => exact bus_writeParameter { bus }

end Request

end RfBoard
