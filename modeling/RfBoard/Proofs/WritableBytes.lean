import RfBoard.Proofs.CacheCoherence
import RfBoard.Proofs.Publication

/-!
Which bytes of the window a station can change.
-/

namespace RfBoard

namespace RegisterMap

def Writable (m : RegisterMap) (k : Nat) : Prop :=
  ∃ r ∈ m, r.isWritable = true ∧ r.offset.toNat ≤ k ∧ k < r.offset.toNat + r.width.bytes

lemma standard_writable_layout : ∀ r ∈ standard, r.isWritable = true →
    r.width = .u32 ∧ (r.offset.toNat + 4 ≤ 280 ∨ r.offset.toNat = 508) := by decide

lemma standard_writable_words : ∀ i < 70, ∃ r ∈ standard,
    r.isWritable = true ∧ r.width = .u32 ∧ r.offset.toNat = 4 * i := by decide +kernel

lemma standard_find : ∀ r ∈ standard, standard.find r.name = some r := by decide +kernel

lemma standard_writable_iff {k : Nat} : standard.Writable k ↔ k < 280 ∨ 508 ≤ k ∧ k < 512 := by
  constructor
  · rintro ⟨r, hr, hw, hl, hu⟩
    obtain ⟨hb, ho⟩ := standard_writable_layout r hr hw
    rw [hb, Width.bytes] at hu
    omega
  · rintro (hk | hk)
    · obtain ⟨r, hr, hw, hb, ho⟩ := standard_writable_words (k / 4) (by omega)
      rw [Writable]
      refine ⟨r, hr, hw, by omega, ?_⟩
      rw [hb, Width.bytes]
      omega
    · exact ⟨.settingInt "state_wr_reg" 508, by decide, rfl, hk.1, hk.2⟩

end RegisterMap

lemma Station.Names.of_standard {setup : Setup} {r : Register} (hm : setup.registers = .standard)
    (hr : r ∈ RegisterMap.standard) : Names setup r.name r where
  notProbe := (RegisterMap.standard_notTelemetry r hr).1
  found := by rw [hm, RegisterMap.standard_find r hr]

namespace Window

variable {w w' w'' : Window} {width : Width} {offset v : UInt32} {P : Nat → Prop}

def SameOutside (P : Nat → Prop) (w w' : Window) : Prop := ∀ k, ¬ P k → w'.bytes[k]? = w.bytes[k]?

lemma SameOutside.refl (w : Window) : w.SameOutside P w := fun _ _ => rfl

lemma sameOutside_of_eq (h : w' = w) : w.SameOutside P w' := by
  rw [h]
  exact .refl w

lemma SameOutside.trans (h : w.SameOutside P w') (h' : w'.SameOutside P w'') : w.SameOutside P w'' :=
  fun k hk => (h' k hk).trans (h k hk)

lemma sameOutside_written (w : Window) (h : ∀ k, offset.toNat ≤ k → k < offset.toNat + width.bytes → P k) :
    w.SameOutside P (w.written width offset v) := by
  intro k hk
  rw [written, Bytes.getElem?_overwrite, LittleEndian.length_encode, if_neg]
  rintro ⟨hl, hu, _⟩
  exact hk (h k hl hu)

end Window

namespace Station

open Window

variable {setup : Setup} {plan : Plan} {cal : Calibration} {name : String} {v : ParamValue} {s : Station SimBoard}
  {bus bus' : SimBoard} {r : Register} {raw : UInt32} {P : Nat → Prop}

lemma readParameter_window (setup : Setup) (name : String) (s : Station SimBoard) :
    (perform (readParameter setup name) s).2.bus.window = s.bus.window := by
  have hx := readParameter_exit setup name s
  rw [perform]
  generalize readParameter setup name s = res at hx
  cases hx with
  | probeIndex _ => rfl
  | probed _ _ => rfl
  | unknown _ _ _ => rfl
  | failed _ _ he => exact SimBoard.readWord_error he
  | undefined _ _ hr _ =>
    obtain ⟨_, _, _, rfl⟩ := SimBoard.readWord_ok hr
    rfl
  | read _ _ hr _ =>
    obtain ⟨_, _, _, rfl⟩ := SimBoard.readWord_ok hr
    rfl

lemma readAll_window (setup : Setup) (s : Station SimBoard) : (readAll setup s).2.bus.window = s.bus.window :=
  readAll_preserves (P := fun t => t.bus.window = s.bus.window)
    (fun name t ht => (readParameter_window setup name t).trans ht) rfl

lemma Targets.sameOutside (ht : Targets setup name r) (hp : ∀ k, setup.registers.Writable k → P k)
    (h : Transport.write r.width r.offset raw bus = .ok () bus') : bus.window.SameOutside P bus'.window := by
  obtain ⟨_, _, _, rfl⟩ := SimBoard.write_ok h
  refine sameOutside_written _ fun k hl hu => hp k ?_
  exact ⟨r, List.mem_of_find?_eq_some ht.found, ht.writable, hl, hu⟩

lemma writeParameter_sameOutside (hp : ∀ k, setup.registers.Writable k → P k) (name : String) (v : ParamValue)
    (s : Station SimBoard) : s.bus.window.SameOutside P (perform (writeParameter setup name v) s).2.bus.window :=
  writeParameter_preserves (P := fun bus => s.bus.window.SameOutside P bus.window)
    (fun ht hw h => h.trans (ht.sameOutside hp hw))
    (fun _ he h => h.trans (sameOutside_of_eq (SimBoard.write_error he))) v (.refl _)

lemma sameOutside_handshaken (hp : ∀ k, 508 ≤ k → k < 512 → P k) (plan : Plan) (w : Window) :
    w.SameOutside P (w.handshaken plan) := by
  rw [handshaken]
  split
  · exact sameOutside_written w hp
  · exact .refl w

lemma acquire_window (plan : Plan) (cal : Calibration) (s : Station SimBoard) :
    (perform (acquire plan cal) s).2.bus.window = s.bus.window ∨
      (perform (acquire plan cal) s).2.bus.window = s.bus.window.handshaken plan := by
  have hb : ∀ bus : SimBoard, (Transport.readBulk plan.waveformOffset s.buffers.bytes bus).bus.window = bus.window :=
    SimBoard.readBulk_window plan.waveformOffset s.buffers.bytes
  have hx := acquire_exit plan cal s
  rw [perform]
  generalize acquire plan cal s = res at hx
  cases hx with
  | unread _ he => exact .inl (SimBoard.readWord_error he)
  | notReady _ hr =>
    obtain ⟨_, _, _, rfl⟩ := SimBoard.readWord_ok hr
    exact .inl rfl
  | uncleared _ hr _ he =>
    obtain ⟨_, _, _, rfl⟩ := SimBoard.readWord_ok hr
    exact .inl ((SimBoard.writeWord_error he).trans rfl)
  | unfetched hc _ => exact .inr ((hb _).trans hc.window)
  | published hc _ _ => exact .inr ((hb _).trans hc.window)

lemma acquire_sameOutside (hp : ∀ k, 508 ≤ k → k < 512 → P k) (plan : Plan) (cal : Calibration)
    (s : Station SimBoard) : s.bus.window.SameOutside P (perform (acquire plan cal) s).2.bus.window := by
  obtain hw | hw := acquire_window plan cal s <;> rw [hw]
  · exact .refl _
  · exact sameOutside_handshaken hp plan _

lemma acquire_window_of_unasked (hh : plan.handshake = false) (cal : Calibration) (s : Station SimBoard) :
    (perform (acquire plan cal) s).2.bus.window = s.bus.window := by
  obtain hw | hw := acquire_window plan cal s
  · exact hw
  · rwa [handshaken, hh, if_neg Bool.false_ne_true] at hw

end Station

namespace Operation

open Window

variable {setup : Setup} {P : Nat → Prop}

def IsOwn : Operation → Prop
  | poke _ _ => False
  | loadWaveform _ => False
  | _ => True

def IsRead : Operation → Prop
  | cycle plan => plan.handshake = false
  | access (.read _) => True
  | access .readAll => True
  | _ => False

lemma IsRead.window_eq {o : Operation} (ho : o.IsRead) (setup : Setup) (s : Station SimBoard) :
    (o.apply setup s).2.bus.window = s.bus.window := by
  cases o with
  | cycle plan => exact Station.acquire_window_of_unasked ho setup.calibration s
  | access a =>
    cases a with
    | read name => exact Station.readParameter_window setup name s
    | write _ _ => exact ho.elim
    | readAll => exact Station.readAll_window setup s
  | setProbeIndex _ => exact ho.elim
  | setOffline _ => exact ho.elim
  | failNext _ => exact ho.elim
  | poke _ _ => exact ho.elim
  | loadWaveform _ => exact ho.elim
  | keepReplaced => exact ho.elim

lemma apply_sameOutside (hm : ∀ k, setup.registers.Writable k → P k) (hh : ∀ k, 508 ≤ k → k < 512 → P k)
    {o : Operation} (ho : o.IsOwn) (s : Station SimBoard) :
    s.bus.window.SameOutside P (o.apply setup s).2.bus.window := by
  cases o with
  | cycle plan => exact Station.acquire_sameOutside hh plan setup.calibration s
  | access a =>
    cases a with
    | read name => exact sameOutside_of_eq (Station.readParameter_window setup name s)
    | write name v => exact Station.writeParameter_sameOutside hm name v s
    | readAll => exact sameOutside_of_eq (Station.readAll_window setup s)
  | setProbeIndex _ => exact .refl _
  | setOffline _ => exact .refl _
  | failNext _ => exact .refl _
  | poke _ _ => exact ho.elim
  | loadWaveform _ => exact ho.elim
  | keepReplaced => exact .refl _

end Operation

lemma history_sameOutside {setup : Setup} {P : Nat → Prop} (hm : ∀ k, setup.registers.Writable k → P k)
    (hh : ∀ k, 508 ≤ k → k < 512 → P k) {operations : List Operation} (ho : ∀ o ∈ operations, o.IsOwn)
    {s : Station SimBoard} {e : Event} (he : e ∈ history setup operations s) :
    s.bus.window.SameOutside P e.after.bus.window := by
  induction operations generalizing s with
  | nil => cases he
  | cons o os ih =>
    have hs := Operation.apply_sameOutside hm hh (ho o List.mem_cons_self) s
    rw [history, List.mem_cons] at he
    rcases he with rfl | he
    · exact hs
    · exact hs.trans (ih (fun o' ho' => ho o' (List.mem_cons_of_mem o ho')) he)

namespace Station

inductive Refusal (setup : Setup) (name : String) : StationError → Prop
  | unknown : name ≠ DerivedChannel.probeIndexParameter →
      (∀ c : DerivedChannel, name ≠ c.name ∧ name ≠ c.probeName) →
      (∀ r ∈ setup.registers, name ≠ r.name) → Refusal setup name (.unknownParameter name)
  | readOnly {r : Register} : r ∈ setup.registers → name = r.name → r.isWritable = false →
      Refusal setup name (.readOnly name)
  | derived (c : DerivedChannel) : name = c.name ∨ name = c.probeName → Refusal setup name (.readOnly name)

section Refusal

variable {σ : Type} [Transport σ] {setup : Setup} {name : String} {e : StationError}

lemma ofName?_eq_none (h : ∀ c : DerivedChannel, name ≠ c.name ∧ name ≠ c.probeName) :
    DerivedChannel.ofName? name = none := by
  rw [DerivedChannel.ofName?, List.find?_eq_none]
  intro c _
  simpa only [Bool.or_eq_true, beq_iff_eq, not_or, ne_comm] using h c

lemma ofName?_isSome {c : DerivedChannel} (h : name = c.name ∨ name = c.probeName) :
    (DerivedChannel.ofName? name).isSome = true := by
  rw [DerivedChannel.ofName?, List.find?_isSome]
  refine ⟨c, by cases c <;> decide, ?_⟩
  rw [Bool.or_eq_true, beq_iff_eq, beq_iff_eq]
  exact h.imp Eq.symm Eq.symm

lemma channel_ne_probeIndexParameter {c : DerivedChannel} (h : name = c.name ∨ name = c.probeName) :
    name ≠ DerivedChannel.probeIndexParameter := by
  rcases h with rfl | rfl <;> cases c <;> decide

lemma Refusal.writeParameter_eq (hr : setup.registers = .standard) (h : Refusal setup name e) (v : ParamValue)
    (s : Station σ) : writeParameter setup name v s = .error e s := by
  cases h with
  | unknown hp hc hn =>
    have hf : setup.registers.find name = none := by
      rw [RegisterMap.find, List.find?_eq_none]
      intro r hm
      simpa only [beq_iff_eq] using (hn r hm).symm
    rw [writeParameter, if_neg hp, ofName?_eq_none hc]
    simp only [register, hf]
    rfl
  | @readOnly r hm hn hw =>
    subst hn
    rw [hr] at hm
    have hf := RegisterMap.standard_find r hm
    rw [writeParameter, if_neg (RegisterMap.standard_notTelemetry r hm).1]
    by_cases hc : (DerivedChannel.ofName? r.name).isSome = true
    · rw [if_pos hc]
      rfl
    · rw [if_neg hc]
      simp only [register, hr, hf, pure_bind, hw]
      rfl
  | derived c hc =>
    rw [writeParameter, if_neg (channel_ne_probeIndexParameter hc), if_pos (ofName?_isSome hc)]
    rfl

end Refusal

end Station

open Station

/-- Whatever a station with the standard registers does, only bytes of registers that may be written change.
A write to anything else ends before the transport is asked, and reads change nothing of the window. -/
theorem writable_bytes_of_history (setup : Setup) (operations : List Operation) (s : Station SimBoard)
    (hr : setup.registers = .standard) (ho : ∀ o ∈ operations, o.IsOwn) :
    (∀ e ∈ history setup operations s, ∀ k, ¬ (k < 280 ∨ 508 ≤ k ∧ k < 512) →
      e.after.bus.window.bytes[k]? = s.bus.window.bytes[k]?) ∧
    (∀ k, setup.registers.Writable k ↔ k < 280 ∨ 508 ≤ k ∧ k < 512) ∧
    (∀ name e, Refusal setup name e → ∀ (σ : Type) [Transport σ] (v : ParamValue) (t : Station σ),
      writeParameter setup name v t = .error e t) ∧
    ∀ e ∈ history setup operations s, e.operation.IsRead → e.after.bus.window = e.before.bus.window := by
  have hm : ∀ k, setup.registers.Writable k ↔ k < 280 ∨ 508 ≤ k ∧ k < 512 := by
    intro k
    rw [hr]
    exact RegisterMap.standard_writable_iff
  refine ⟨?_, hm, ?_, ?_⟩
  · intro e he
    exact history_sameOutside (fun k => (hm k).mp) (fun k hl hu => .inr ⟨hl, hu⟩) ho he
  · intro name e h σ _ v t
    exact h.writeParameter_eq hr v t
  · intro e he hread
    have ha := apply_of_mem_history he
    have hw := hread.window_eq setup e.before
    rwa [ha] at hw

theorem writable_bytes_pulse : ∃ e ∈ history {} [.access (.write Register.manualClear (.int 1)),
      .access (.write "rd_reg_state" (.int 1))] (ofSize 588),
    e.after.bus.window.log = #[⟨236, .u32, 1⟩, ⟨236, .u32, 0⟩] ∧
      e.after.bus.window.bytes[512]? = (ofSize 588).bus.window.bytes[512]? ∧
      writeParameter {} "rd_reg_state" (.int 1) e.after = .error (.readOnly "rd_reg_state") e.after := by
  have ho : ∀ o ∈ [Operation.access (.write Register.manualClear (.int 1)), .access (.write "rd_reg_state" (.int 1))],
      o.IsOwn := by simp [Operation.IsOwn]
  have hs : Refusal {} "rd_reg_state" (.readOnly "rd_reg_state") :=
    .readOnly (r := .stateInt "rd_reg_state" 508) (by decide) rfl rfl
  obtain ⟨hframe, _, hrefused, _⟩ := writable_bytes_of_history {} _ (ofSize 588) rfl ho
  refine ⟨_, List.mem_cons_self, by decide +kernel, hframe _ List.mem_cons_self 512 (by omega), ?_⟩
  exact hrefused _ _ hs SimBoard (.int 1) _

end RfBoard
