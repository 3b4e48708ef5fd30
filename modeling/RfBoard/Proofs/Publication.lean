import RfBoard.Proofs.CycleExit
import RfBoard.Proofs.History
import RfBoard.Proofs.ReadyWord
import RfBoard.Proofs.WaveformRead

/-!
What a cycle on a simulated board does to the telemetry.
-/

namespace RfBoard

namespace Window

def handshaken (plan : Plan) (w : Window) : Window :=
  if plan.handshake then w.written .u32 Station.readyOffset 0 else w

end Window

namespace Station

variable {plan : Plan} {cal : Calibration} {s s' : Station SimBoard} {bus bus' : SimBoard}

lemma Cleared.window (h : Cleared plan bus bus') : bus'.window = bus.window.handshaken plan := by
  cases h with
  | unasked hh => rw [Window.handshaken, hh, if_neg Bool.false_ne_true]
  | cleared hh hr _ hw =>
    obtain ⟨_, _, _, rfl⟩ := SimBoard.readWord_ok hr
    obtain ⟨_, _, rfl⟩ := SimBoard.writeWord_ok hw
    rw [Window.handshaken, hh, if_pos rfl]
    rfl

/-- A publication: the stored frame is derived from the bytes of the window, into nothing. -/
structure Publishes (plan : Plan) (cal : Calibration) (before : Station SimBoard) (cycle : UInt64) (faults : UInt32)
    (after : Station SimBoard) : Prop where
  number : cycle = before.store.frame.cycle + 1
  stored : after.store.frame.cycle = cycle
  window : after.bus.window = before.bus.window.handshaken plan
  frame : ∃ raw, RawWaveform.ofBytes (after.bus.window.bytes.slice plan.waveformOffset.toNat 114688) = .ok raw ∧
    after.store.frame = { raw.derive cal .zero with cycle }
  total : faults.toNat = (after.store.frame.faults.toList.map UInt32.toNat).sum

lemma publishes_of_acquire {cycle : UInt64} {faults : UInt32}
    (h : acquire plan cal s = .ok (.published cycle faults) s') : Publishes plan cal s cycle faults s' := by
  have hx := acquire_exit plan cal s
  rw [h] at hx
  cases hx with
  | @published raw bus hc ho hr =>
    have hsize := s.buffers.size_bytes
    obtain ⟨_, hb⟩ := SimBoard.readBulk_ok (by omega) ho
    have hw := SimBoard.readBulk_window plan.waveformOffset s.buffers.bytes bus
    rw [hb, hsize, ← hw] at hr
    exact ⟨rfl, rfl, hw.trans hc.window, ⟨raw, hr, rfl⟩, raw.toNat_totalFaults_derive cal .zero⟩

lemma acquire_of_fits (plan : Plan) (cal : Calibration) {v : UInt32} (h : SimBoard.Holding v s.bus) (hh : plan.handshake = false)
    (hf : plan.waveformOffset.toNat + 114688 ≤ SimBoard.windowSize) :
    ∃ cycle faults s', acquire plan cal s = .ok (.published cycle faults) s' := by
  have hsize := s.buffers.size_bytes
  have hw : SimBoard.windowSize = 393216 := rfl
  have hfit : s.bus.window.Fits plan.waveformOffset s.buffers.bytes.size := by rwa [Window.Fits, h.size, hsize]
  have ho := SimBoard.readBulk_of_passes h.passes (by omega) hfit (by omega)
  obtain ⟨raw, _, ha⟩ := acquire_published cal (.unasked hh) ho
  exact ⟨_, _, _, ha⟩

lemma acquire_of_overrun (plan : Plan) (cal : Calibration) {v : UInt32} (h : SimBoard.Holding v s.bus)
    (hh : plan.handshake = false) (hf : SimBoard.windowSize < plan.waveformOffset.toNat + 114688) :
    ∃ e s', acquire plan cal s = .error e s' ∧ SimBoard.Holding v s'.bus ∧
      ∀ k, s'.buffers.bytes[k]? = if plan.waveformOffset.toNat + (4 * (k / 4) + 4) ≤ SimBoard.windowSize
        then s.bus.window.bytes[plan.waveformOffset.toNat + k]? else s.buffers.bytes[k]? := by
  have hsize := s.buffers.size_bytes
  have hw : SimBoard.windowSize = 393216 := rfl
  have hs : s.bus.window.bytes.size < 2 ^ 32 := by rw [h.size]; decide
  have hout : ¬ s.bus.window.Fits plan.waveformOffset s.buffers.bytes.size := by
    rw [Window.Fits, h.size, hsize]
    omega
  cases ho : (Transport.readBulk plan.waveformOffset s.buffers.bytes s.bus).outcome with
  | ok u => exact absurd (SimBoard.readBulk_ok (by omega) ho).1 hout
  | error e =>
    refine ⟨_, _, acquire_unfetched cal (.unasked hh) ho, h.readBulk plan.waveformOffset s.buffers.bytes, fun k => ?_⟩
    rw [← h.size]
    exact SimBoard.getElem?_readBulk h.passes hs (by omega) hout k

/-- The ready word was read, was not zero and was cleared, but the waveforms could not be read. -/
def ReadyLost (plan : Plan) (s : Station SimBoard) : Prop :=
  ∃ ready read cleared e, plan.handshake = true ∧
    Transport.readWord .u32 readyOffset s.bus = .ok ready read ∧ ready ≠ 0 ∧
    Transport.writeWord .u32 readyOffset 0 read = .ok () cleared ∧
    (Transport.readBulk plan.waveformOffset s.buffers.bytes cleared).outcome = .error e

lemma readyLost_of_passes (h : s.bus.faults.Passes) (hh : plan.handshake = true)
    (hf : s.bus.window.Fits readyOffset Width.u32.bytes) (hw : s.bus.window.word .u32 readyOffset ≠ 0)
    (hb : ¬ s.bus.window.Fits plan.waveformOffset 114688) : ReadyLost plan s := by
  have hread := SimBoard.readWord_of_passes h hf
  obtain ⟨cleared, hwrite, hs⟩ : ∃ cleared, Transport.writeWord .u32 readyOffset 0 s.bus.counted = .ok () cleared ∧
      cleared.window.bytes.size = s.bus.window.bytes.size :=
    ⟨_, SimBoard.writeWord_of_passes h.counted hf, Window.size_written ..⟩
  have hsize := s.buffers.size_bytes
  cases ho : (Transport.readBulk plan.waveformOffset s.buffers.bytes cleared).outcome with
  | error e => exact ⟨_, _, _, e, hh, hread, hw, hwrite, ho⟩
  | ok u =>
    obtain ⟨hf', _⟩ := SimBoard.readBulk_ok (by omega) ho
    rw [Window.Fits, hs, hsize] at hf'
    exact absurd hf' hb

lemma acquire_of_readyLost (h : ReadyLost plan s) : ∃ e s', acquire plan cal s = .error e s' := by
  obtain ⟨ready, read, cleared, e, hh, hr, hn, hw, ho⟩ := h
  exact ⟨_, _, acquire_unfetched cal (.cleared hh hr hn hw) ho⟩

structure Unpublished (before after : Station SimBoard) : Prop where
  store : after.store = before.store
  raw : after.buffers.raw = before.buffers.raw
  spare : after.buffers.spare = before.buffers.spare
  listeners : after.listeners = before.listeners

structure ReadyCleared (before after : Window) : Prop where
  bytes : ∀ k, after.bytes[k]? = if 508 ≤ k ∧ k < 512 then some 0 else before.bytes[k]?
  log : after.log = (if before.log.size < 4096 then before.log else before.log.extract 1).push ⟨508, .u32, 0⟩

lemma readyCleared_written {w : Window} (h : w.Fits readyOffset 4) : ReadyCleared w (w.written .u32 readyOffset 0) := by
  refine ⟨fun k => ?_, rfl⟩
  have hs : 508 + 4 ≤ w.bytes.size := h
  have he : LittleEndian.encode Width.u32.bytes (UInt32.toNat 0) = [0, 0, 0, 0] := rfl
  have ho : readyOffset.toNat = 508 := rfl
  rw [Window.written, he, ho, Bytes.getElem?_overwrite]
  by_cases hk : 508 ≤ k ∧ k < 512
  · obtain ⟨j, rfl⟩ := Nat.exists_eq_add_of_le hk.1
    have hj : j = 0 ∨ j = 1 ∨ j = 2 ∨ j = 3 := by omega
    rw [if_pos (by simp; omega), if_pos hk, Nat.add_sub_cancel_left]
    obtain rfl | rfl | rfl | rfl := hj <;> rfl
  · rw [if_neg (by simp; omega), if_neg hk]

def Leaves (plan : Plan) (before after : Station SimBoard) : Prop :=
  Unpublished before after ∧
    (ReadyLost plan before ∧ ReadyCleared before.bus.window after.bus.window ∨
      ¬ ReadyLost plan before ∧ after.bus.window = before.bus.window)

lemma leaves_atFetch (h : ¬ ReadyLost plan s) (hw : bus.window = s.bus.window) : Leaves plan s (s.atFetch bus) :=
  ⟨⟨rfl, rfl, rfl, rfl⟩, .inr ⟨h, hw⟩⟩

lemma leaves_unfetched {e : TransportError} (hc : Cleared plan s.bus bus)
    (ho : (Transport.readBulk plan.waveformOffset s.buffers.bytes bus).outcome = .error e) :
    Leaves plan s { s.atFetch (Transport.readBulk plan.waveformOffset s.buffers.bytes bus).bus with
      buffers := s.buffers.fetched plan.waveformOffset bus } := by
  refine ⟨⟨rfl, rfl, rfl, rfl⟩, ?_⟩
  have hw := SimBoard.readBulk_window plan.waveformOffset s.buffers.bytes bus
  have hh := hc.window
  cases hc with
  | unasked ha =>
    refine .inr ⟨?_, hw⟩
    rintro ⟨_, _, _, _, ha', _⟩
    exact Bool.false_ne_true (ha.symm.trans ha')
  | cleared ha hr hn hwr =>
    refine .inl ⟨⟨_, _, _, _, ha, hr, hn, hwr, ho⟩, ?_⟩
    obtain ⟨_, hf, _, _⟩ := SimBoard.readWord_ok hr
    rw [Window.handshaken, if_pos ha] at hh
    change ReadyCleared _ (Transport.readBulk plan.waveformOffset s.buffers.bytes bus).bus.window
    rw [hw, hh]
    exact readyCleared_written hf

lemma leaves_of_exit {r : EStateM.Result StationError (Station SimBoard) CycleOutcome} (hx : CycleExit plan cal s r)
    (hr : r = .ok .notReady s' ∨ ∃ e, r = .error e s') : Leaves plan s s' := by
  cases hx with
  | unread ha he =>
    obtain hr | ⟨_, hr⟩ := hr <;> cases hr
    refine leaves_atFetch ?_ (SimBoard.readWord_error he)
    rintro ⟨_, _, _, _, _, hr, _⟩
    rw [he] at hr
    cases hr
  | notReady ha hz =>
    obtain hr | ⟨_, hr⟩ := hr <;> cases hr
    obtain ⟨_, _, _, rfl⟩ := SimBoard.readWord_ok hz
    refine leaves_atFetch ?_ rfl
    rintro ⟨_, _, _, _, _, hr, hn, _⟩
    rw [hz] at hr
    cases hr
    exact hn rfl
  | uncleared ha hz hn he =>
    obtain hr | ⟨_, hr⟩ := hr <;> cases hr
    obtain ⟨_, _, _, rfl⟩ := SimBoard.readWord_ok hz
    refine leaves_atFetch ?_ ((SimBoard.writeWord_error he).trans rfl)
    rintro ⟨_, _, _, _, _, hr, _, hw, _⟩
    rw [hz] at hr
    cases hr
    rw [he] at hw
    cases hw
  | unfetched hc ho =>
    obtain hr | ⟨_, hr⟩ := hr <;> cases hr
    exact leaves_unfetched hc ho
  | published hc ho hr' => obtain hr | ⟨_, hr⟩ := hr <;> cases hr

lemma acquire_notReady_iff : (∃ s', acquire plan cal s = .ok .notReady s') ↔
    plan.handshake = true ∧ ∃ bus, Transport.readWord .u32 readyOffset s.bus = .ok 0 bus := by
  constructor
  · rintro ⟨s', h⟩
    have hx := acquire_exit plan cal s
    rw [h] at hx
    cases hx with
    | notReady ha hz => exact ⟨ha, _, hz⟩
  · rintro ⟨ha, bus, hz⟩
    exact ⟨s.atFetch bus, acquire_of_zero ha hz⟩

end Station

/-- Whatever operations a station goes through, each of its publications is of the window of that cycle. -/
theorem publishes_of_mem_history (setup : Setup) (operations : List Operation) (s : Station SimBoard) (e : Event)
    (h : e ∈ history setup operations s) (plan : Plan) (ho : e.operation = .cycle plan) (cycle : UInt64)
    (faults : UInt32) (hr : e.outcome = .cycle (.ok (.published cycle faults))) :
    Station.Publishes plan setup.calibration e.before cycle faults e.after :=
  Station.publishes_of_acquire (acquire_of_mem_history h ho hr)

def interrupted : List Operation :=
  [.poke 0x58000 7, .poke Station.readyOffset 0, .cycle { waveformOffset := 0x58000 }, .cycle { handshake := true },
    .cycle {}]

lemma history_interrupted {v : UInt32} {s : Station SimBoard} (h : SimBoard.Holding v s.bus) :
    ∃ cut skipped last e cycle faults, (history {} interrupted s).drop 2 = [cut, skipped, last] ∧
      cut.outcome = .cycle (.error e) ∧ skipped.outcome = .cycle (.ok .notReady) ∧
      last.before.buffers.bytes[0]? = some 7 ∧ last.operation = .cycle {} ∧
      last.outcome = .cycle (.ok (.published cycle faults)) := by
  have hp : SimBoard.Holding v (s.bus.poke 0x58000 7) := h.load (.inr (by decide))
  have hb : ((s.bus.poke 0x58000 7).poke Station.readyOffset 0).window.bytes[0x58000]? = some 7 := by
    rw [hp.getElem?_poke (by decide), if_neg (by decide), h.getElem?_poke (by decide), if_pos (by decide)]
    rfl
  rw [interrupted, history_poke, history_poke]
  obtain ⟨e, s₁, hcut, h₁, hbytes⟩ := Station.acquire_of_overrun { waveformOffset := 0x58000 } .standard
    (s := (s.changeBoard (·.poke 0x58000 7)).changeBoard (·.poke Station.readyOffset 0)) (hp.poke 0) rfl (by decide)
  have h7 : s₁.buffers.bytes[0]? = some 7 := by
    rw [hbytes, ← hb]
    exact if_pos (by decide)
  have hskip : Station.acquire { handshake := true } .standard s₁ = .ok .notReady (s₁.atFetch s₁.bus.counted) :=
    Station.acquire_of_zero rfl h₁.read.1
  obtain ⟨cycle, faults, s₂, hlast⟩ := Station.acquire_of_fits {} .standard (s := s₁.atFetch s₁.bus.counted)
    h₁.read.2 rfl (by decide)
  rw [history_cycle (by rw [Station.perform, hcut]), history_cycle (by rw [Station.perform, hskip]),
    history_cycle (by rw [Station.perform, hlast])]
  exact ⟨_, _, _, e, cycle, faults, rfl, rfl, rfl, h7, rfl, rfl⟩

theorem publishes_after_cut : ∃ cut skipped last e cycle faults,
    (history {} interrupted (Station.ofSize SimBoard.windowSize)).drop 2 = [cut, skipped, last] ∧
      cut.outcome = .cycle (.error e) ∧ skipped.outcome = .cycle (.ok .notReady) ∧
      last.before.buffers.bytes[0]? = some 7 ∧ last.operation = .cycle {} ∧
      last.outcome = .cycle (.ok (.published cycle faults)) ∧
      Station.Publishes {} .standard last.before cycle faults last.after := by
  have hs : SimBoard.Holding ((SimBoard.ofSize SimBoard.windowSize).peek Station.readyOffset)
      (Station.ofSize SimBoard.windowSize).bus := SimBoard.holding_ofSize
  obtain ⟨cut, skipped, last, e, cycle, faults, hh, hcut, hskip, h7, ho, hr⟩ := history_interrupted hs
  have hm : last ∈ history {} interrupted (Station.ofSize SimBoard.windowSize) := by
    apply List.mem_of_mem_drop
    rw [hh]
    exact .tail _ (.tail _ (.head _))
  exact ⟨cut, skipped, last, e, cycle, faults, hh, hcut, hskip, h7, ho, hr,
    publishes_of_mem_history {} interrupted _ last hm {} ho cycle faults hr⟩

/-- A cycle that publishes nothing leaves the telemetry alone, and the window too unless it lost a ready
word. It finds the waveforms not ready exactly if it asks and the ready word is zero. -/
theorem acquire_unpublished (plan : Plan) (cal : Calibration) (s : Station SimBoard) :
    (∀ s', (Station.acquire plan cal s = .ok .notReady s' ∨ ∃ e, Station.acquire plan cal s = .error e s') →
      Station.Unpublished s s' ∧
      (Station.ReadyLost plan s → Station.ReadyCleared s.bus.window s'.bus.window) ∧
      (¬ Station.ReadyLost plan s → s'.bus.window = s.bus.window)) ∧
    ((∃ s', Station.acquire plan cal s = .ok .notReady s') ↔
      plan.handshake = true ∧ ∃ bus, Transport.readWord .u32 Station.readyOffset s.bus = .ok 0 bus) := by
  refine ⟨fun s' h => ?_, Station.acquire_notReady_iff⟩
  obtain ⟨hu, ⟨hl, hw⟩ | ⟨hl, hw⟩⟩ := Station.leaves_of_exit (Station.acquire_exit plan cal s) h
  · exact ⟨hu, fun _ => hw, fun hn => absurd hl hn⟩
  · exact ⟨hu, fun hp => absurd hp hl, fun _ => hw⟩

def Station.readyOnly : Station SimBoard := (Station.ofSize 512).changeBoard (·.poke 508 1)

theorem acquire_unpublished_readyOnly : ∃ s' e,
    Station.acquire { handshake := true } .standard Station.readyOnly = .error e s' ∧
      Station.Unpublished Station.readyOnly s' ∧
      Station.ReadyCleared Station.readyOnly.bus.window s'.bus.window := by
  have hb : ¬ Station.readyOnly.bus.window.Fits Waveform.offset 114688 := by decide +kernel
  have hl : Station.ReadyLost { handshake := true } Station.readyOnly :=
    Station.readyLost_of_passes ⟨by decide +kernel, by decide +kernel⟩ rfl (by decide +kernel) (by decide +kernel) hb
  obtain ⟨e, s', ha⟩ : ∃ e s', Station.acquire { handshake := true } .standard Station.readyOnly = .error e s' :=
    Station.acquire_of_readyLost hl
  have hu := (acquire_unpublished { handshake := true } .standard Station.readyOnly).1 s' (.inr ⟨e, ha⟩)
  exact ⟨s', e, ha, hu.1, hu.2.1 hl⟩

end RfBoard
