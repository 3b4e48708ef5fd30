import RfBoard.Proofs.BulkRead
import RfBoard.Proofs.ConfigValidity
import RfBoard.Proofs.CycleExit

/-!
The addresses of an acquisition cycle. A configuration promises an aligned offset, not a low one.
-/

namespace RfBoard

open Transport (Reaches readWords)

namespace Station

variable {σ : Type} [Transport σ] {plan : Plan} {cal : Calibration} {s : Station σ} {i : Nat}

def Computes (plan : Plan) (s : Station σ) (i : Nat) : Prop :=
  ∃ bus, Cleared plan s.bus bus ∧ Reaches plan.waveformOffset s.buffers.bytes bus i

lemma Computes.lt (h : s.Computes plan i) : i < 28672 := by
  obtain ⟨bus, _, hr⟩ := h
  have hi := hr.inside
  rw [s.buffers.size_bytes] at hi
  omega

lemma Computes.lt_of_end_le (h : s.Computes plan i) (he : plan.waveformOffset.toNat + 114688 ≤ 2 ^ 32) :
    plan.waveformOffset.toNat + 4 * i < 2 ^ 32 := by
  have hi := h.lt
  omega

lemma acquire_of_overflow (cal : Calibration) (h : s.Computes plan i)
    (ho : 2 ^ 32 ≤ plan.waveformOffset.toNat + 4 * i) :
    ∃ s', acquire plan cal s = .error (.transport (.addressOverflow plan.waveformOffset i)) s' := by
  obtain ⟨bus, hc, hr⟩ := h
  exact ⟨_, acquire_unfetched cal hc (Transport.readBulk_of_overflow hr ho)⟩

end Station

namespace SimBoard

def full : SimBoard := { window := (Window.ofSize (2 ^ 32)).written .u32 Station.readyOffset 1 }

lemma size_full : full.window.bytes.size = 2 ^ 32 := by
  rw [full, Window.size_written, Window.ofSize, Array.size_replicate]

lemma full_fits {offset : UInt32} {length : Nat} (h : offset.toNat + length ≤ 2 ^ 32) :
    full.window.Fits offset length := by
  rwa [Window.Fits, size_full]

lemma full_passes : full.faults.Passes := ⟨rfl, rfl⟩

lemma readWord_full_ready :
    Transport.readWord .u32 Station.readyOffset full = .ok 1 full.counted := by
  have hf : (Window.ofSize (2 ^ 32)).Fits Station.readyOffset Width.u32.bytes :=
    fits_ofSize (by decide : Station.readyOffset.toNat + Width.u32.bytes ≤ 2 ^ 32)
  have hw : full.window.word .u32 Station.readyOffset = 1 := Window.word_written hf (by decide)
  rw [readWord_of_passes full_passes (full_fits (by decide)), hw]

lemma cleared_full (plan : Plan) :
    ∃ bus, Station.Cleared plan full bus ∧ bus.faults.Passes ∧ bus.window.bytes.size = 2 ^ 32 := by
  cases hh : plan.handshake with
  | false => exact ⟨full, .unasked hh, full_passes, size_full⟩
  | true =>
    have hw : Transport.writeWord .u32 Station.readyOffset 0 full.counted =
        .ok () ⟨full.window.written .u32 Station.readyOffset (Width.u32.cut 0), full.counted.faults.counted⟩ :=
      writeWord_of_passes full_passes.counted (full_fits (by decide))
    refine ⟨_, .cleared hh readWord_full_ready (by decide) hw, full_passes, ?_⟩
    exact (Window.size_written ..).trans size_full

lemma computes_full {plan : Plan} (ha : plan.waveformOffset.toNat % 4 = 0)
    (he : 2 ^ 32 < plan.waveformOffset.toNat + 114688) :
    ({ bus := full } : Station SimBoard).Computes plan ((2 ^ 32 - plan.waveformOffset.toNat) / 4) := by
  obtain ⟨bus, hc, hp, hs⟩ := cleared_full plan
  have hn : Buffers.empty.bytes.size = 114688 := Buffers.empty.size_bytes
  have ho := plan.waveformOffset.toNat_lt
  have hfit : bus.window.Fits plan.waveformOffset (4 * (0 + (2 ^ 32 - plan.waveformOffset.toNat) / 4)) := by
    rw [Window.Fits, hs]
    omega
  refine ⟨bus, hc, ?_, ?_, readWords_of_passes hp hfit (by omega)⟩
  · rw [hn]
    rfl
  · rw [hn]
    omega

end SimBoard

/-- Of a configuration that validation accepts, the end of its region decides. Where the region goes beyond
the addresses, a cycle that comes there has no address for its next word. -/
theorem cycle_addresses_iff {c : Config} (h : c.validate = .ok ()) :
    ((∀ (σ : Type) [Transport σ] (s : Station σ) (i : Nat), s.Computes c.plan i →
        c.plan.waveformOffset.toNat + 4 * i < 2 ^ 32) ↔ c.plan.waveformOffset.toNat + 114688 ≤ 2 ^ 32) ∧
      ∀ (σ : Type) [Transport σ] (s : Station σ) (i : Nat), s.Computes c.plan i →
        2 ^ 32 ≤ c.plan.waveformOffset.toNat + 4 * i →
        ∃ s', Station.acquire c.plan c.calibration s =
          .error (.transport (.addressOverflow c.plan.waveformOffset i)) s' := by
  refine ⟨⟨fun hall => ?_, fun he σ _ s i hc => hc.lt_of_end_le he⟩,
    fun σ _ s i hc ho => Station.acquire_of_overflow c.calibration hc ho⟩
  by_contra he
  have ha := c.aligned_of_validate h
  have hlt := hall SimBoard _ _ (SimBoard.computes_full ha (by omega))
  have ho := c.plan.waveformOffset.toNat_lt
  omega

theorem cycle_addresses_standard : Config.standard.validate = .ok () ∧
    ∀ (σ : Type) [Transport σ] (s : Station σ) (i : Nat), s.Computes Config.standard.plan i →
      Config.standard.plan.waveformOffset.toNat + 4 * i < 2 ^ 32 :=
  have h : Config.standard.validate = .ok () := by decide +kernel
  ⟨h, (cycle_addresses_iff h).1.mpr (by decide)⟩

theorem cycle_addresses_overflow :
    ∃ c : Config, c.plan.waveformOffset = 0xFFFFFFFC ∧ c.validate = .ok () ∧
      ({ bus := SimBoard.full } : Station SimBoard).Computes c.plan 1 ∧
      2 ^ 32 ≤ c.plan.waveformOffset.toNat + 4 * 1 :=
  ⟨{ Config.standard with plan := { waveformOffset := 0xFFFFFFFC } }, rfl, by decide +kernel,
    SimBoard.computes_full (by decide) (by decide), by decide⟩

end RfBoard
