import RfBoard.Proofs.FrameFaults

/-!
The derived channels one by one, each a function of the raw samples at its own point.
-/

namespace RfBoard

structure Reading where
  inPhase : Float
  quadrature : Float

namespace Reading

variable [Elementary] (r : Reading)

def amplitude : Float := Signal.amplitude r.inPhase r.quadrature

def phase : Float := Signal.phase r.inPhase r.quadrature

def power (c : ChannelCalibration) : Float := c.power r.inPhase r.quadrature

end Reading

def Detector.reading (d : Detector) (s : RawChannel → Float) : Reading := ⟨s d.inPhase, s d.quadrature⟩

namespace DerivedChannel

variable [Elementary] (cal : Calibration) (s : RawChannel → Float)

def ratio (incident reflected : Float) : Float :=
  match Signal.vswr incident reflected with
  | .ok r => r
  | .error _ => 0.0 / 0.0

def ofSamples (c : DerivedChannel) : Float :=
  let reading (d : Detector) := d.reading s
  let power (d : Detector) := (reading d).power (d.calibration cal)
  match c with
  | cav2Amp => s .pickup2I
  | cav2Phase => Signal.wordAngle (s .pickup2Q)
  | cav1Amp => s .pickup1I
  | cav1Phase => Signal.wordAngle (s .pickup1Q)
  | fwd1Amp => (reading .forward1).amplitude
  | fwd1Phase => (reading .forward1).phase
  | fwd1Power => power .forward1
  | rfl1Amp => (reading .reflected1).amplitude
  | rfl1Phase => (reading .reflected1).phase
  | rfl1Power => power .reflected1
  | vswr1 => ratio (power .forward1) (power .reflected1)
  | fwd2Amp => (reading .forward2).amplitude
  | fwd2Phase => (reading .forward2).phase
  | fwd2Power => power .forward2
  | rfl2Amp => (reading .reflected2).amplitude
  | rfl2Phase => (reading .reflected2).phase
  | rfl2Power => power .reflected2
  | vswr2 => ratio (power .forward2) (power .reflected2)
  | inPower => power .forward1 + power .forward2 - power .reflected1 - power .reflected2
  | fwdPower => power .forward1 + power .forward2
  | rflPower => power .reflected1 + power .reflected2
  | dacAmp => s .dacI
  | dacPhase => Signal.wordAngle (s .dacQ)

def isRatio : DerivedChannel → Bool
  | vswr1 | vswr2 => true
  | _ => false

lemma get_values (c : DerivedChannel) : (DerivedPoint.ofSamples cal s).values.get c.index = c.ofSamples cal s := by
  cases c <;> rfl

end DerivedChannel

namespace Frame

def nanSamples (f : Frame) (c : DerivedChannel) : Nat := (List.finRange 4096).countP fun i => (f.sample c i).isNaN

def faultSum (f : Frame) : Nat := (DerivedChannel.all.map fun c => (f.faultsOf c).toNat).sum

lemma faultSum_ratioFaults (cycle : UInt64) (samples : Vector Float 94208) (a b : UInt32) :
    (Frame.mk cycle samples (ratioFaults a b)).faultSum = a.toNat + b.toNat := by
  have h : DerivedChannel.all.map (fun c => (ratioFaults a b)[c.index]) = (ratioFaults a b).toList := rfl
  have hs : (Frame.mk cycle samples (ratioFaults a b)).faultSum =
      ((DerivedChannel.all.map fun c => (ratioFaults a b)[c.index]).map UInt32.toNat).sum := rfl
  rw [hs, h, toList_ratioFaults]
  simp

end Frame

namespace DerivedPoint

variable (incident reflected : Float)

lemma isNaN_nan : nan.isNaN = true := by decide +kernel

lemma ratioOrNaN_cases : (∃ r, Signal.vswr incident reflected = .ok r ∧ r.isFinite = true) ∨
    ∃ e, Signal.vswr incident reflected = .error e := by
  rw [Signal.vswr]
  split
  · exact .inr ⟨_, rfl⟩
  · dsimp only
    split
    · rename_i h
      exact .inl ⟨_, rfl, h⟩
    · exact .inr ⟨_, rfl⟩

lemma isError_eq_isNaN : isError (Signal.vswr incident reflected) = (ratioOrNaN (Signal.vswr incident reflected)).isNaN := by
  rcases ratioOrNaN_cases incident reflected with ⟨r, hr, hf⟩ | ⟨e, he⟩
  · rw [hr, ratioOrNaN, Double.isNaN_of_isFinite hf]
    rfl
  · rw [he, ratioOrNaN, isNaN_nan]
    rfl

lemma isFinite_eq_not_isNaN : (ratioOrNaN (Signal.vswr incident reflected)).isFinite =
    !(ratioOrNaN (Signal.vswr incident reflected)).isNaN := by
  rw [← isError_eq_isNaN, isError_vswr, Bool.not_not]

end DerivedPoint

namespace RawWaveform

variable [Elementary] (raw : RawWaveform) (cal : Calibration) (f : Frame)

lemma sample_derive_eq (c : DerivedChannel) (i : Fin 4096) :
    (raw.derive cal f).sample c i = c.ofSamples cal fun r => Number.ofSample (raw.sample r i) := by
  rw [sample_derive]
  exact DerivedChannel.get_values cal _ c

lemma faultsOf_ratio {c : DerivedChannel} (hc : c.isRatio = true) :
    ((raw.derive cal f).faultsOf c).toNat = (raw.derive cal f).nanSamples c := by
  rw [faultsOf_derive, marked_eq_countP, Frame.nanSamples]
  refine List.countP_congr fun i _ => ?_
  rw [sample_derive]
  cases c with
  | vswr1 | vswr2 => exact Bool.eq_iff_iff.mp (DerivedPoint.isError_eq_isNaN _ _)
  | _ => cases hc

lemma isFinite_ratio {c : DerivedChannel} (hc : c.isRatio = true) (i : Fin 4096) :
    ((raw.derive cal f).sample c i).isFinite = !((raw.derive cal f).sample c i).isNaN := by
  rw [sample_derive]
  cases c with
  | vswr1 | vswr2 => exact DerivedPoint.isFinite_eq_not_isNaN _ _
  | _ => cases hc

lemma faultsOf_other {c : DerivedChannel} (hc : c.isRatio = false) : (raw.derive cal f).faultsOf c = 0 := by
  rw [derive_eq]
  cases c with
  | vswr1 | vswr2 => cases hc
  | _ => rfl

lemma faultSum_derive : (raw.derive cal f).faultSum =
    raw.marked cal (·.undefined1) 4096 + raw.marked cal (·.undefined2) 4096 := by
  rw [derive_eq, derivedFaults, Frame.faultSum_ratioFaults, toNat_ofNat_marked, toNat_ofNat_marked]

lemma toNat_totalFaults_derive_eq : (raw.derive cal f).totalFaults.toNat = (raw.derive cal f).faultSum := by
  rw [toNat_totalFaults_derive, derive_eq, derivedFaults, Frame.faultSum_ratioFaults, Frame.toList_ratioFaults]
  simp

/-- A derived frame, whatever it overwrites and whatever the calibration: each sample is what its channel
makes of the raw samples at its point, a sample of a ratio is finite if it is a number, the two ratios
count their samples that are not numbers, and the other channels count nothing. -/
theorem derive_pointwise :
    (∀ c i, (raw.derive cal f).sample c i = c.ofSamples cal fun r => Number.ofSample (raw.sample r i)) ∧
    (∀ c, ((raw.derive cal f).faultsOf c).toNat = if c.isRatio then (raw.derive cal f).nanSamples c else 0) ∧
    (∀ i, ((raw.derive cal f).sample .vswr1 i).isFinite = !((raw.derive cal f).sample .vswr1 i).isNaN) ∧
    (∀ i, ((raw.derive cal f).sample .vswr2 i).isFinite = !((raw.derive cal f).sample .vswr2 i).isNaN) ∧
    (raw.derive cal f).totalFaults.toNat = (raw.derive cal f).faultSum ∧
    (raw.derive cal f).faultSum ≤ 8192 := by
  refine ⟨raw.sample_derive_eq cal f, fun c => ?_, raw.isFinite_ratio cal f rfl, raw.isFinite_ratio cal f rfl,
    raw.toNat_totalFaults_derive_eq cal f, ?_⟩
  · cases hc : c.isRatio with
    | true => rw [if_pos rfl, raw.faultsOf_ratio cal f hc]
    | false => rw [if_neg Bool.false_ne_true, raw.faultsOf_other cal f hc, UInt32.toNat_zero]
  · have h₁ := raw.marked_le cal (·.undefined1) 4096
    have h₂ := raw.marked_le cal (·.undefined2) 4096
    rw [faultSum_derive]
    omega

end RawWaveform

end RfBoard
