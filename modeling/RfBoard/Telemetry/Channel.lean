namespace RfBoard

inductive DerivedChannel where
  | cav2Amp
  | cav2Phase
  | cav1Amp
  | cav1Phase
  | fwd1Amp
  | fwd1Phase
  | fwd1Power
  | rfl1Amp
  | rfl1Phase
  | rfl1Power
  | vswr1
  | fwd2Amp
  | fwd2Phase
  | fwd2Power
  | rfl2Amp
  | rfl2Phase
  | rfl2Power
  | vswr2
  | inPower
  | fwdPower
  | rflPower
  | dacAmp
  | dacPhase
deriving DecidableEq, Repr

namespace DerivedChannel

def all : List DerivedChannel :=
  [cav2Amp, cav2Phase, cav1Amp, cav1Phase, fwd1Amp, fwd1Phase, fwd1Power, rfl1Amp, rfl1Phase,
    rfl1Power, vswr1, fwd2Amp, fwd2Phase, fwd2Power, rfl2Amp, rfl2Phase, rfl2Power, vswr2,
    inPower, fwdPower, rflPower, dacAmp, dacPhase]

def index : DerivedChannel → Fin 23
  | cav2Amp => 0
  | cav2Phase => 1
  | cav1Amp => 2
  | cav1Phase => 3
  | fwd1Amp => 4
  | fwd1Phase => 5
  | fwd1Power => 6
  | rfl1Amp => 7
  | rfl1Phase => 8
  | rfl1Power => 9
  | vswr1 => 10
  | fwd2Amp => 11
  | fwd2Phase => 12
  | fwd2Power => 13
  | rfl2Amp => 14
  | rfl2Phase => 15
  | rfl2Power => 16
  | vswr2 => 17
  | inPower => 18
  | fwdPower => 19
  | rflPower => 20
  | dacAmp => 21
  | dacPhase => 22

def label : DerivedChannel → String
  | cav2Amp => "CAV2_amp"
  | cav2Phase => "CAV2_phase"
  | cav1Amp => "CAV1_amp"
  | cav1Phase => "CAV1_phase"
  | fwd1Amp => "fwd1_amp"
  | fwd1Phase => "fwd1_phase"
  | fwd1Power => "fwd1_power"
  | rfl1Amp => "rfl1_amp"
  | rfl1Phase => "rfl1_phase"
  | rfl1Power => "rfl1_power"
  | vswr1 => "CAV_VSWR1"
  | fwd2Amp => "fwd2_amp"
  | fwd2Phase => "fwd2_phase"
  | fwd2Power => "fwd2_power"
  | rfl2Amp => "rfl2_amp"
  | rfl2Phase => "rfl2_phase"
  | rfl2Power => "rfl2_power"
  | vswr2 => "CAV_VSWR2"
  | inPower => "CAV_inpower"
  | fwdPower => "CAV_fwdpower"
  | rflPower => "CAV_rflpower"
  | dacAmp => "DAC_amp"
  | dacPhase => "DAC_phase"

def name (c : DerivedChannel) : String := "waveform_" ++ c.label

def probeName (c : DerivedChannel) : String := "waveform_single_point_" ++ c.label

def ofName? (name : String) : Option DerivedChannel :=
  all.find? fun c => c.name == name || c.probeName == name

def probeIndexParameter : String := "waveform_single_point_position"

end DerivedChannel

end RfBoard
