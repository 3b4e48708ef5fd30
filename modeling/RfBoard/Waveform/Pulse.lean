import RfBoard.Waveform.Raw

namespace RfBoard.RawWaveform

def swing (cycle : UInt64) : Int16 := (Int16.ofNat (cycle % 64).toNat - 32) * 4

def pulseLevel (cycle : UInt64) : RawChannel → Int16
  | .pickup2I => 12000 + swing cycle
  | .pickup2Q => 5461
  | .pickup1I => 11500 + swing cycle
  | .pickup1Q => 5280
  | .fwd1I => 3000 + swing cycle
  | .fwd1Q => 4000
  | .rfl1I => 600
  | .rfl1Q => 800
  | .fwd2I => 2900 + swing cycle
  | .fwd2Q => 3900
  | .rfl2I => 550
  | .rfl2Q => 780
  | .dacI => 9000
  | .dacQ => -2730

def pulse (cycle : UInt64) : RawWaveform :=
  RawChannel.all.foldl (fun w c => w.setRange c 512 3584 fun _ => pulseLevel cycle c) zero

end RfBoard.RawWaveform
