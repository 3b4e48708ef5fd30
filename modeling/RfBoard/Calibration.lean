import RfBoard.Number.Elementary

namespace RfBoard

structure ChannelCalibration where
  k : Float
  b : Float
deriving Repr, Inhabited

namespace ChannelCalibration

def scale [Elementary] (c : ChannelCalibration) : Float := c.k * Elementary.pow 10 (c.b / 10)

def power [Elementary] (c : ChannelCalibration) (i q : Float) : Float := (i * i + q * q) * c.scale / 1000

def isValid (c : ChannelCalibration) : Bool := c.k.isFinite && c.k > 0 && c.b.isFinite

end ChannelCalibration

structure Calibration where
  forward : Vector ChannelCalibration 4
  reflected : Vector ChannelCalibration 4
deriving Repr

namespace Calibration

def standard : Calibration where
  forward := #v[⟨1.5818e-10, 74.1⟩, ⟨1.5652e-10, 74.1⟩, ⟨1.5818e-10, 74.1⟩, ⟨1.5818e-10, 74.1⟩]
  reflected := #v[⟨1.6526e-10, 74.1⟩, ⟨1.5767e-10, 74.1⟩, ⟨1.5818e-10, 74.1⟩, ⟨1.5818e-10, 74.1⟩]

def forward1 (c : Calibration) : ChannelCalibration := c.forward[0]

def reflected1 (c : Calibration) : ChannelCalibration := c.reflected[0]

def forward2 (c : Calibration) : ChannelCalibration := c.forward[1]

def reflected2 (c : Calibration) : ChannelCalibration := c.reflected[1]

def pair? (c : Calibration) (n : Nat) : Option (ChannelCalibration × ChannelCalibration) :=
  if h : n < 4 then some (c.forward[n], c.reflected[n]) else none

def isValid (c : Calibration) : Bool :=
  c.forward.all ChannelCalibration.isValid && c.reflected.all ChannelCalibration.isValid

end Calibration

end RfBoard
