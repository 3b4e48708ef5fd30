import RfBoard.Request

/-!
The raw waveforms: 14 channels of 4096 signed 16-bit samples, each sample little-endian.
-/

namespace RfBoard

inductive RawChannel where
  | pickup2I
  | pickup2Q
  | pickup1I
  | pickup1Q
  | fwd1I
  | fwd1Q
  | rfl1I
  | rfl1Q
  | fwd2I
  | fwd2Q
  | rfl2I
  | rfl2Q
  | dacI
  | dacQ
deriving DecidableEq, Repr

namespace Waveform

def offset : UInt32 := 0x40000

def channels : Nat := 14

def points : Nat := 4096

def sampleBytes : Nat := 2

def length : Nat := channels * points * sampleBytes

end Waveform

namespace RawChannel

def all : List RawChannel :=
  [pickup2I, pickup2Q, pickup1I, pickup1Q, fwd1I, fwd1Q, rfl1I, rfl1Q, fwd2I, fwd2Q, rfl2I, rfl2Q, dacI, dacQ]

def index : RawChannel → Fin 14
  | pickup2I => 0
  | pickup2Q => 1
  | pickup1I => 2
  | pickup1Q => 3
  | fwd1I => 4
  | fwd1Q => 5
  | rfl1I => 6
  | rfl1Q => 7
  | fwd2I => 8
  | fwd2Q => 9
  | rfl2I => 10
  | rfl2Q => 11
  | dacI => 12
  | dacQ => 13

def name : RawChannel → String
  | pickup2I => "Pickup2I"
  | pickup2Q => "Pickup2Q"
  | pickup1I => "Pickup1I"
  | pickup1Q => "Pickup1Q"
  | fwd1I => "Fwd1I"
  | fwd1Q => "Fwd1Q"
  | rfl1I => "Rfl1I"
  | rfl1Q => "Rfl1Q"
  | fwd2I => "Fwd2I"
  | fwd2Q => "Fwd2Q"
  | rfl2I => "Rfl2I"
  | rfl2Q => "Rfl2Q"
  | dacI => "DacI"
  | dacQ => "DacQ"

def ofName? (name : String) : Option RawChannel := all.find? fun c => c.name == name

def byteOffset (c : RawChannel) : Nat := c.index * Waveform.points * Waveform.sampleBytes

end RawChannel

structure RawWaveform where
  samples : Vector Int16 57344

namespace RawWaveform

def zero : RawWaveform := ⟨Vector.replicate 57344 0⟩

def place (c : RawChannel) (i : Fin 4096) : Fin 57344 := ⟨c.index * 4096 + i, by omega⟩

def sample (w : RawWaveform) (c : RawChannel) (i : Fin 4096) : Int16 := w.samples[place c i]

def setSample (w : RawWaveform) (c : RawChannel) (i : Fin 4096) (v : Int16) : RawWaveform :=
  ⟨w.samples.set (place c i) v⟩

def setRange (w : RawWaveform) (c : RawChannel) (start stop : Nat) (f : Nat → Int16) : RawWaveform :=
  (List.range' start (stop - start)).foldl (fun w i => w.setSample c (Fin.ofNat 4096 i) (f i)) w

def setRamp (w : RawWaveform) (c : RawChannel) (start stop : Nat) (value step : Int) : RawWaveform :=
  w.setRange c start (min stop Waveform.points) fun i => Int16.ofInt (value + step * (i - start))

def setColumn (w : RawWaveform) (i : Nat) (values : List Int) : RawWaveform :=
  (RawChannel.all.zip values).foldl (fun w (c, v) => w.setSample c (Fin.ofNat 4096 i) (Int16.ofInt v)) w

def column? (w : RawWaveform) (i : Nat) : Option (List Int16) :=
  if h : i < 4096 then some (RawChannel.all.map fun c => w.sample c ⟨i, h⟩) else none

def countNonzero (w : RawWaveform) : Nat := w.samples.toArray.foldl (fun n s => if s = 0 then n else n + 1) 0

def sampleOfBytes (low high : UInt8) : Int16 := (low.toUInt16 ||| high.toUInt16 <<< 8).toInt16

def lowByte (s : Int16) : UInt8 := s.toUInt16.toUInt8

def highByte (s : Int16) : UInt8 := (s.toUInt16 >>> 8).toUInt8

def refill (w : RawWaveform) (bytes : Bytes) : Except RequestError RawWaveform :=
  if h : bytes.size = 114688 then
    .ok ⟨w.samples.mapFinIdx fun i _ _ => sampleOfBytes bytes[2 * i] bytes[2 * i + 1]⟩
  else .error (.invalidLength Waveform.length bytes.size)

def ofBytes (bytes : Bytes) : Except RequestError RawWaveform := zero.refill bytes

def toBytes (w : RawWaveform) : Bytes :=
  w.samples.toArray.foldl (fun (b : Bytes) s => (b.push (lowByte s)).push (highByte s)) (Array.mkEmpty 114688)

end RawWaveform

namespace WaveformRequest

def full : WaveformRequest := { offset := Waveform.offset, length := 114688 }

end WaveformRequest

end RfBoard
