import RfBoard.Station.Basic

namespace RfBoard.Station

variable {σ : Type} [Transport σ]

def register (setup : Setup) (name : String) : StationM σ Register :=
  match setup.registers.find name with
  | some r => pure r
  | none => throw (.unknownParameter name)

def remember (name : String) (v : ParamValue) : StationM σ Unit :=
  modify fun s => { s with cache := s.cache.insert name v }

def shown (setup : Setup) (r : Register) (raw : UInt32) : Except DomainError ParamValue :=
  (setup.conversions.forward r.name raw).map (.ofKind r.kind)

def readRegister (setup : Setup) (r : Register) : StationM σ ParamValue := do
  let raw ← access (Transport.read r.width r.offset)
  let v ← convert (shown setup r raw)
  remember r.name v
  return v

def probedChannel? (name : String) : Option DerivedChannel :=
  (DerivedChannel.ofName? name).filter fun c => c.probeName == name

def readParameter (setup : Setup) (name : String) : StationM σ ParamValue :=
  if name = DerivedChannel.probeIndexParameter then return .int (← get).store.probeIndex
  else match probedChannel? name with
    | some c => return .real ((← get).store.probeValue c)
    | none => do readRegister setup (← register setup name)

def pulse (r : Register) : StationM σ Unit := do
  access (Transport.write r.width r.offset 1)
  remember r.name (.int 1)
  access (Transport.write r.width r.offset 0)
  remember r.name (.int 0)

def writeRegister (setup : Setup) (r : Register) (v : ParamValue) : StationM σ Unit := do
  let raw ← convert (setup.conversions.inverse r.name v.toReal)
  access (Transport.write r.width r.offset raw)
  remember r.name (← convert (shown setup r raw))

def setProbeIndex (index : Int64) : StationM σ Unit :=
  modify fun s => { s with store := s.store.setProbeIndex index }

def writeParameter (setup : Setup) (name : String) (v : ParamValue) : StationM σ Unit :=
  if name = DerivedChannel.probeIndexParameter then setProbeIndex v.toInt64
  else if (DerivedChannel.ofName? name).isSome then throw (.readOnly name)
  else do
    let r ← register setup name
    if !r.isWritable then throw (.readOnly r.name)
    else if r.name = Register.manualClear ∧ v.toInt64 = 1 then pulse r
    else writeRegister setup r v

def cached (s : Station σ) (name : String) : Option ParamValue := s.cache.find name

def readEach (setup : Setup) : List Register → Station σ → List (String × Except StationError ParamValue) × Station σ
  | [], s => ([], s)
  | r :: rs, s =>
    let (v, s) := perform (readParameter setup r.name) s
    let (vs, s) := readEach setup rs s
    ((r.name, v) :: vs, s)

def readAll (setup : Setup) (s : Station σ) : List (String × Except StationError ParamValue) × Station σ :=
  readEach setup setup.registers s

end RfBoard.Station
