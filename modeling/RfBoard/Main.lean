import RfBoard.Monitor.Basic

namespace RfBoard.Monitor

def fileError : IO.Error → FileError
  | .noFileOrDirectory .. => .notFound
  | .permissionDenied .. => .accessDenied
  | e => .other (toString e)

def attempt {α : Type} (act : IO α) : IO (Except FileError α) := do
  try return .ok (← act) catch e => return .error (fileError e)

def readConfig (path : String) : IO (Except ConfigError Config) := do
  return Config.ofFile path (← attempt (IO.FS.readFile path))

def openDevice (o : Options) (file : Option (Except ConfigError Config)) : IO (Except FileError Unit) := do
  match o.simulate, o.configure file with
  | false, .ok c => attempt do discard (IO.FS.Handle.mk c.device .readWrite)
  | _, _ => return .ok ()

def printAll (lines : List String) : IO Unit := do
  let out ← IO.getStdout
  lines.forM out.putStrLn
  out.flush

partial def watchForever (m : Monitor) : IO Unit := do
  let (lines, m) := m.hear
  printAll lines
  IO.sleep (UInt32.ofNat (min m.live.plan.periodMs.toNat 4294967295))
  let (log, m) := m.advance
  log.forM (IO.eprintln ·)
  watchForever m

def monitor (o : Options) : IO UInt32 := do
  let file ← o.config.mapM readConfig
  let device ← openDevice o file
  let (log, started) := start o file fun _ => device
  log.forM (IO.eprintln ·)
  match started with
  | .failed e => IO.eprintln e.logLine
  | .printed lines => printAll lines
  | .watching m => watchForever m
  return started.status

end RfBoard.Monitor

def main (args : List String) : IO UInt32 := do
  match RfBoard.Monitor.Options.ofArguments args with
  | some o => RfBoard.Monitor.monitor o
  | none =>
    IO.eprintln "unknown, repeated or incomplete option"
    return 2
