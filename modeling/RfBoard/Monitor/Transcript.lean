import RfBoard.Monitor.Basic

namespace RfBoard.Monitor

structure Transcript where
  status : UInt32
  lines : List String
  failure : Option String

def watch : (fuel count : Nat) → Monitor → List String
  | 0, _, _ => []
  | fuel + 1, count, m =>
    let (lines, m) := m.hear
    if count ≤ lines.length then lines.take count
    else lines ++ watch fuel (count - lines.length) m.advance.2

def watchBound (o : Options) (count : Nat) : Nat := (count + 1) * o.interval.toNat + 1

def transcript (host : Node) (args : List String) (count : Nat) : Transcript :=
  match Options.ofArguments args with
  | none => ⟨2, [], none⟩
  | some o =>
    match (start o (o.config.map (Config.load host)) fun c => Files.checkOpen host c.device).2 with
    | .watching m => ⟨0, watch (watchBound o count) count m, none⟩
    | .printed lines => ⟨0, lines, none⟩
    | .failed e => ⟨1, [], (e.logLine.splitOn "\n").head?⟩

end RfBoard.Monitor
