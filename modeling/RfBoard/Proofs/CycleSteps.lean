import RfBoard.Proofs.BulkRead
import RfBoard.Proofs.CycleExit

/-!
The acquisition in single accesses. `step` makes the next one and all that follows it before the one after.
-/

namespace RfBoard

inductive Stage where
  | resting
  | ready
  | reading (count : Nat)

namespace Station

variable {σ : Type} [Transport σ] {plan : Plan} {cal : Calibration} {offset : UInt32} {s t : Station σ} {n i : Nat}

def ask (plan : Plan) : StationM σ Bool := do
  enter .fetching
  if plan.handshake then return (← access (Transport.readWord .u32 readyOffset)) != 0
  return true

def clear (plan : Plan) : StationM σ Unit := do
  if plan.handshake then access (Transport.writeWord .u32 readyOffset 0)

def filled (s : Station σ) (offset : UInt32) (n i : Nat) : Station σ :=
  { s with
    bus := (Transport.readWords offset n i s.buffers.bytes s.bus).bus
    buffers := { s.buffers with
      bytes := (Transport.readWords offset n i s.buffers.bytes s.bus).buffer
      size_bytes := (Transport.size_readWords ..).trans s.buffers.size_bytes } }

def fetchWords (offset : UInt32) (n i : Nat) : StationM σ Unit := fun s =>
  match (Transport.readWords offset n i s.buffers.bytes s.bus).outcome with
  | .ok _ => .ok () (s.filled offset n i)
  | .error e => .error (.transport e) (s.filled offset n i)

def finish (cal : Calibration) : StationM σ CycleOutcome := do
  decodeBytes
  enter .converting
  deriveFrame cal
  enter .publishing
  publishSpare

def settled (r : EStateM.Result StationError (Station σ) CycleOutcome) : Stage × Station σ :=
  (.resting, { (account r).2 with trail := [] })

def step (plan : Plan) (cal : Calibration) : Stage → Station σ → Stage × Station σ
  | .resting, s =>
    match ask plan s with
    | .ok true s => (.ready, s)
    | .ok false s => settled (.ok .notReady s)
    | .error e s => settled (.error e s)
  | .ready, s =>
    match clear plan s with
    | .ok _ s => (.reading 0, s)
    | .error e s => settled (.error e s)
  | .reading i, s =>
    if i < 28672 then
      match fetchWords plan.waveformOffset 1 i s with
      | .ok _ s => (.reading (i + 1), s)
      | .error e s => settled (.error e s)
    else settled (finish cal s)

def Steps (plan : Plan) (cal : Calibration) : Stage × Station σ → Stage × Station σ → Prop :=
  Relation.ReflTransGen fun p q => q = step plan cal p.1 p.2

lemma Steps.head {p q : Stage × Station σ} (h : Steps plan cal (step plan cal p.1 p.2) q) : Steps plan cal p q :=
  Relation.ReflTransGen.head rfl h

lemma settled_acquire (plan : Plan) (cal : Calibration) (s : Station σ) :
    settled (acquire plan cal s) = (.resting, (iterate plan cal s).2) := rfl

lemma filled_add (s : Station σ) (offset : UInt32) (n i : Nat)
    (h : (Transport.readWords offset 1 i s.buffers.bytes s.bus).outcome = .ok ()) :
    s.filled offset (1 + n) i = (s.filled offset 1 i).filled offset n (i + 1) := by
  have hr := Transport.readWords_add offset 1 n i s.buffers.bytes s.bus
  rw [h] at hr
  simp only [filled, hr]

lemma fetchWords_add (offset : UInt32) (n i : Nat) (s : Station σ) : fetchWords offset (1 + n) i s =
    match fetchWords offset 1 i s with
    | .ok _ s => fetchWords offset n (i + 1) s
    | .error e s => .error e s := by
  have hr := Transport.readWords_add offset 1 n i s.buffers.bytes s.bus
  have hf := s.filled_add offset n i
  cases ho : (Transport.readWords offset 1 i s.buffers.bytes s.bus).outcome with
  | ok u =>
    rw [ho] at hr
    simp only [fetchWords, ho, hf ho, hr]
    rfl
  | error e =>
    rw [ho] at hr
    simp only [fetchWords, ho, hr, filled]

lemma fetchBytes_eq_fetchWords (offset : UInt32) (s : Station σ) :
    fetchBytes offset s = fetchWords offset 28672 0 s := by
  have hc : checkBulkLength s.buffers.bytes.size = .ok () := by
    rw [s.buffers.size_bytes]
    rfl
  have hr : Transport.readBulk offset s.buffers.bytes s.bus =
      Transport.readWords offset 28672 0 s.buffers.bytes s.bus := by
    rw [Transport.readBulk, hc, s.buffers.size_bytes]
  cases ho : (Transport.readWords offset 28672 0 s.buffers.bytes s.bus).outcome with
  | ok u => simp only [fetchBytes_eq, fetchWords, filled, Buffers.fetched, hr, ho]
  | error e => simp only [fetchBytes_eq, fetchWords, filled, Buffers.fetched, hr, ho]

lemma steps_of_reading (h : i + n = 28672) : Steps plan cal (.reading i, s)
    (settled ((do fetchWords plan.waveformOffset n i; finish cal : StationM σ CycleOutcome) s)) := by
  induction n generalizing i s with
  | zero =>
    have hs : step plan cal (.reading i) s = settled (finish cal s) := if_neg (by omega)
    exact .single hs.symm
  | succ n ih =>
    have hs : step plan cal (.reading i) s =
        match fetchWords plan.waveformOffset 1 i s with
        | .ok _ s => (.reading (i + 1), s)
        | .error e s => settled (.error e s) := if_pos (by omega)
    have ha := fetchWords_add plan.waveformOffset n i s
    rw [Nat.add_comm] at ha
    apply Steps.head
    simp only [bind, EStateM.bind, ha, hs]
    cases hf : fetchWords plan.waveformOffset 1 i s with
    | ok u t => exact ih (by omega)
    | error e t => exact .refl

lemma steps_of_ready : Steps plan cal (.ready, s)
    (settled ((do clear plan; exchange plan cal : StationM σ CycleOutcome) s)) := by
  have hs : step plan cal .ready s =
      match clear plan s with
      | .ok _ s => (.reading 0, s)
      | .error e s => settled (.error e s) := rfl
  apply Steps.head
  simp only [bind, EStateM.bind, hs]
  cases hc : clear plan s with
  | ok u t =>
    have he : exchange plan cal t =
        (do fetchWords plan.waveformOffset 28672 0; finish cal : StationM σ CycleOutcome) t := by
      simp only [exchange, bind, EStateM.bind, fetchBytes_eq_fetchWords]
      rfl
    dsimp only
    rw [he]
    exact steps_of_reading rfl
  | error e t => exact .refl

lemma ask_unasked (h : plan.handshake = false) (s : Station σ) : ask plan s = .ok true (s.atFetch s.bus) := by
  simp only [ask, h]
  rfl

lemma ask_asked (h : plan.handshake = true) (s : Station σ) : ask plan s =
    match Transport.readWord .u32 readyOffset s.bus with
    | .ok ready bus => .ok (ready != 0) (s.atFetch bus)
    | .error e bus => .error (.transport e) (s.atFetch bus) := by
  have he : enter .fetching s = .ok () (s.atFetch s.bus) := rfl
  simp only [ask, h, if_true, bind, EStateM.bind, he, access_eq]
  simp only [atFetch]
  cases Transport.readWord .u32 readyOffset s.bus <;> rfl

lemma clear_unasked (h : plan.handshake = false) (s : Station σ) : clear plan s = .ok () s := by
  simp only [clear, h]
  rfl

lemma clear_asked (h : plan.handshake = true) (s : Station σ) : clear plan s =
    match Transport.writeWord .u32 readyOffset 0 s.bus with
    | .ok _ bus => .ok () { s with bus }
    | .error e bus => .error (.transport e) { s with bus } := by
  simp only [clear, h, if_true, access_eq]
  cases Transport.writeWord .u32 readyOffset 0 s.bus <;> rfl

lemma acquire_eq_ask (plan : Plan) (cal : Calibration) (s : Station σ) : acquire plan cal s =
    match ask plan s with
    | .ok true t => (do clear plan; exchange plan cal : StationM σ CycleOutcome) t
    | .ok false t => .ok .notReady t
    | .error e t => .error e t := by
  rw [acquire_eq]
  cases h : plan.handshake with
  | false => simp only [handshake_unasked h, ask_unasked h, bind, EStateM.bind, clear_unasked h]
  | true =>
    simp only [handshake_asked h, ask_asked h, atFetch]
    cases Transport.readWord .u32 readyOffset s.bus with
    | error e bus => rfl
    | ok ready read =>
      by_cases hr : ready = 0
      · simp only [hr, if_true, bne_self_eq_false]
      · simp only [hr, if_false, bne_iff_ne.mpr hr, bind, EStateM.bind, clear_asked h]
        cases Transport.writeWord .u32 readyOffset 0 read <;> rfl

theorem steps_iterate (plan : Plan) (cal : Calibration) (s : Station σ) :
    Steps plan cal (.resting, s) (.resting, (iterate plan cal s).2) := by
  have hs : step plan cal .resting s =
      match ask plan s with
      | .ok true s => (.ready, s)
      | .ok false s => settled (.ok .notReady s)
      | .error e s => settled (.error e s) := rfl
  rw [← settled_acquire, acquire_eq_ask]
  apply Steps.head
  simp only [hs]
  rcases ask plan s with ⟨_ | _, t⟩ | ⟨e, t⟩
  · exact .refl
  · exact steps_of_ready
  · exact .refl

end Station

end RfBoard
