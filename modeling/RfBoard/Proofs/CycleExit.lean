import RfBoard.Proofs.FrameDerivation
import RfBoard.Proofs.WaveformCodec
import RfBoard.Station.Acquisition

/-!
Every way out of an acquisition cycle, on any transport.
-/

namespace RfBoard

namespace Buffers

variable {σ : Type} [Transport σ]

def fetched (b : Buffers) (offset : UInt32) (bus : σ) : Buffers where
  bytes := (Transport.readBulk offset b.bytes bus).buffer
  raw := b.raw
  spare := b.spare
  size_bytes := (Transport.size_readBulk ..).trans b.size_bytes

end Buffers

namespace Station

variable {σ : Type} [Transport σ]

inductive Cleared (plan : Plan) (bus : σ) : σ → Prop
  | unasked : plan.handshake = false → Cleared plan bus bus
  | cleared {ready : UInt32} {read bus' : σ} : plan.handshake = true →
      Transport.readWord .u32 readyOffset bus = .ok ready read → ready ≠ 0 →
      Transport.writeWord .u32 readyOffset 0 read = .ok () bus' → Cleared plan bus bus'

def nextFrame (cal : Calibration) (s : Station σ) (raw : RawWaveform) : Frame :=
  { raw.derive cal .zero with cycle := s.store.frame.cycle + 1 }

def publishing (cal : Calibration) (raw : RawWaveform) (buffers : Buffers) (bus : σ) (s : Station σ) : Station σ where
  bus
  cache := s.cache
  store := (s.store.publish (s.nextFrame cal raw)).1
  listeners := s.listeners.notify (.published (s.nextFrame cal raw))
  metrics := s.metrics
  buffers := { buffers with raw, spare := s.store.frame }
  trail := .publishing :: .converting :: .fetching :: s.trail

def atFetch (s : Station σ) (bus : σ) : Station σ := { s with bus, trail := .fetching :: s.trail }

inductive CycleExit (plan : Plan) (cal : Calibration) (s : Station σ) :
    EStateM.Result StationError (Station σ) CycleOutcome → Prop
  | unread {e : TransportError} {bus : σ} : plan.handshake = true →
      Transport.readWord .u32 readyOffset s.bus = .error e bus →
      CycleExit plan cal s (.error (.transport e) (s.atFetch bus))
  | notReady {bus : σ} : plan.handshake = true → Transport.readWord .u32 readyOffset s.bus = .ok 0 bus →
      CycleExit plan cal s (.ok .notReady (s.atFetch bus))
  | uncleared {ready : UInt32} {e : TransportError} {read bus : σ} : plan.handshake = true →
      Transport.readWord .u32 readyOffset s.bus = .ok ready read → ready ≠ 0 →
      Transport.writeWord .u32 readyOffset 0 read = .error e bus →
      CycleExit plan cal s (.error (.transport e) (s.atFetch bus))
  | unfetched {e : TransportError} {bus : σ} : Cleared plan s.bus bus →
      (Transport.readBulk plan.waveformOffset s.buffers.bytes bus).outcome = .error e →
      CycleExit plan cal s (.error (.transport e)
        { s.atFetch (Transport.readBulk plan.waveformOffset s.buffers.bytes bus).bus with
          buffers := s.buffers.fetched plan.waveformOffset bus })
  | published {raw : RawWaveform} {bus : σ} : Cleared plan s.bus bus →
      (Transport.readBulk plan.waveformOffset s.buffers.bytes bus).outcome = .ok () →
      RawWaveform.ofBytes (Transport.readBulk plan.waveformOffset s.buffers.bytes bus).buffer = .ok raw →
      CycleExit plan cal s (.ok (.published (s.nextFrame cal raw).cycle (s.nextFrame cal raw).totalFaults)
        (s.publishing cal raw (s.buffers.fetched plan.waveformOffset bus)
          (Transport.readBulk plan.waveformOffset s.buffers.bytes bus).bus))

variable {plan : Plan} {cal : Calibration} {s : Station σ} {bus : σ}

omit [Transport σ] in
lemma access_eq {α : Type} (f : AccessM σ α) (s : Station σ) : access f s =
    match f s.bus with
    | .ok a bus => .ok a { s with bus }
    | .error e bus => .error (.transport e) { s with bus } := rfl

lemma fetchBytes_eq (offset : UInt32) (s : Station σ) : fetchBytes offset s =
    match (Transport.readBulk offset s.buffers.bytes s.bus).outcome with
    | .ok _ => .ok () { s with
        bus := (Transport.readBulk offset s.buffers.bytes s.bus).bus
        buffers := s.buffers.fetched offset s.bus }
    | .error e => .error (.transport e) { s with
        bus := (Transport.readBulk offset s.buffers.bytes s.bus).bus
        buffers := s.buffers.fetched offset s.bus } := by
  obtain ⟨bus, cache, store, listeners, metrics, ⟨bytes, raw, spare, size⟩, trail⟩ := s
  rw [fetchBytes]
  split
  · rename_i hb _
    simp only [Buffers.fetched, hb]
  · rename_i hb _
    simp only [Buffers.fetched, hb]

omit [Transport σ] in
lemma decodeBytes_eq (s : Station σ) : decodeBytes s =
    match RawWaveform.decodeInto s.buffers.bytes s.buffers.raw with
    | .ok _ raw => .ok () { s with buffers := { s.buffers with raw } }
    | .error e raw => .error (.request e) { s with buffers := { s.buffers with raw } } := by
  rw [RawWaveform.decodeInto_eq, ← s.buffers.raw.refill_eq, decodeBytes]
  cases s.buffers.raw.refill s.buffers.bytes <;> rfl

omit [Transport σ] in
lemma decodeBytes_of_ofBytes {raw : RawWaveform} (h : RawWaveform.ofBytes s.buffers.bytes = .ok raw) :
    decodeBytes s = .ok () { s with buffers := { s.buffers with raw } } := by
  rw [decodeBytes_eq, RawWaveform.decodeInto_eq, h]

def exchange (plan : Plan) (cal : Calibration) : StationM σ CycleOutcome := do
  fetchBytes plan.waveformOffset
  decodeBytes
  enter .converting
  deriveFrame cal
  enter .publishing
  publishSpare

lemma exchange_of_error {e : TransportError}
    (h : (Transport.readBulk plan.waveformOffset s.buffers.bytes s.bus).outcome = .error e) :
    exchange plan cal s = .error (.transport e) { s with
      bus := (Transport.readBulk plan.waveformOffset s.buffers.bytes s.bus).bus
      buffers := s.buffers.fetched plan.waveformOffset s.bus } := by
  simp only [exchange, bind, EStateM.bind, fetchBytes_eq, h]

lemma exchange_of_ok {raw : RawWaveform}
    (h : (Transport.readBulk plan.waveformOffset s.buffers.bytes bus).outcome = .ok ())
    (hr : RawWaveform.ofBytes (Transport.readBulk plan.waveformOffset s.buffers.bytes bus).buffer = .ok raw) :
    exchange plan cal (s.atFetch bus) =
      .ok (.published (s.nextFrame cal raw).cycle (s.nextFrame cal raw).totalFaults)
        (s.publishing cal raw (s.buffers.fetched plan.waveformOffset bus)
          (Transport.readBulk plan.waveformOffset s.buffers.bytes bus).bus) := by
  have hn := raw.derive_withCycle cal s.buffers.spare .zero (s.store.frame.cycle + 1)
  simp only [exchange, bind, EStateM.bind, fetchBytes_eq, atFetch, h, decodeBytes, Buffers.fetched,
    RawWaveform.refill_eq, hr]
  simp only [enter, deriveFrame, publishSpare, modify, modifyGet, MonadStateOf.modifyGet, EStateM.modifyGet,
    reduceCtorEq, if_false, hn, publishing, nextFrame]
  rfl

lemma handshake_unasked (h : plan.handshake = false) : handshake plan s = .ok true s := by
  simp only [handshake, h]
  rfl

lemma handshake_asked (h : plan.handshake = true) : handshake plan s =
    match Transport.readWord .u32 readyOffset s.bus with
    | .error e bus => .error (.transport e) { s with bus }
    | .ok ready read =>
      if ready = 0 then .ok false { s with bus := read }
      else
        match Transport.writeWord .u32 readyOffset 0 read with
        | .error e bus => .error (.transport e) { s with bus }
        | .ok _ bus => .ok true { s with bus } := by
  simp only [handshake, h, if_true, bind, EStateM.bind, access_eq]
  cases Transport.readWord .u32 readyOffset s.bus with
  | error e bus => rfl
  | ok ready read =>
    by_cases hr : ready = 0
    · simp only [hr, if_true]
      rfl
    · simp only [hr, if_false, EStateM.bind, access_eq]
      cases Transport.writeWord .u32 readyOffset 0 read <;> rfl

lemma acquire_eq : acquire plan cal s =
    match handshake plan (s.atFetch s.bus) with
    | .error e s => .error e s
    | .ok false s => .ok .notReady s
    | .ok true s => exchange plan cal s := by
  have he : enter .fetching s = .ok () (s.atFetch s.bus) := rfl
  simp only [acquire, bind, EStateM.bind, he]
  rcases handshake plan (s.atFetch s.bus) with ⟨_ | _, s'⟩ | ⟨e, s'⟩ <;> rfl

lemma acquire_of_cleared (h : Cleared plan s.bus bus) :
    acquire plan cal s = exchange plan cal (s.atFetch bus) := by
  rw [acquire_eq]
  cases h with
  | unasked hh => rw [handshake_unasked hh]
  | cleared hh hr hn hw => simp only [handshake_asked hh, atFetch, hr, if_neg hn, hw]

lemma acquire_unread {e : TransportError} (h : plan.handshake = true)
    (hr : Transport.readWord .u32 readyOffset s.bus = .error e bus) :
    acquire plan cal s = .error (.transport e) (s.atFetch bus) := by
  simp only [acquire_eq, handshake_asked h, atFetch, hr]

lemma acquire_of_zero {read : σ} (h : plan.handshake = true)
    (hr : Transport.readWord .u32 readyOffset s.bus = .ok 0 read) :
    acquire plan cal s = .ok .notReady (s.atFetch read) := by
  simp only [acquire_eq, handshake_asked h, atFetch, hr, if_true]

lemma acquire_published (cal : Calibration) (h : Cleared plan s.bus bus)
    (ho : (Transport.readBulk plan.waveformOffset s.buffers.bytes bus).outcome = .ok ()) :
    ∃ raw, RawWaveform.ofBytes (Transport.readBulk plan.waveformOffset s.buffers.bytes bus).buffer = .ok raw ∧
      acquire plan cal s = .ok (.published (s.nextFrame cal raw).cycle (s.nextFrame cal raw).totalFaults)
        (s.publishing cal raw (s.buffers.fetched plan.waveformOffset bus)
          (Transport.readBulk plan.waveformOffset s.buffers.bytes bus).bus) := by
  obtain ⟨raw, hr⟩ := RawWaveform.ofBytes_of_size (s.buffers.fetched plan.waveformOffset bus).size_bytes
  exact ⟨raw, hr, (acquire_of_cleared h).trans (exchange_of_ok ho hr)⟩

lemma acquire_unfetched {e : TransportError} (cal : Calibration) (h : Cleared plan s.bus bus)
    (ho : (Transport.readBulk plan.waveformOffset s.buffers.bytes bus).outcome = .error e) :
    acquire plan cal s = .error (.transport e)
      { s.atFetch (Transport.readBulk plan.waveformOffset s.buffers.bytes bus).bus with
        buffers := s.buffers.fetched plan.waveformOffset bus } :=
  (acquire_of_cleared h).trans (exchange_of_error (s := s.atFetch bus) ho)

lemma exit_of_cleared (cal : Calibration) (h : Cleared plan s.bus bus) : CycleExit plan cal s (acquire plan cal s) := by
  cases ho : (Transport.readBulk plan.waveformOffset s.buffers.bytes bus).outcome with
  | error e =>
    rw [acquire_unfetched cal h ho]
    exact .unfetched h ho
  | ok u =>
    obtain ⟨raw, hr, ha⟩ := acquire_published cal h ho
    rw [ha]
    exact .published h ho hr

theorem acquire_exit (plan : Plan) (cal : Calibration) (s : Station σ) : CycleExit plan cal s (acquire plan cal s) := by
  cases hh : plan.handshake with
  | false => exact exit_of_cleared cal (.unasked hh)
  | true =>
    cases hr : Transport.readWord .u32 readyOffset s.bus with
    | error e bus =>
      rw [acquire_unread hh hr]
      exact .unread hh hr
    | ok ready read =>
      by_cases hn : ready = 0
      · subst hn
        rw [acquire_of_zero hh hr]
        exact .notReady hh hr
      · cases hw : Transport.writeWord .u32 readyOffset 0 read with
        | error e bus =>
          simp only [acquire_eq, handshake_asked hh, atFetch, hr, if_neg hn, hw]
          exact .uncleared hh hr hn hw
        | ok u bus => exact exit_of_cleared cal (.cleared hh hr hn hw)

end Station

end RfBoard
