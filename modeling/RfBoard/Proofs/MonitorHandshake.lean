import RfBoard.Monitor.Basic
import RfBoard.Proofs.CycleSteps
import RfBoard.Proofs.History
import RfBoard.Proofs.ReadyWord
import RfBoard.Proofs.Recorder

/-!
A monitor and the acquisition of its simulated board. The ready word is set in answer to a frame and a frame is
made in answer to the ready word, so there is one token that goes round.
-/

namespace RfBoard

lemma RegisterMap.standard_below_ready : ∀ r ∈ standard, r.isWritable = true → r.name ≠ "state_wr_reg" →
    r.offset.toNat + r.width.bytes ≤ 280 := by decide +kernel

namespace Station

open SimBoard

inductive Due : UInt32 → Stage → Prop
  | set {v : UInt32} : v ≠ 0 → Due v .resting
  | seen {v : UInt32} : v ≠ 0 → Due v .ready
  | read {i : Nat} : Due 0 (.reading i)

inductive Carried (s : Station SimBoard) : Stage × Station SimBoard → Prop
  | due {v : UInt32} {stage : Stage} {t : Station SimBoard} : Holding v t.bus → Due v stage →
      t.listeners = s.listeners → t.store = s.store → Carried s (stage, t)
  | published {t : Station SimBoard} {frame : Frame} : Holding 0 t.bus →
      t.listeners = s.listeners.notify (.published frame) → t.store = (s.store.publish frame).1 →
      Carried s (.resting, t)

variable {plan : Plan} {s : Station SimBoard} {stage : Stage} {v : UInt32} {name : String}

lemma holding_set (cal : Calibration) (h : Holding v s.bus) (hn : name ≠ "state_wr_reg") (x : ParamValue) :
    Holding v (perform (writeParameter (.standard cal) name x) s).2.bus := by
  refine writeParameter_preserves (P := Holding v) ?_ ?_ x h
  · intro r raw bus bus' ht hw hb
    obtain ⟨_, hp, _, rfl⟩ := SimBoard.write_ok hw
    have hr := RegisterMap.standard_below_ready r (List.mem_of_find?_eq_some ht.found) ht.writable (ht.name_eq ▸ hn)
    have hd : r.offset.toNat + r.width.bytes ≤ readyOffset.toNat := hr.trans (by decide)
    refine holding_of_word hp.counted ?_ ?_
    · rw [Window.size_written, hb.size]
    · rw [Window.word_written_of_disjoint (.inl hd), hb.word]
  · intro r raw e bus bus' _ he hb
    exact hb.of_window (write_passes hb.passes he) (SimBoard.write_error he)

lemma kept_set (setup : Setup) (name : String) (x : ParamValue) (s : Station SimBoard) :
    (perform (writeParameter setup name x) s).2.listeners = s.listeners ∧
      (perform (writeParameter setup name x) s).2.store.publications = s.store.publications := by
  have hx := writeParameter_exit setup name x s
  rw [perform]
  generalize writeParameter setup name x s = res at hx
  cases hx <;> exact ⟨rfl, rfl⟩

lemma iterate_idle (cal : Calibration) (hh : plan.handshake = true) (h : Holding 0 s.bus) :
    (iterate plan cal s).1 = .ok .notReady := by
  rw [iterate, acquire_of_zero hh h.read.1]
  rfl

lemma iterate_ready (cal : Calibration) (hh : plan.handshake = true)
    (hf : plan.waveformOffset.toNat + 114688 ≤ windowSize) (h : Holding v s.bus) (hv : v ≠ 0) :
    (∃ cycle faults, (iterate plan cal s).1 = .ok (.published cycle faults)) ∧
      (iterate plan cal s).2.store.publications = s.store.publications + 1 := by
  have hs : windowSize = 393216 := rfl
  have hsize := s.buffers.size_bytes
  obtain ⟨bus, hw, hb⟩ := h.read.2.clear
  have hfit : bus.window.Fits plan.waveformOffset s.buffers.bytes.size := by
    rwa [Window.Fits, hb.size, hsize]
  have ho : (Transport.readBulk plan.waveformOffset s.buffers.bytes bus).outcome = .ok () :=
    readBulk_of_passes hb.passes (by omega) hfit (by omega)
  obtain ⟨raw, _, ha⟩ := acquire_published cal (.cleared hh h.read.1 hv hw) ho
  rw [iterate, ha]
  exact ⟨⟨_, _, rfl⟩, rfl⟩

lemma step_idle (cal : Calibration) (hh : plan.handshake = true) (h : Holding 0 s.bus) :
    ∃ t, step plan cal .resting s = (.resting, t) ∧ Holding 0 t.bus ∧ t.listeners = s.listeners ∧ t.store = s.store := by
  have ha : ask plan s = .ok false (s.atFetch s.bus.counted) := by
    simp only [ask_asked hh, h.read.1, bne_self_eq_false]
  rw [step, ha]
  exact ⟨_, rfl, h.read.2, rfl, rfl⟩

lemma finish_published (cal : Calibration) (s : Station SimBoard) : ∃ cycle faults frame t,
    finish cal s = .ok (.published cycle faults) t ∧ t.bus = s.bus ∧
      t.listeners = s.listeners.notify (.published frame) ∧ t.store = (s.store.publish frame).1 := by
  obtain ⟨raw, hr⟩ := RawWaveform.ofBytes_of_size s.buffers.size_bytes
  simp only [finish, bind, EStateM.bind, decodeBytes_of_ofBytes hr]
  exact ⟨_, _, _, _, rfl, rfl, rfl, rfl⟩

lemma step_due (cal : Calibration) (hh : plan.handshake = true) (hf : plan.waveformOffset.toNat + 114688 ≤ windowSize)
    (h : Holding v s.bus) (hd : Due v stage) : Carried s (step plan cal stage s) := by
  cases hd with
  | set hv =>
    have ha : ask plan s = .ok true (s.atFetch s.bus.counted) := by
      simp only [ask_asked hh, h.read.1, bne_iff_ne.mpr hv]
    rw [step, ha]
    exact .due h.read.2 (.seen hv) rfl rfl
  | seen hv =>
    obtain ⟨bus, hw, hb⟩ := h.clear
    have hc : clear plan s = .ok () { s with bus } := by simp only [clear_asked hh, hw]
    rw [step, hc]
    exact .due hb .read rfl rfl
  | @read i =>
    rw [step]
    split
    · have ho := h.word_read (by omega : plan.waveformOffset.toNat + 4 * (i + 1) ≤ windowSize) s.buffers.bytes
      have hb := h.readWords plan.waveformOffset 1 i s.buffers.bytes
      have hw : fetchWords plan.waveformOffset 1 i s = .ok () (s.filled plan.waveformOffset 1 i) := by
        rw [fetchWords, ho]
      rw [hw]
      exact .due hb .read rfl rfl
    · obtain ⟨cycle, faults, frame, t, hs, hb, hl, ht⟩ := finish_published cal s
      rw [hs]
      exact .published (hb ▸ h) hl ht

end Station

namespace Monitor

def raise (handshake : Bool) (board : SimBoard) : SimBoard :=
  if handshake then board.poke Station.readyOffset 1 else board

lemma refresh_eq (handshake : Bool) (cycle : UInt64) (board : SimBoard) :
    refresh handshake cycle board = raise handshake (board.loadWaveform (.pulse cycle)) := rfl

def listening (frames : List Frame) : Listeners where
  all := #[.queue { capacity := queueCapacity, frames }]
  attached := [0]

lemma notify_listening (frame : Frame) : (listening []).notify (.published frame) = listening [frame] := rfl

lemma queue?_listening (frames : List Frame) :
    (listening frames).queue? 0 = some { capacity := queueCapacity, frames } := rfl

inductive Point where
  | setting
  | waiting
  | received (cycle : UInt64)
  | loaded
  | ended

def Point.IsAnswering : Point → Prop
  | received _ => True
  | loaded => True
  | _ => False

end Monitor

structure Interplay where
  station : Station SimBoard
  stage : Stage := .resting
  monitor : Monitor.Point := .setting
  unheard : Nat := 0

namespace Interplay

def start (plan : Plan) (probeIndex : Int64) : Interplay where
  station := {
    bus := Monitor.refresh plan.handshake 0 (SimBoard.ofSize SimBoard.windowSize)
    store := { probeIndex } }

def acquire (plan : Plan) (cal : Calibration) (w : Interplay) : Interplay :=
  let (stage, station) := Station.step plan cal w.stage w.station
  { w with stage, station }

def set (cal : Calibration) (name : String) (v : ParamValue) (w : Interplay) : Interplay :=
  match Station.perform (Station.writeParameter (.standard cal) name v) w.station with
  | (.ok _, station) => { w with station }
  | (.error _, station) => { w with station, monitor := .ended }

def attach (w : Interplay) : Interplay where
  station := { w.station with
    listeners := w.station.listeners.attach (.queue { capacity := Monitor.queueCapacity }) }
  stage := w.stage
  monitor := .waiting
  unheard := w.station.store.publications

def receive (frame : Frame) (q : FrameQueue) (w : Interplay) : Interplay :=
  { w with
    station := { w.station with listeners := w.station.listeners.setQueue 0 q }
    monitor := .received frame.cycle }

def onBoard (f : SimBoard → SimBoard) (m : Monitor.Point) (w : Interplay) : Interplay :=
  { w with station := w.station.changeBoard f, monitor := m }

def load (cycle : UInt64) : Interplay → Interplay := onBoard (·.loadWaveform (.pulse cycle)) .loaded

def raise (plan : Plan) : Interplay → Interplay := onBoard (Monitor.raise plan.handshake) .waiting

inductive Step (plan : Plan) (cal : Calibration) (w : Interplay) : Interplay → Prop
  | acquire : Step plan cal w (w.acquire plan cal)
  | set {name : String} (v : ParamValue) : w.monitor = .setting → name ≠ "state_wr_reg" →
      Step plan cal w (w.set cal name v)
  | attach : w.monitor = .setting → Step plan cal w w.attach
  | receive {frame : Frame} {q q' : FrameQueue} : w.monitor = .waiting → w.station.listeners.queue? 0 = some q →
      q.receive = (some frame, q') → Step plan cal w (w.receive frame q')
  | load {cycle : UInt64} : w.monitor = .received cycle → Step plan cal w (w.load cycle)
  | raise : w.monitor = .loaded → Step plan cal w (w.raise plan)

def Reaches (plan : Plan) (cal : Calibration) : Interplay → Interplay → Prop := Relation.ReflTransGen (Step plan cal)

def ready (w : Interplay) : UInt32 := w.station.bus.peek Station.readyOffset

def queued (w : Interplay) : List Frame := (w.station.listeners.queue? 0).elim [] (·.frames)

open SimBoard Station Monitor

structure Same (w w' : Interplay) : Prop where
  monitor : w'.monitor = w.monitor
  listeners : w'.station.listeners = w.station.listeners
  publications : w'.station.store.publications = w.station.store.publications
  unheard : w'.unheard = w.unheard

inductive Expects (w : Interplay) : Prop
  | early : w.monitor = .setting → w.station.listeners = {} → w.station.store.publications = 0 → w.unheard = 0 →
      Expects w
  | listening : w.monitor = .waiting → w.station.listeners = listening [] → w.unheard = 0 → Expects w

inductive Rests (w : Interplay) : Prop
  | missed : w.monitor = .setting → w.station.listeners = {} → 0 < w.station.store.publications → Rests w
  | queued {frame : Frame} : w.monitor = .waiting → w.station.listeners = listening [frame] → w.unheard = 0 → Rests w
  | answered : w.monitor.IsAnswering → w.station.listeners = listening [] → w.unheard = 0 → Rests w
  | stalled : w.monitor = .waiting → w.station.listeners = listening [] → 0 < w.unheard → Rests w

inductive Accord (w : Interplay) : Prop
  | due {v : UInt32} : Holding v w.station.bus → Due v w.stage → w.Expects → Accord w
  | idle : Holding 0 w.station.bus → w.stage = .resting → w.Rests → Accord w
  | ended : w.monitor = .ended → Accord w

variable {plan : Plan} {cal : Calibration} {w w' : Interplay} {name : String} {frame : Frame} {cycle : UInt64}
  {q q' : FrameQueue}

lemma Expects.same (h : w.Expects) (hs : Same w w') : w'.Expects := by
  cases h with
  | early hm hl hp hu =>
    exact .early (hs.monitor.trans hm) (hs.listeners.trans hl) (hs.publications.trans hp) (hs.unheard.trans hu)
  | listening hm hl hu => exact .listening (hs.monitor.trans hm) (hs.listeners.trans hl) (hs.unheard.trans hu)

lemma Rests.same (h : w.Rests) (hs : Same w w') : w'.Rests := by
  cases h with
  | missed hm hl hp => exact .missed (hs.monitor.trans hm) (hs.listeners.trans hl) (hp.trans_eq hs.publications.symm)
  | queued hm hl hu => exact .queued (hs.monitor.trans hm) (hs.listeners.trans hl) (hs.unheard.trans hu)
  | answered hm hl hu => exact .answered (hs.monitor ▸ hm) (hs.listeners.trans hl) (hs.unheard.trans hu)
  | stalled hm hl hu => exact .stalled (hs.monitor.trans hm) (hs.listeners.trans hl) (hu.trans_eq hs.unheard.symm)

lemma holding_start (hh : plan.handshake = true) (probeIndex : Int64) :
    Holding 1 (start plan probeIndex).station.bus := by
  simp only [start, refresh_eq, Monitor.raise, hh, if_true]
  exact (holding_ofSize.loadWaveform _).poke 1

lemma accord_start (hh : plan.handshake = true) (probeIndex : Int64) : Accord (start plan probeIndex) :=
  .due (holding_start hh probeIndex) (.set (by decide)) (.early rfl rfl rfl rfl)

lemma listening_attach (h : w.station.listeners = {}) : w.attach.station.listeners = listening [] := by
  rw [attach, h]
  rfl

lemma acquire_idle (cal : Calibration) (hh : plan.handshake = true) (hb : Holding 0 w.station.bus)
    (hs : w.stage = .resting) : Holding 0 (w.acquire plan cal).station.bus ∧ (w.acquire plan cal).stage = .resting ∧
      (w.acquire plan cal).station.store = w.station.store ∧ Same w (w.acquire plan cal) := by
  obtain ⟨t, ht, hb', hl, hst⟩ := step_idle cal hh hb
  rw [acquire, hs, ht]
  exact ⟨hb', rfl, hst, ⟨rfl, hl, by rw [hst], rfl⟩⟩

lemma acquire_due (cal : Calibration) (hh : plan.handshake = true)
    (hf : plan.waveformOffset.toNat + 114688 ≤ windowSize) {v : UInt32} (hb : Holding v w.station.bus)
    (hd : Due v w.stage) (he : w.Expects) : Accord (w.acquire plan cal) := by
  have hc := step_due cal hh hf hb hd
  rw [acquire]
  generalize step plan cal w.stage w.station = r at hc
  cases hc with
  | due hb' hd' hl ht => exact .due hb' hd' (he.same ⟨rfl, hl, by rw [ht], rfl⟩)
  | published hb' hl ht =>
    refine .idle hb' rfl ?_
    cases he with
    | early hm hl' _ _ =>
      rw [hl'] at hl
      exact .missed hm hl (ht ▸ Nat.succ_pos _)
    | listening hm hl' hu =>
      rw [hl', notify_listening] at hl
      exact .queued hm hl hu

lemma Accord.acquire (h : Accord w) (hh : plan.handshake = true)
    (hf : plan.waveformOffset.toNat + 114688 ≤ windowSize) : Accord (w.acquire plan cal) := by
  cases h with
  | due hb hd he => exact acquire_due cal hh hf hb hd he
  | idle hb hs hr =>
    obtain ⟨hb', hs', _, hsame⟩ := acquire_idle cal hh hb hs
    exact .idle hb' hs' (hr.same hsame)
  | ended hm => exact .ended hm

lemma Accord.set (h : Accord w) (hn : name ≠ "state_wr_reg") (x : ParamValue) : Accord (w.set cal name x) := by
  obtain ⟨hl, hp⟩ := kept_set (.standard cal) name x w.station
  have hb {v : UInt32} (hb : Holding v w.station.bus) := holding_set cal hb hn x
  rw [Interplay.set]
  generalize perform (writeParameter (.standard cal) name x) w.station = res at hl hp hb
  obtain ⟨_ | _, t⟩ := res
  · exact .ended rfl
  · have hsame : Same w { w with station := t } := ⟨rfl, hl, hp, rfl⟩
    cases h with
    | due hv hd he => exact .due (hb hv) hd (he.same hsame)
    | idle hv hs hr => exact .idle (hb hv) hs (hr.same hsame)
    | ended hm => exact .ended hm

lemma Accord.attach (h : Accord w) (hm : w.monitor = .setting) : Accord w.attach := by
  cases h with
  | due hb hd he =>
    cases he with
    | early _ hl hp _ => exact .due hb hd (.listening rfl (listening_attach hl) hp)
    | listening hm' _ _ => cases hm.symm.trans hm'
  | idle hb hs hr =>
    cases hr with
    | missed _ hl hp => exact .idle hb hs (.stalled rfl (listening_attach hl) hp)
    | answered ha _ _ =>
      rw [hm] at ha
      exact ha.elim
    | queued hm' _ _ | stalled hm' _ _ => cases hm.symm.trans hm'
  | ended hm' => cases hm.symm.trans hm'

structure Stalled (w : Interplay) : Prop where
  waiting : w.monitor = .waiting
  resting : w.stage = .resting
  holding : Holding 0 w.station.bus
  listening : w.station.listeners = listening []

lemma Accord.of_waiting (h : Accord w) (hm : w.monitor = .waiting) :
    (∃ v, Holding v w.station.bus ∧ Due v w.stage ∧ w.station.listeners = listening [] ∧ w.unheard = 0) ∨
    (∃ frame, Holding 0 w.station.bus ∧ w.stage = .resting ∧ w.station.listeners = listening [frame] ∧
      w.unheard = 0) ∨
    w.Stalled ∧ 0 < w.unheard := by
  cases h with
  | due hb hd he =>
    cases he with
    | early hm' _ _ _ => cases hm.symm.trans hm'
    | listening _ hl hu => exact .inl ⟨_, hb, hd, hl, hu⟩
  | idle hb hs hr =>
    cases hr with
    | queued _ hl hu => exact .inr (.inl ⟨_, hb, hs, hl, hu⟩)
    | stalled _ hl hu => exact .inr (.inr ⟨⟨hm, hs, hb, hl⟩, hu⟩)
    | answered ha _ _ =>
      rw [hm] at ha
      exact ha.elim
    | missed hm' _ _ => cases hm.symm.trans hm'
  | ended hm' => cases hm.symm.trans hm'

lemma Accord.of_answering (h : Accord w) (ha : w.monitor.IsAnswering) :
    Holding 0 w.station.bus ∧ w.stage = .resting ∧ w.station.listeners = listening [] ∧ w.unheard = 0 := by
  have hn {m : Point} (hm : w.monitor = m) : m.IsAnswering := hm ▸ ha
  cases h with
  | due _ _ he =>
    cases he with
    | early hm _ _ _ | listening hm _ _ => exact (hn hm).elim
  | idle hb hs hr =>
    cases hr with
    | answered _ hl hu => exact ⟨hb, hs, hl, hu⟩
    | missed hm _ _ | queued hm _ _ | stalled hm _ _ => exact (hn hm).elim
  | ended hm => exact (hn hm).elim

lemma receive_listening {frames : List Frame} (hl : w.station.listeners = listening frames)
    (hq : w.station.listeners.queue? 0 = some q) (hr : q.receive = (some frame, q')) :
    ∃ rest, frames = frame :: rest ∧ (w.receive frame q').station.listeners = listening rest := by
  rw [hl, queue?_listening] at hq
  cases hq
  cases frames with
  | nil => cases hr
  | cons first rest =>
    cases hr
    refine ⟨rest, rfl, ?_⟩
    rw [receive, hl]
    rfl

lemma Accord.receive (h : Accord w) (hm : w.monitor = .waiting) (hq : w.station.listeners.queue? 0 = some q)
    (hr : q.receive = (some frame, q')) : Accord (w.receive frame q') := by
  obtain ⟨_, _, _, hl, _⟩ | ⟨_, hb, hs, hl, hu⟩ | ⟨hst, _⟩ := h.of_waiting hm
  · obtain ⟨_, he, _⟩ := receive_listening hl hq hr
    cases he
  · obtain ⟨_, he, hl'⟩ := receive_listening hl hq hr
    cases he
    exact .idle hb hs (.answered trivial hl' hu)
  · obtain ⟨_, he, _⟩ := receive_listening hst.listening hq hr
    cases he

lemma accord_loaded {f : SimBoard → SimBoard} (hb : Holding 0 (f w.station.bus)) (hs : w.stage = .resting)
    (hl : w.station.listeners = listening []) (hu : w.unheard = 0) : Accord (w.onBoard f .loaded) :=
  .idle hb hs (.answered trivial hl hu)

lemma accord_raised {f : SimBoard → SimBoard} (hb : Holding 1 (f w.station.bus)) (hs : w.stage = .resting)
    (hl : w.station.listeners = listening []) (hu : w.unheard = 0) : Accord (w.onBoard f .waiting) := by
  have hd : Due 1 (w.onBoard f .waiting).stage := by
    rw [onBoard, hs]
    exact .set (by decide)
  exact .due hb hd (.listening rfl hl hu)

lemma Accord.load (h : Accord w) (hm : w.monitor = .received cycle) : Accord (w.load cycle) := by
  have ha : w.monitor.IsAnswering := hm ▸ trivial
  obtain ⟨hb, hs, hl, hu⟩ := h.of_answering ha
  exact accord_loaded (hb.loadWaveform (.pulse cycle)) hs hl hu

lemma Accord.raise (h : Accord w) (hh : plan.handshake = true) (hm : w.monitor = .loaded) : Accord (w.raise plan) := by
  have ha : w.monitor.IsAnswering := hm ▸ trivial
  obtain ⟨hb, hs, hl, hu⟩ := h.of_answering ha
  have hr : Holding 1 (Monitor.raise plan.handshake w.station.bus) := by
    rw [Monitor.raise, if_pos hh]
    exact hb.poke 1
  exact accord_raised hr hs hl hu

lemma Accord.step (h : Accord w) (hh : plan.handshake = true)
    (hf : plan.waveformOffset.toNat + 114688 ≤ windowSize) (hs : Step plan cal w w') : Accord w' := by
  cases hs with
  | acquire => exact h.acquire hh hf
  | set v _ hn => exact h.set hn v
  | attach hm => exact h.attach hm
  | receive hm hq hr => exact h.receive hm hq hr
  | load hm => exact h.load hm
  | raise hm => exact h.raise hh hm

lemma Accord.reaches (h : Accord w) (hh : plan.handshake = true)
    (hf : plan.waveformOffset.toNat + 114688 ≤ windowSize) (hr : Reaches plan cal w w') : Accord w' := by
  induction hr with
  | refl => exact h
  | tail _ hs ih => exact ih.step hh hf hs

lemma Stalled.step (h : w.Stalled) (hh : plan.handshake = true) (hs : Step plan cal w w') :
    w'.Stalled ∧ w'.station.store = w.station.store := by
  have hm := h.waiting
  cases hs with
  | acquire =>
    obtain ⟨hb, hr, hst, hsame⟩ := acquire_idle cal hh h.holding h.resting
    exact ⟨⟨hm, hr, hb, hsame.listeners.trans h.listening⟩, hst⟩
  | set _ hm' _ => cases hm.symm.trans hm'
  | attach hm' => cases hm.symm.trans hm'
  | receive _ hq hr =>
    obtain ⟨_, he, _⟩ := receive_listening h.listening hq hr
    cases he
  | load hm' => cases hm.symm.trans hm'
  | raise hm' => cases hm.symm.trans hm'

lemma Stalled.reaches (h : w.Stalled) (hh : plan.handshake = true) (hr : Reaches plan cal w w') :
    w'.Stalled ∧ w'.station.store = w.station.store := by
  induction hr with
  | refl => exact ⟨h, rfl⟩
  | tail _ hs ih =>
    obtain ⟨hw, ht⟩ := ih.1.step hh hs
    exact ⟨hw, ht.trans ih.2⟩

lemma queued_of_listening {frames : List Frame} (h : w.station.listeners = listening frames) : w.queued = frames := by
  rw [queued, h]
  rfl

lemma reaches_of_steps {p : Stage × Station SimBoard} (m : Point) (n : Nat) {r : Stage × Station SimBoard}
    (h : Steps plan cal p r) : Reaches plan cal ⟨p.2, p.1, m, n⟩ ⟨r.2, r.1, m, n⟩ := by
  refine h.lift (fun p => (⟨p.2, p.1, m, n⟩ : Interplay)) ?_
  rintro p _ rfl
  exact .acquire

lemma exists_stalled (plan : Plan) (cal : Calibration) (probeIndex : Int64) (hh : plan.handshake = true)
    (hf : plan.waveformOffset.toNat + 114688 ≤ windowSize) :
    ∃ w, Reaches plan cal (start plan probeIndex) w ∧ w.Stalled ∧ 0 < w.unheard := by
  have hb := holding_start hh probeIndex
  obtain ⟨_, hp⟩ := iterate_ready cal hh hf hb (by decide)
  -- The first cycle comes to its end while the monitor still makes its settings.
  have hr := reaches_of_steps .setting 0 (steps_iterate plan cal (start plan probeIndex).station)
  generalize (iterate plan cal (start plan probeIndex).station).2 = s at hp hr
  have ha := (accord_start hh probeIndex).reaches hh hf hr
  cases ha with
  | due hb' hd he =>
    cases he with
    | early _ _ hp' _ => cases hp.symm.trans hp'
    | listening hm _ _ => cases hm
  | idle hb' hs' hr' =>
    cases hr' with
    | missed _ hl hp' => exact ⟨_, hr.tail (.attach rfl), ⟨rfl, rfl, hb', listening_attach hl⟩, hp'⟩
    | answered ha _ _ => exact ha.elim
    | queued hm _ _ | stalled hm _ _ => cases hm
  | ended hm => cases hm

lemma Stalled.unanswered (h : w.Stalled) : ¬ (w.ready ≠ 0 ∨ w.queued ≠ []) := by
  rw [ready, h.holding.ready, queued_of_listening h.listening]
  simp

lemma Accord.waiting (h : Accord w) (hm : w.monitor = .waiting) (hs : w.stage = .resting) :
    w.unheard = 0 ∧ (w.ready ≠ 0 ∨ w.queued ≠ []) ∨ 0 < w.unheard ∧ w.Stalled := by
  obtain ⟨_, hb, hd, _, hu⟩ | ⟨_, _, _, hl, hu⟩ | ⟨hst, hu⟩ := h.of_waiting hm
  · rw [hs] at hd
    cases hd with
    | set hv => exact .inl ⟨hu, .inl (by rwa [ready, hb.ready])⟩
  · refine .inl ⟨hu, .inr ?_⟩
    rw [queued_of_listening hl]
    exact List.cons_ne_nil _ _
  · exact .inr ⟨hu, hst⟩

lemma Accord.publishes (h : Accord w) (hh : plan.handshake = true)
    (hf : plan.waveformOffset.toNat + 114688 ≤ windowSize) (hm : w.monitor = .waiting) (hr : w.ready ≠ 0) :
    ∃ cycle faults, (iterate plan cal w.station).1 = .ok (.published cycle faults) := by
  cases h with
  | due hb _ _ =>
    rw [ready, hb.ready] at hr
    exact (iterate_ready cal hh hf hb hr).1
  | idle hb _ _ => exact absurd hb.ready hr
  | ended hm' => cases hm.symm.trans hm'

/-- A monitor that waits while no cycle is in progress has a frame in its queue or a ready word that the next
cycle answers, unless a frame was published before it listened. Then there is neither ever again. -/
theorem waits_in_vain_iff (plan : Plan) (cal : Calibration) (probeIndex : Int64) (hh : plan.handshake = true)
    (hf : plan.waveformOffset.toNat + 114688 ≤ windowSize) (w : Interplay)
    (hw : Reaches plan cal (start plan probeIndex) w) (hm : w.monitor = .waiting) (hs : w.stage = .resting) :
    (w.ready ≠ 0 ∨ w.queued ≠ [] ↔ w.unheard = 0) ∧
    (w.ready ≠ 0 → ∃ cycle faults, (iterate plan cal w.station).1 = .ok (.published cycle faults)) ∧
    (w.unheard ≠ 0 → ∀ w', Reaches plan cal w w' → w'.monitor = .waiting ∧ w'.stage = .resting ∧
      w'.ready = 0 ∧ w'.queued = [] ∧ w'.station.store = w.station.store ∧
      (iterate plan cal w'.station).1 = .ok .notReady) := by
  have ha : Accord w := (accord_start hh probeIndex).reaches hh hf hw
  refine ⟨?_, ha.publishes hh hf hm, fun hu w' hr => ?_⟩
  · obtain ⟨hu, hr⟩ | ⟨hu, hst⟩ := ha.waiting hm hs
    · exact ⟨fun _ => hu, fun _ => hr⟩
    · exact ⟨fun hr => absurd hr hst.unanswered, fun hz => absurd hz hu.ne'⟩
  · obtain ⟨hz, _⟩ | ⟨_, hst⟩ := ha.waiting hm hs
    · exact absurd hz hu
    · obtain ⟨hst', ht⟩ := hst.reaches hh hr
      exact ⟨hst'.waiting, hst'.resting, hst'.holding.ready, queued_of_listening hst'.listening, ht,
        iterate_idle cal hh hst'.holding⟩

def asking : Plan := { handshake := true }

lemma asking_fits : asking.waveformOffset.toNat + 114688 ≤ windowSize := by decide

theorem waits_in_vain_standard : ∃ w v, Reaches asking .standard (start asking 0) w ∧
    w.monitor = .waiting ∧ w.stage = .resting ∧ (w.ready ≠ 0 ∨ w.queued ≠ []) ∧
    Reaches asking .standard (start asking 0) v ∧ v.monitor = .waiting ∧ v.stage = .resting ∧ v.unheard ≠ 0 ∧
    ∀ v', Reaches asking .standard v v' →
      v'.monitor = .waiting ∧ (iterate asking .standard v'.station).1 = .ok .notReady := by
  have hw : Reaches asking .standard (start asking 0) (start asking 0).attach := .single (.attach rfl)
  have hr := (waits_in_vain_iff asking .standard 0 rfl asking_fits _ hw rfl rfl).1.mpr rfl
  obtain ⟨v, hv, hs, hu⟩ := exists_stalled asking .standard 0 rfl asking_fits
  have hn := (waits_in_vain_iff asking .standard 0 rfl asking_fits v hv hs.waiting hs.resting).2.2 hu.ne'
  refine ⟨_, v, hw, rfl, rfl, hr, hv, hs.waiting, hs.resting, hu.ne', fun v' hv' => ?_⟩
  obtain ⟨hm, _, _, _, _, hi⟩ := hn v' hv'
  exact ⟨hm, hi⟩

theorem stalls_after_unheard : ¬ ∀ w, Reaches asking .standard (start asking 0) w →
    w.monitor = .waiting → w.stage = .resting → w.ready ≠ 0 ∨ w.queued ≠ [] := by
  intro h
  obtain ⟨w, hw, hs, _⟩ := exists_stalled asking .standard 0 rfl asking_fits
  exact hs.unanswered (h w hw hs.waiting hs.resting)

end Interplay

end RfBoard
