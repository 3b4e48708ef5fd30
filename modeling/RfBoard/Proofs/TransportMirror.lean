import RfBoard.Proofs.ParameterExit

/-!
Transports that mirror each other, of which one may cut an access short.
-/

namespace RfBoard

/-- The same end in related states, or the first of the two cut short by `d`, which only `C` allows. -/
inductive SameEnd {ε α σ τ : Type} (C : Prop) (d : ε) (R : σ → τ → Prop) :
    EStateM.Result ε σ α → EStateM.Result ε τ α → Prop
  | ok {a : α} {s : σ} {t : τ} : R s t → SameEnd C d R (.ok a s) (.ok a t)
  | error {e : ε} {s : σ} {t : τ} : e ≠ d → R s t → SameEnd C d R (.error e s) (.error e t)
  | cut {s : σ} {r : EStateM.Result ε τ α} : C → SameEnd C d R (.error d s) r

variable {σ τ α β : Type} [Transport σ] [Transport τ] {C : Prop} {d : DeviceError} {R : σ → τ → Prop}

structure Mirrors (C : Prop) (d : DeviceError) (R : σ → τ → Prop) : Prop where
  readWord {width : Width} {offset : UInt32} {b : σ} {c : τ} : R b c →
    SameEnd C (.device d) R (Transport.readWord width offset b) (Transport.readWord width offset c)
  writeWord {width : Width} {offset value : UInt32} {b : σ} {c : τ} : R b c →
    SameEnd C (.device d) R (Transport.writeWord width offset value b) (Transport.writeWord width offset value c)

namespace Mirrors

open Transport

variable {width : Width} {offset value : UInt32} {n i : Nat} {buffer : Bytes} {b : σ} {c : τ}

lemma write (m : Mirrors C d R) (h : R b c) :
    SameEnd C (.device d) R (Transport.write width offset value b) (Transport.write width offset value c) := by
  rw [Transport.write, Transport.write]
  split
  · exact m.writeWord h
  · exact .error (by simp) h

inductive SameFill (C : Prop) (d : DeviceError) (R : σ → τ → Prop) : Filled σ → Filled τ → Prop
  | ok {buffer : Bytes} {b : σ} {c : τ} : R b c → SameFill C d R ⟨.ok (), buffer, b⟩ ⟨.ok (), buffer, c⟩
  | error {e : TransportError} {buffer : Bytes} {b : σ} {c : τ} : e ≠ .device d → R b c →
      SameFill C d R ⟨.error e, buffer, b⟩ ⟨.error e, buffer, c⟩
  | cut {buffer : Bytes} {b : σ} {g : Filled τ} : C → SameFill C d R ⟨.error (.device d), buffer, b⟩ g

lemma readWords (m : Mirrors C d R) (h : R b c) :
    SameFill C d R (Transport.readWords offset n i buffer b) (Transport.readWords offset n i buffer c) := by
  induction n generalizing i buffer b c with
  | zero => exact .ok h
  | succ n ih =>
    rw [Transport.readWords, Transport.readWords]
    cases wordAddress? offset i with
    | none => exact .error (by simp) h
    | some address =>
      have hr : SameEnd C (.device d) R (Transport.readWord .u32 address b) (Transport.readWord .u32 address c) :=
        m.readWord h
      dsimp only
      generalize Transport.readWord .u32 address b = x, Transport.readWord .u32 address c = y at hr
      cases hr with
      | ok hbus => exact ih hbus
      | error he hbus => exact .error he hbus
      | cut hc => exact .cut hc

lemma readBulk (m : Mirrors C d R) (h : R b c) :
    SameFill C d R (Transport.readBulk offset buffer b) (Transport.readBulk offset buffer c) := by
  rw [Transport.readBulk, Transport.readBulk]
  cases checkBulkLength buffer.size with
  | error e => exact .error (by simp) h
  | ok u => exact m.readWords h

end Mirrors

namespace Station

structure Mirrored (R : σ → τ → Prop) (s : Station σ) (t : Station τ) : Prop where
  bus : R s.bus t.bus
  cache : s.cache = t.cache
  store : s.store = t.store
  listeners : s.listeners = t.listeners
  metrics : s.metrics = t.metrics
  buffers : s.buffers = t.buffers

def Corresponds (C : Prop) (d : DeviceError) (R : σ → τ → Prop) (f : StationM σ α) (g : StationM τ α) : Prop :=
  ∀ s t, Mirrored R s t → SameEnd C (.transport (.device d)) (Mirrored R) (f s) (g t)

omit [Transport σ] [Transport τ]

lemma corresponds_pure (a : α) : Corresponds C d R (pure a) (pure a) := fun _ _ h => .ok h

lemma corresponds_throw {e : StationError} (he : e ≠ .transport (.device d)) :
    Corresponds C d R (throw e : StationM σ α) (throw e) := fun _ _ h => .error he h

lemma Corresponds.bind {f : StationM σ α} {g : StationM τ α} {f' : α → StationM σ β} {g' : α → StationM τ β}
    (h : Corresponds C d R f g) (h' : ∀ a, Corresponds C d R (f' a) (g' a)) :
    Corresponds C d R (f >>= f') (g >>= g') := by
  intro s t hst
  have hf := h s t hst
  change SameEnd _ _ _ (EStateM.bind f f' s) (EStateM.bind g g' t)
  rw [EStateM.bind, EStateM.bind]
  generalize f s = x, g t = y at hf
  cases hf with
  | ok hr => exact h' _ _ _ hr
  | error he hr => exact .error he hr
  | cut hc => exact .cut hc

lemma Corresponds.perform {f : StationM σ α} {g : StationM τ α} {s : Station σ} {t : Station τ}
    (h : Corresponds C d R f g) (hst : Mirrored R s t) :
    C ∧ (perform f s).1 = .error (.transport (.device d)) ∨
      (perform f s).1 ≠ .error (.transport (.device d)) ∧ (perform f s).1 = (perform g t).1 ∧
        Mirrored R (perform f s).2 (perform g t).2 := by
  have hf := h s t hst
  rw [Station.perform, Station.perform]
  generalize f s = x, g t = y at hf
  cases hf with
  | ok hr => exact .inr ⟨by simp, rfl, hr⟩
  | error he hr => exact .inr ⟨fun hd => he (Except.error.inj hd), rfl, hr⟩
  | cut hc => exact .inl ⟨hc, rfl⟩

lemma corresponds_modify {f : Station σ → Station σ} {g : Station τ → Station τ}
    (h : ∀ s t, Mirrored R s t → Mirrored R (f s) (g t)) : Corresponds C d R (modify f) (modify g) :=
  fun s t hst => .ok (h s t hst)

lemma corresponds_gets {f : Station σ → α} {g : Station τ → α} (h : ∀ s t, Mirrored R s t → f s = g t) :
    Corresponds C d R (do return f (← get)) (do return g (← get)) := by
  intro s t hst
  change SameEnd _ _ _ (.ok (f s) s) (.ok (g t) t)
  rw [h s t hst]
  exact .ok hst

lemma corresponds_access {f : AccessM σ α} {g : AccessM τ α}
    (h : ∀ b c, R b c → SameEnd C (.device d) R (f b) (g c)) : Corresponds C d R (access f) (access g) := by
  intro s t hst
  have hf := h s.bus t.bus hst.bus
  rw [access_eq, access_eq]
  generalize f s.bus = x, g t.bus = y at hf
  cases hf with
  | ok hr => exact .ok { hst with bus := hr }
  | error he hr => exact .error (fun hd => he (StationError.transport.inj hd)) { hst with bus := hr }
  | cut hc => exact .cut hc

lemma corresponds_enter (p : Phase) : Corresponds C d R (enter p) (enter p) :=
  corresponds_modify fun _ _ h => { h with }

lemma corresponds_remember (name : String) (v : ParamValue) : Corresponds C d R (remember name v) (remember name v) :=
  corresponds_modify fun _ _ h => { h with cache := by rw [h.cache] }

lemma corresponds_convert (r : Except DomainError α) : Corresponds C d R (convert r) (convert r) := by
  cases r with
  | ok a => exact corresponds_pure a
  | error e => exact corresponds_throw (by simp)

lemma corresponds_register (setup : Setup) (name : String) :
    Corresponds C d R (register setup name) (register setup name) := by
  rw [register, register]
  cases setup.registers.find name with
  | some r => exact corresponds_pure r
  | none => exact corresponds_throw (by simp)

lemma corresponds_decodeBytes : Corresponds (σ := σ) (τ := τ) C d R decodeBytes decodeBytes := by
  rintro ⟨bus, cache, store, listeners, metrics, ⟨bytes, raw, spare, size⟩, trail⟩
    ⟨bus', cache', store', listeners', metrics', buffers', trail'⟩ ⟨hbus, rfl, rfl, rfl, rfl, rfl⟩
  simp only [decodeBytes]
  cases raw.refill bytes with
  | ok raw => exact .ok ⟨hbus, rfl, rfl, rfl, rfl, rfl⟩
  | error e => exact .error (by simp) ⟨hbus, rfl, rfl, rfl, rfl, rfl⟩

lemma corresponds_deriveFrame (cal : Calibration) :
    Corresponds (σ := σ) (τ := τ) C d R (deriveFrame cal) (deriveFrame cal) := by
  refine corresponds_modify ?_
  rintro ⟨bus, cache, store, listeners, metrics, buffers, trail⟩
    ⟨bus', cache', store', listeners', metrics', buffers', trail'⟩ ⟨hbus, rfl, rfl, rfl, rfl, rfl⟩
  exact ⟨hbus, rfl, rfl, rfl, rfl, rfl⟩

lemma corresponds_publishSpare : Corresponds (σ := σ) (τ := τ) C d R publishSpare publishSpare := by
  rintro ⟨bus, cache, store, listeners, metrics, buffers, trail⟩
    ⟨bus', cache', store', listeners', metrics', buffers', trail'⟩ ⟨hbus, rfl, rfl, rfl, rfl, rfl⟩
  exact .ok ⟨hbus, rfl, rfl, rfl, rfl, rfl⟩

lemma corresponds_setProbeIndex (index : Int64) :
    Corresponds (σ := σ) (τ := τ) C d R (setProbeIndex index) (setProbeIndex index) :=
  corresponds_modify fun _ _ h => { h with store := by rw [h.store] }

end Station

namespace Mirrors

open Station

lemma handshake (m : Mirrors C d R) (plan : Plan) : Corresponds C d R (handshake plan) (handshake plan) := by
  rw [Station.handshake, Station.handshake]
  split
  · refine .bind (corresponds_access fun _ _ h => m.readWord h) fun ready => ?_
    split
    · exact corresponds_pure false
    · exact .bind (corresponds_access fun _ _ h => m.writeWord h) fun _ => corresponds_pure true
  · exact corresponds_pure true

lemma fetchBytes (m : Mirrors C d R) (offset : UInt32) :
    Corresponds C d R (fetchBytes offset) (fetchBytes offset) := by
  intro s t h
  have hf : SameFill C d R (Transport.readBulk offset s.buffers.bytes s.bus)
      (Transport.readBulk offset s.buffers.bytes t.bus) := m.readBulk h.bus
  rw [fetchBytes_eq, fetchBytes_eq, ← h.buffers]
  have hb : ∀ {f : Transport.Filled σ} {g : Transport.Filled τ},
      Transport.readBulk offset s.buffers.bytes s.bus = f → Transport.readBulk offset s.buffers.bytes t.bus = g →
      f.buffer = g.buffer → s.buffers.fetched offset s.bus = s.buffers.fetched offset t.bus := by
    rintro f g rfl rfl hfg
    simp only [Buffers.fetched, hfg]
  generalize hx : Transport.readBulk offset s.buffers.bytes s.bus = x,
    hy : Transport.readBulk offset s.buffers.bytes t.bus = y at hf
  cases hf with
  | ok hbus => exact .ok { h with bus := hbus, buffers := hb hx hy rfl }
  | error he hbus =>
    exact .error (fun hd => he (StationError.transport.inj hd)) { h with bus := hbus, buffers := hb hx hy rfl }
  | cut hc => exact .cut hc

lemma acquire (m : Mirrors C d R) (plan : Plan) (cal : Calibration) :
    Corresponds C d R (acquire plan cal) (acquire plan cal) := by
  refine (corresponds_enter .fetching).bind fun _ => (m.handshake plan).bind fun ready => ?_
  cases ready with
  | false => exact corresponds_pure CycleOutcome.notReady
  | true =>
    exact (m.fetchBytes plan.waveformOffset).bind fun _ => corresponds_decodeBytes.bind fun _ =>
      (corresponds_enter .converting).bind fun _ => (corresponds_deriveFrame cal).bind fun _ =>
        (corresponds_enter .publishing).bind fun _ => corresponds_publishSpare

lemma readRegister (m : Mirrors C d R) (setup : Setup) (r : Register) :
    Corresponds C d R (readRegister setup r) (readRegister setup r) :=
  .bind (corresponds_access fun _ _ h => m.readWord h) fun raw => .bind (corresponds_convert (shown setup r raw))
    fun v => .bind (corresponds_remember r.name v) fun _ => corresponds_pure v

lemma readParameter (m : Mirrors C d R) (setup : Setup) (name : String) :
    Corresponds C d R (readParameter setup name) (readParameter setup name) := by
  rw [Station.readParameter, Station.readParameter]
  split
  · exact corresponds_gets fun s t h => by rw [h.store]
  · cases probedChannel? name with
    | some c => exact corresponds_gets fun s t h => by rw [h.store]
    | none => exact (corresponds_register setup name).bind fun r => m.readRegister setup r

lemma pulse (m : Mirrors C d R) (r : Register) : Corresponds C d R (pulse r) (pulse r) :=
  .bind (corresponds_access fun _ _ h => m.write h) fun _ => .bind (corresponds_remember r.name (.int 1)) fun _ =>
    .bind (corresponds_access fun _ _ h => m.write h) fun _ => corresponds_remember r.name (.int 0)

lemma writeRegister (m : Mirrors C d R) (setup : Setup) (r : Register) (v : ParamValue) :
    Corresponds C d R (writeRegister setup r v) (writeRegister setup r v) :=
  .bind (corresponds_convert _) fun raw => .bind (corresponds_access fun _ _ h => m.write h) fun _ =>
    .bind (corresponds_convert (shown setup r raw)) fun x => corresponds_remember r.name x

lemma writeParameter (m : Mirrors C d R) (setup : Setup) (name : String) (v : ParamValue) :
    Corresponds C d R (writeParameter setup name v) (writeParameter setup name v) := by
  rw [Station.writeParameter, Station.writeParameter]
  split
  · exact corresponds_setProbeIndex v.toInt64
  split
  · exact corresponds_throw (by simp)
  refine (corresponds_register setup name).bind fun r => ?_
  split
  · exact corresponds_throw (by simp)
  split
  · exact m.pulse r
  · exact m.writeRegister setup r v

end Mirrors

end RfBoard
