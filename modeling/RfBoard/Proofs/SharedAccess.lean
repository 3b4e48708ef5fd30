import RfBoard.Proofs.Sections

/-!
Clients that share one transport under one lock, an access at a time.
-/

namespace RfBoard

inductive Client where
  | resting
  | waiting (r : Request)
  | inside (rest : List BusAccess)

structure Made where
  access : BusAccess
  answered : Bool
deriving DecidableEq

structure Shared (ι σ : Type) where
  bus : σ
  lock : Option ι := none
  clients : ι → Client := fun _ => .resting
  turns : List (ι × Request) := []
  seen : List (ι × Made) := []

inductive Exhausts : List BusAccess → List Made → Prop
  | done : Exhausts [] []
  | failed {a : BusAccess} {as : List BusAccess} : Exhausts (a :: as) [⟨a, false⟩]
  | answered {a : BusAccess} {as : List BusAccess} {made : List Made} : Exhausts as made →
      Exhausts (a :: as) (⟨a, true⟩ :: made)

def Pulsed (r : Register) (made : List Made) : Prop :=
  made = [⟨.write r.width r.offset 1, false⟩] ∨
    ∃ answered, made = [⟨.write r.width r.offset 1, true⟩, ⟨.write r.width r.offset 0, answered⟩]

namespace Exhausts

variable {as rest : List BusAccess} {a : BusAccess} {made : List Made}

lemma exists_made (as : List BusAccess) : ∃ made, Exhausts as made := by
  cases as with
  | nil => exact ⟨[], .done⟩
  | cons a as => exact ⟨_, .failed⟩

lemma step (answered : Bool) (h : Exhausts (if answered then as else []) made) :
    Exhausts (a :: as) (⟨a, answered⟩ :: made) := by
  cases answered with
  | true => exact .answered h
  | false =>
    cases h
    exact .failed

lemma isPrefix (h : Exhausts as made) : made.map Made.access <+: as := by
  induction h with
  | done => exact List.prefix_rfl
  | failed => exact ⟨_, rfl⟩
  | answered _ ih => exact (List.prefix_cons_inj _).mpr ih

lemma pulsed {r : Register} (h : Exhausts (BusAccess.pulse r) made) : Pulsed r made := by
  cases h with
  | failed => exact .inl rfl
  | answered h =>
    cases h with
    | failed => exact .inr ⟨false, rfl⟩
    | answered h =>
      cases h
      exact .inr ⟨true, rfl⟩

end Exhausts

def Request.Pulses (q : Request) (r : Register) : Prop :=
  ∃ setup name v, q = .writeParameter setup name v ∧ Station.Targets setup name r ∧ Station.IsPulse r v

lemma Request.Pulses.accesses?_eq {q : Request} {r : Register} (h : q.Pulses r) :
    q.accesses? = some (BusAccess.pulse r) := by
  obtain ⟨setup, name, v, rfl, ht, hi⟩ := h
  exact writeAccesses?_of_pulse ht hi

lemma Request.getElem?_bulkAccesses (offset : UInt32) (length : Nat) {m : Nat} {a : BusAccess}
    (h : (bulkAccesses offset length)[m]? = some a) :
    ∃ address, a = .read .u32 address ∧ address.toNat = offset.toNat + 4 * m := by
  rw [bulkAccesses] at h
  split at h
  · simp at h
  · simpa using BusAccess.getElem?_words h

structure Turn (ι : Type) where
  client : ι
  request : Request
  made : List Made := []

namespace Turn

variable {ι : Type} {t : Turn ι} {rest : List BusAccess} {more : List Made}

def seen (t : Turn ι) : List (ι × Made) := t.made.map (t.client, ·)

def entry (t : Turn ι) : ι × Request := (t.client, t.request)

def Complete (t : Turn ι) : Prop := ∃ as, t.request.accesses? = some as ∧ Exhausts as t.made

def extend (t : Turn ι) (more : List Made) : Turn ι := { t with made := t.made ++ more }

def Awaits (t : Turn ι) (rest : List BusAccess) : Prop := ∀ more, Exhausts rest more → (t.extend more).Complete

lemma Awaits.complete (h : t.Awaits []) : t.Complete := by
  have hc := h [] .done
  rwa [extend, List.append_nil] at hc

lemma Awaits.step {a : BusAccess} (answered : Bool) (h : t.Awaits (a :: rest)) :
    (t.extend [⟨a, answered⟩]).Awaits (if answered then rest else []) := by
  intro more hm
  have hc := h _ (.step answered hm)
  rwa [extend, List.append_cons] at hc

lemma Awaits.exists_complete (h : t.Awaits rest) : ∃ more, (t.extend more).Complete := by
  obtain ⟨more, hm⟩ := Exhausts.exists_made rest
  exact ⟨more, h more hm⟩

lemma Complete.bulk {offset : UInt32} {length m : Nat} {x : Made} (h : (t.extend more).Complete)
    (hr : t.request = .bulk offset length) (hx : t.made[m]? = some x) :
    ∃ address, x.access = .read .u32 address ∧ address.toNat = offset.toNat + 4 * m := by
  obtain ⟨as, ha, he⟩ := h
  simp only [extend, hr, Request.accesses?, Option.some.injEq] at ha
  subst ha
  apply Request.getElem?_bulkAccesses offset length
  have hm : ((t.made ++ more).map Made.access)[m]? = some x.access := by
    rw [List.getElem?_map, List.getElem?_append_left (List.getElem?_eq_some_iff.mp hx).1, hx]
    rfl
  obtain ⟨tail, ht⟩ := he.isPrefix
  rw [← ht]
  exact (List.getElem?_append_left (List.getElem?_eq_some_iff.mp hm).1).trans hm

lemma Complete.pulsed {r : Register} (h : t.Complete) (hr : t.request.Pulses r) : Pulsed r t.made := by
  obtain ⟨as, ha, he⟩ := h
  rw [hr.accesses?_eq, Option.some.injEq] at ha
  subst ha
  exact he.pulsed

lemma mem_or_last {past before after : List (Turn ι)} {now : Option (Turn ι)} (hs : past ++ now.toList = before ++ t :: after) :
    t ∈ past ∨ now = some t ∧ after = [] := by
  cases now with
  | none =>
    rw [Option.toList_none, List.append_nil] at hs
    exact .inl (by simp [hs])
  | some u =>
    rw [Option.toList_some] at hs
    rcases after.eq_nil_or_concat with rfl | ⟨after, v, rfl⟩
    · exact .inr ⟨congrArg some (List.concat_inj.mp (by simpa using hs)).2, rfl⟩
    · have hp : past ++ [u] = (before ++ t :: after) ++ [v] := by simpa using hs
      exact .inl (by simp [(List.append_inj' hp rfl).1])

end Turn

namespace Shared

variable {ι σ : Type}

section Steps

variable [DecidableEq ι]

def update (s : Shared ι σ) (c : ι) (k : Client) : Shared ι σ :=
  { s with clients := Function.update s.clients c k }

lemma update_self (s : Shared ι σ) (c : ι) (k : Client) : (s.update c k).clients c = k := Function.update_self ..

lemma update_of_ne {c d : ι} (h : d ≠ c) (s : Shared ι σ) (k : Client) : (s.update c k).clients d = s.clients d :=
  Function.update_of_ne h ..

variable [Transport σ]

inductive Step : Shared ι σ → Shared ι σ → Prop
  | ask {s : Shared ι σ} {c : ι} (r : Request) : s.clients c = .resting → Step s (s.update c (.waiting r))
  | pass {s : Shared ι σ} {c : ι} {r : Request} : s.clients c = .waiting r → r.accesses? = none →
      Step s (s.update c .resting)
  | enter {s : Shared ι σ} {c : ι} {r : Request} {as : List BusAccess} : s.clients c = .waiting r →
      s.lock = none → r.accesses? = some as →
      Step s { s.update c (.inside as) with lock := some c, turns := s.turns ++ [(c, r)] }
  | access {s : Shared ι σ} {c : ι} {a : BusAccess} {as : List BusAccess} : s.clients c = .inside (a :: as) →
      Step s { s.update c (.inside (if (a.perform s.bus).1 then as else [])) with
        bus := (a.perform s.bus).2
        seen := s.seen ++ [(c, ⟨a, (a.perform s.bus).1⟩)] }
  | leave {s : Shared ι σ} {c : ι} : s.clients c = .inside [] → Step s { s.update c .resting with lock := none }

def Reachable (bus₀ : σ) : Shared ι σ → Prop := Relation.ReflTransGen Step { bus := bus₀ }

end Steps

variable [Transport σ] {s s' : Shared ι σ} {bus₀ : σ} {past : List (Turn ι)} {now : Option (Turn ι)} {c : ι} {k : Client}

def afterTurns (bus₀ : σ) (turns : List (ι × Request)) : σ := turns.foldl (fun bus t => t.2.alone bus) bus₀

structure Grouped (bus₀ : σ) (s : Shared ι σ) (past : List (Turn ι)) (now : Option (Turn ι)) : Prop where
  seen_eq : s.seen = (past ++ now.toList).flatMap Turn.seen
  turns_eq : s.turns = (past ++ now.toList).map Turn.entry
  lock_eq : s.lock = now.map Turn.client
  complete : ∀ t ∈ past, t.Complete
  exclusive : ∀ c rest, s.clients c = .inside rest → s.lock = some c
  awaits : ∀ t ∈ now, ∃ rest, s.clients t.client = .inside rest ∧ t.Awaits rest ∧
    afterTurns bus₀ s.turns = BusAccess.performAll rest s.bus
  bus_eq : now = none → s.bus = afterTurns bus₀ s.turns

namespace Grouped

lemma start (bus₀ : σ) : Grouped bus₀ ({ bus := bus₀ } : Shared ι σ) [] none where
  seen_eq := rfl
  turns_eq := rfl
  lock_eq := rfl
  complete := by simp
  exclusive := by simp
  awaits := by simp
  bus_eq _ := rfl

lemma eq_now {rest : List BusAccess} (h : Grouped bus₀ s past now) (hc : s.clients c = .inside rest) :
    ∃ t, now = some t ∧ t.client = c ∧ t.Awaits rest ∧ afterTurns bus₀ s.turns = BusAccess.performAll rest s.bus := by
  have hl := h.exclusive c rest hc
  rw [h.lock_eq, Option.map_eq_some_iff] at hl
  obtain ⟨t, rfl, rfl⟩ := hl
  obtain ⟨rest', hr, ha, hb⟩ := h.awaits t rfl
  obtain rfl : rest' = rest := by simpa [hr] using hc
  exact ⟨t, rfl, rfl, ha, hb⟩

lemma exists_complete (h : Grouped bus₀ s past now) {t : Turn ι} (ht : t ∈ past ++ now.toList) :
    ∃ more, (t.extend more).Complete := by
  rcases List.mem_append.mp ht with ht | ht
  · refine ⟨[], ?_⟩
    rw [Turn.extend, List.append_nil]
    exact h.complete t ht
  · obtain ⟨rest, _, ha, _⟩ := h.awaits t (Option.mem_toList.mp ht)
    exact ha.exists_complete

lemma pulse_next (h : Grouped bus₀ s past now) {before after : List (Turn ι)} {t : Turn ι} {r : Register}
    (hs : past ++ now.toList = before ++ t :: after) (hr : t.request.Pulses r)
    (hw : s.seen[(before.flatMap Turn.seen).length]? = some (t.client, ⟨.write r.width r.offset 1, true⟩)) :
    (∃ answered, s.seen[(before.flatMap Turn.seen).length + 1]? =
      some (t.client, ⟨.write r.width r.offset 0, answered⟩)) ∨
    s.seen.length = (before.flatMap Turn.seen).length + 1 ∧ s.lock = some t.client := by
  have hseen : s.seen = before.flatMap Turn.seen ++ (t.seen ++ after.flatMap Turn.seen) := by
    rw [h.seen_eq, hs, List.flatMap_append, List.flatMap_cons]
  rw [hseen, List.getElem?_append_right (Nat.le_refl _), Nat.sub_self] at hw
  have hnext : s.seen[(before.flatMap Turn.seen).length + 1]? = (t.seen ++ after.flatMap Turn.seen)[1]? := by
    rw [hseen, List.getElem?_append_right (Nat.le_add_right _ _), Nat.add_sub_cancel_left]
  obtain ⟨more, hc⟩ := h.exists_complete (t := t) (by simp [hs])
  have hp : Pulsed r (t.made ++ more) := hc.pulsed hr
  rcases hm : t.made with _ | ⟨x, _ | ⟨y, made⟩⟩
  · -- nothing made yet: the turn is on, and no access follows
    rcases Turn.mem_or_last hs with ht | ⟨_, rfl⟩
    · have hp' := (h.complete t ht).pulsed hr
      simp [Pulsed, hm] at hp'
    · simp [Turn.seen, hm] at hw
  · rcases Turn.mem_or_last hs with ht | ⟨rfl, rfl⟩
    · -- a turn that ended after one write had it refused
      rcases (h.complete t ht).pulsed hr with hp' | ⟨_, hp'⟩
      · simp [Turn.seen, hp'] at hw
      · simp [hm] at hp'
    · exact .inr ⟨by simp [hseen, Turn.seen, hm], h.lock_eq⟩
  · refine .inl ?_
    rw [hnext]
    rcases hp with hp | ⟨answered, hp⟩
    · simp [hm] at hp
    · simp only [hm, List.cons_append, List.cons.injEq] at hp
      exact ⟨answered, by simp [Turn.seen, hm, hp.2.1]⟩

variable [DecidableEq ι]

lemma outside (h : Grouped bus₀ s past now) (hc : ∀ rest, s.clients c ≠ .inside rest)
    (hk : ∀ rest, k ≠ .inside rest) : Grouped bus₀ (s.update c k) past now where
  seen_eq := h.seen_eq
  turns_eq := h.turns_eq
  lock_eq := h.lock_eq
  complete := h.complete
  exclusive d rest hd := by
    by_cases hdc : d = c
    · subst hdc
      rw [update_self] at hd
      exact absurd hd (hk rest)
    · rw [update_of_ne hdc] at hd
      exact h.exclusive d rest hd
  awaits t ht := by
    obtain ⟨rest, hr, ha, hb⟩ := h.awaits t ht
    have htc : t.client ≠ c := fun he => hc rest (he ▸ hr)
    exact ⟨rest, by rwa [update_of_ne htc], ha, hb⟩
  bus_eq := h.bus_eq

lemma enter {r : Request} {as : List BusAccess} (h : Grouped bus₀ s past now) (hl : s.lock = none)
    (ha : r.accesses? = some as) :
    Grouped bus₀ { s.update c (.inside as) with lock := some c, turns := s.turns ++ [(c, r)] } past
      (some { client := c, request := r }) := by
  obtain rfl : now = none := by simpa [h.lock_eq] using hl
  have hseen := h.seen_eq
  have hturns := h.turns_eq
  rw [Option.toList_none, List.append_nil] at hseen hturns
  refine ⟨?_, ?_, rfl, h.complete, ?_, ?_, nofun⟩
  · rw [List.flatMap_append, ← hseen]
    exact (List.append_nil s.seen).symm
  · rw [List.map_append, ← hturns]
    rfl
  · intro d rest hd
    by_cases hdc : d = c
    · rw [hdc]
    · have hin : s.clients d = .inside rest := (update_of_ne hdc s _).symm.trans hd
      rw [h.exclusive d rest hin] at hl
      cases hl
  · rintro _ ⟨⟩
    refine ⟨as, update_self s c _, fun more hm => ⟨as, ha, hm⟩, ?_⟩
    have hb : afterTurns bus₀ (s.turns ++ [(c, r)]) = r.alone s.bus := by
      rw [h.bus_eq rfl, afterTurns, List.foldl_append]
      rfl
    rw [hb, r.alone_eq_served, Request.served, ha, Option.elim_some]
    rfl

lemma access {a : BusAccess} {as : List BusAccess} (h : Grouped bus₀ s past now)
    (hc : s.clients c = .inside (a :: as)) :
    ∃ now', Grouped bus₀ { s.update c (.inside (if (a.perform s.bus).1 then as else [])) with
      bus := (a.perform s.bus).2
      seen := s.seen ++ [(c, ⟨a, (a.perform s.bus).1⟩)] } past now' := by
  obtain ⟨t, rfl, rfl, ha, hb⟩ := h.eq_now hc
  refine ⟨some (t.extend [⟨a, (a.perform s.bus).1⟩]), ?_, ?_, h.lock_eq, h.complete, ?_, ?_, nofun⟩
  · simp only [h.seen_eq, Option.toList_some, List.flatMap_append, List.flatMap_singleton, Turn.seen, Turn.extend,
      List.map_append, List.append_assoc, List.map_cons, List.map_nil]
  · have hturns := h.turns_eq
    rw [Option.toList_some, List.map_append] at hturns ⊢
    exact hturns
  · intro d rest hd
    by_cases hdc : d = t.client
    · rw [hdc]
      exact h.lock_eq
    · exact h.exclusive d rest ((update_of_ne hdc s _).symm.trans hd)
  · rintro _ ⟨⟩
    exact ⟨_, update_self s t.client _, ha.step _, hb.trans (BusAccess.performAll_cons a as s.bus)⟩

lemma leave (h : Grouped bus₀ s past now) (hc : s.clients c = .inside []) :
    ∃ past', Grouped bus₀ { s.update c .resting with lock := none } past' none := by
  obtain ⟨t, rfl, rfl, ha, hb⟩ := h.eq_now hc
  have hseen := h.seen_eq
  have hturns := h.turns_eq
  refine ⟨past ++ [t], ?_, ?_, rfl, ?_, ?_, nofun, fun _ => hb.symm⟩
  · rwa [Option.toList_none, List.append_nil]
  · rwa [Option.toList_none, List.append_nil]
  · intro u hu
    rcases List.mem_append.mp hu with hu | hu
    · exact h.complete u hu
    · rw [List.mem_singleton.mp hu]
      exact ha.complete
  · intro d rest hd
    by_cases hdc : d = t.client
    · rw [hdc] at hd
      exact absurd ((update_self s t.client _).symm.trans hd) nofun
    · have hl := h.exclusive d rest ((update_of_ne hdc s _).symm.trans hd)
      rw [h.lock_eq] at hl
      exact absurd (Option.some.inj hl).symm hdc

lemma step (h : Grouped bus₀ s past now) (hs : Step s s') : ∃ past' now', Grouped bus₀ s' past' now' := by
  cases hs with
  | ask r hc => exact ⟨past, now, h.outside (by simp [hc]) nofun⟩
  | pass hc _ => exact ⟨past, now, h.outside (by simp [hc]) nofun⟩
  | enter hc hl ha => exact ⟨past, _, h.enter hl ha⟩
  | access hc =>
    obtain ⟨now', h'⟩ := h.access hc
    exact ⟨past, now', h'⟩
  | leave hc =>
    obtain ⟨past', h'⟩ := h.leave hc
    exact ⟨past', none, h'⟩

lemma of_reachable (h : Reachable bus₀ s) : ∃ past now, Grouped bus₀ s past now := by
  induction h with
  | refl => exact ⟨[], none, .start bus₀⟩
  | tail _ hs ih =>
    obtain ⟨past, now, h⟩ := ih
    exact h.step hs

end Grouped

/-- What the transport sees of clients under one lock. The words of a bulk read stand together and in order, and
so do the two writes of a pulse. -/
structure Sectioned (bus₀ : σ) (s : Shared ι σ) (past : List (Turn ι)) (now : Option (Turn ι)) : Prop
    extends Grouped bus₀ s past now where
  bulk {t : Turn ι} {offset : UInt32} {length m : Nat} {x : Made} : t ∈ past ++ now.toList →
    t.request = .bulk offset length → t.made[m]? = some x →
    ∃ address, x.access = .read .u32 address ∧ address.toNat = offset.toNat + 4 * m
  pulse {t : Turn ι} {r : Register} : t ∈ past → t.request.Pulses r → Pulsed r t.made
  pulse_next {before after : List (Turn ι)} {t : Turn ι} {r : Register} :
    past ++ now.toList = before ++ t :: after → t.request.Pulses r →
    s.seen[(before.flatMap Turn.seen).length]? = some (t.client, ⟨.write r.width r.offset 1, true⟩) →
    (∃ answered, s.seen[(before.flatMap Turn.seen).length + 1]? =
      some (t.client, ⟨.write r.width r.offset 0, answered⟩)) ∨
    s.seen.length = (before.flatMap Turn.seen).length + 1 ∧ s.lock = some t.client

/-- However the steps of the clients fall, sections are never interleaved. -/
theorem sectioned_of_reachable [DecidableEq ι] (h : Reachable bus₀ s) : ∃ past now, Sectioned bus₀ s past now := by
  obtain ⟨past, now, hg⟩ := Grouped.of_reachable h
  refine ⟨past, now, hg, ?_, fun ht hr => (hg.complete _ ht).pulsed hr, hg.pulse_next⟩
  intro t offset length m x ht hr hx
  obtain ⟨more, hc⟩ := hg.exists_complete ht
  exact hc.bulk hr hx

lemma exists_pulse {r : Register} {q other : Request} (bus : σ) (hq : q.accesses? = some (BusAccess.pulse r))
    (hr : ((BusAccess.write r.width r.offset 1).perform bus).1 = true)
    (hl : ((BusAccess.write r.width r.offset 0).perform
      ((BusAccess.write r.width r.offset 1).perform bus).2).1 = true) :
    ∃ s : Shared Bool σ, Reachable bus s ∧ s.clients false = .waiting other ∧
      s.seen = [(true, ⟨.write r.width r.offset 1, true⟩), (true, ⟨.write r.width r.offset 0, true⟩)] := by
  have asked : Reachable bus _ :=
    (Relation.ReflTransGen.single (.ask (c := true) q rfl)).tail (.ask (c := false) other rfl)
  have raised := (asked.tail (.enter (c := true) rfl rfl hq)).tail (.access (c := true) rfl)
  have released := raised.tail (.access (c := true) (congrArg Client.inside (if_pos hr)))
  exact ⟨_, released, rfl, congrArg₂ (fun x y =>
    [(true, (⟨.write r.width r.offset 1, x⟩ : Made)), (true, ⟨.write r.width r.offset 0, y⟩)]) hr hl⟩

theorem sectioned_pulse : ∃ s : Shared Bool SimBoard, Reachable (SimBoard.ofSize 240) s ∧
    s.clients false = .waiting (.bulk 0 8) ∧
    s.seen = [(true, ⟨.write .u32 236 1, true⟩), (true, ⟨.write .u32 236 0, true⟩)] ∧
    ∃ past now, Sectioned (SimBoard.ofSize 240) s past now := by
  have hq : (Request.writeParameter {} Register.manualClear (.int 1)).accesses? =
      some (BusAccess.pulse (.settingInt Register.manualClear 236)) := by decide +kernel
  obtain ⟨s, hs, hw, hseen⟩ := exists_pulse (SimBoard.ofSize 240) hq (by decide +kernel) (by decide +kernel)
  exact ⟨s, hs, hw, hseen, sectioned_of_reachable hs⟩

end Shared

end RfBoard
