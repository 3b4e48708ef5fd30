import RfBoard.Proofs.Accounting

namespace RfBoard

namespace FrameQueue

variable {q : FrameQueue} {frame : Frame}

def hear (q : FrameQueue) : Notice → FrameQueue
  | .published frame => q.offer frame
  | .failed _ => q

lemma hear_queue (q : FrameQueue) (notice : Notice) : (Listener.queue q).hear notice = .queue (q.hear notice) := by
  cases notice <;> rfl

def Open (q : FrameQueue) : Prop := q.connected = true ∧ q.frames.length < q.capacity

lemma offer_of_open (h : q.Open) (frame : Frame) : q.offer frame = { q with frames := q.frames ++ [frame] } := by
  rw [offer, if_pos]
  rwa [Bool.and_eq_true, decide_eq_true_eq]

lemma offer_of_not_open (h : ¬ q.Open) (frame : Frame) : q.offer frame = { q with dropped := q.dropped + 1 } := by
  rw [offer, if_neg]
  rwa [Bool.and_eq_true, decide_eq_true_eq]

def accepts (q : FrameQueue) (frame : Frame) : Bool := (q.offer frame).frames.length == q.frames.length + 1

lemma accepts_iff : q.accepts frame = true ↔ q.Open := by
  rw [accepts, beq_iff_eq]
  by_cases h : q.Open
  · simp [offer_of_open h, h]
  · simp [offer_of_not_open h, h]

end FrameQueue

lemma Listeners.queue?_notify {l : Listeners} {i : Nat} {q : FrameQueue} (h : l.queue? i = some q) (notice : Notice) :
    (l.notify notice).queue? i = some ((·.hear notice)^[l.attached.count i] q) := by
  have hq : l.all[i]? = some (.queue q) := by
    rw [queue?] at h
    split at h
    · rename_i hq
      rw [hq, Option.some.inj h]
    · cases h
  have hn : ∀ n, (Listener.hear · notice)^[n] (.queue q) = .queue ((FrameQueue.hear · notice)^[n] q) := by
    intro n
    induction n with
    | zero => rfl
    | succ n ih =>
      rw [Function.iterate_succ_apply', ih, FrameQueue.hear_queue,
        ← Function.iterate_succ_apply' (FrameQueue.hear · notice)]
  rw [queue?, getElem?_notify, hq, Option.map_some, hn]

inductive QueueStep where
  | hear (notice : Notice)
  | receive
  | disconnect

def QueueStep.frame? : QueueStep → Option Frame
  | hear (.published frame) => some frame
  | _ => none

/-- A queue with all frames that it was offered, each with whether it took it in, and all frames received. -/
structure Delivery where
  queue : FrameQueue
  offered : List (Frame × Bool) := []
  received : List Frame := []

namespace Delivery

def accepted (d : Delivery) : List Frame := (d.offered.filter (·.2)).map (·.1)

def refused (d : Delivery) : List Frame := (d.offered.filter (!·.2)).map (·.1)

def offer (d : Delivery) (frame : Frame) : Delivery :=
  { d with queue := d.queue.offer frame, offered := d.offered ++ [(frame, d.queue.accepts frame)] }

def step (d : Delivery) : QueueStep → Delivery
  | .hear (.published frame) => d.offer frame
  | .hear (.failed e) => { d with queue := d.queue.hear (.failed e) }
  | .receive => { d with queue := d.queue.receive.2, received := d.received ++ d.queue.receive.1.toList }
  | .disconnect => { d with queue := d.queue.disconnect }

def run (steps : List QueueStep) (d : Delivery) : Delivery := steps.foldl step d

def ofCapacity (capacity : Nat) : Delivery := { queue := { capacity } }

variable {capacity : Nat} {d : Delivery} {frame : Frame} {steps : List QueueStep}

lemma length_accepted_add_refused (d : Delivery) : d.accepted.length + d.refused.length = d.offered.length := by
  simpa [accepted, refused, List.countP_eq_length_filter] using
    (List.length_eq_countP_add_countP (p := fun o : Frame × Bool => o.2) (l := d.offered)).symm

lemma accepted_sublist (d : Delivery) : d.accepted.Sublist (d.offered.map (·.1)) := List.filter_sublist.map _

lemma accepted_offer (d : Delivery) (frame : Frame) :
    (d.offer frame).accepted = d.accepted ++ if d.queue.accepts frame then [frame] else [] := by
  rw [accepted, offer, List.filter_append, List.map_append]
  cases d.queue.accepts frame <;> rfl

lemma refused_offer (d : Delivery) (frame : Frame) :
    (d.offer frame).refused = d.refused ++ if d.queue.accepts frame then [] else [frame] := by
  rw [refused, offer, List.filter_append, List.map_append]
  cases d.queue.accepts frame <;> rfl

structure Conserved (capacity : Nat) (d : Delivery) : Prop where
  size : d.queue.capacity = capacity
  bounded : d.queue.frames.length ≤ capacity
  delivered : d.received <+: d.accepted
  queued : d.queue.connected = true → d.received ++ d.queue.frames = d.accepted
  emptied : d.queue.connected = false → d.queue.frames = []
  dropped : d.queue.dropped = UInt64.ofNat d.refused.length

lemma conserved_ofCapacity (capacity : Nat) : Conserved capacity (ofCapacity capacity) where
  size := rfl
  bounded := Nat.zero_le capacity
  delivered := List.prefix_rfl
  queued _ := rfl
  emptied _ := rfl
  dropped := rfl

lemma Conserved.offer (h : Conserved capacity d) (frame : Frame) : Conserved capacity (d.offer frame) := by
  have ha := d.accepted_offer frame
  have hr := d.refused_offer frame
  by_cases ho : d.queue.Open
  · have hq : (d.offer frame).queue = { d.queue with frames := d.queue.frames ++ [frame] } :=
      FrameQueue.offer_of_open ho frame
    rw [if_pos (FrameQueue.accepts_iff.mpr ho)] at ha hr
    rw [List.append_nil] at hr
    refine ⟨?_, ?_, ?_, ?_, ?_, ?_⟩
    · rw [hq, h.size]
    · have hl := ho.2
      rw [h.size] at hl
      simpa [hq] using hl
    · rw [ha]
      exact h.delivered.trans (List.prefix_append ..)
    · intro _
      rw [hq, ha, ← h.queued ho.1]
      exact (List.append_assoc ..).symm
    · intro hc
      rw [hq] at hc
      exact absurd (ho.1.symm.trans hc) Bool.noConfusion
    · rw [hq, hr, h.dropped]
  · have hq : (d.offer frame).queue = { d.queue with dropped := d.queue.dropped + 1 } :=
      FrameQueue.offer_of_not_open ho frame
    rw [if_neg (mt FrameQueue.accepts_iff.mp ho)] at ha hr
    rw [List.append_nil] at ha
    refine ⟨?_, ?_, ?_, ?_, ?_, ?_⟩
    · rw [hq, h.size]
    · rw [hq]
      exact h.bounded
    · rw [ha]
      exact h.delivered
    · rw [hq, ha]
      exact h.queued
    · rw [hq]
      exact h.emptied
    · rw [hq, hr, h.dropped, List.length_append]
      exact (Station.ofNat_succ _).symm

lemma Conserved.receive (h : Conserved capacity d) : Conserved capacity (d.step .receive) := by
  cases hf : d.queue.frames with
  | nil =>
    have hs : d.step .receive = d := by
      simp only [step, FrameQueue.receive, hf, Option.toList_none, List.append_nil]
    rw [hs]
    exact h
  | cons frame frames =>
    have hc : d.queue.connected = true := by
      by_contra hc
      have he := h.emptied (Bool.eq_false_iff.mpr hc)
      rw [hf] at he
      cases he
    have hs : d.step .receive =
        { d with queue := { d.queue with frames }, received := d.received ++ [frame] } := by
      simp only [step, FrameQueue.receive, hf, Option.toList_some]
    have hq := h.queued hc
    rw [hf, List.append_cons] at hq
    rw [hs]
    refine ⟨h.size, ?_, ?_, fun _ => hq, ?_, h.dropped⟩
    · have hb := h.bounded
      rw [hf, List.length_cons] at hb
      exact Nat.le_of_succ_le hb
    · exact ⟨frames, hq⟩
    · intro hc'
      exact absurd (hc.symm.trans hc') Bool.noConfusion

lemma Conserved.disconnect (h : Conserved capacity d) : Conserved capacity (d.step .disconnect) where
  size := h.size
  bounded := Nat.zero_le capacity
  delivered := h.delivered
  queued hc := nomatch hc
  emptied _ := rfl
  dropped := h.dropped

lemma Conserved.step (h : Conserved capacity d) (a : QueueStep) : Conserved capacity (d.step a) := by
  cases a with
  | hear notice =>
    cases notice with
    | published frame => exact h.offer frame
    | failed e => exact h
  | receive => exact h.receive
  | disconnect => exact h.disconnect

lemma Conserved.run (h : Conserved capacity d) (steps : List QueueStep) : Conserved capacity (d.run steps) := by
  induction steps generalizing d with
  | nil => exact h
  | cons a as ih => exact ih (h.step a)

def published (steps : List QueueStep) : List Frame := steps.filterMap QueueStep.frame?

lemma offered_step (d : Delivery) (a : QueueStep) :
    (d.step a).offered = d.offered ++ (a.frame?.map fun frame => (frame, d.queue.accepts frame)).toList := by
  cases a with
  | hear notice =>
    cases notice with
    | published frame => rfl
    | failed e => exact (List.append_nil _).symm
  | receive => exact (List.append_nil _).symm
  | disconnect => exact (List.append_nil _).symm

lemma offered_run (steps : List QueueStep) (d : Delivery) :
    (d.run steps).offered.map (·.1) = d.offered.map (·.1) ++ published steps := by
  induction steps generalizing d with
  | nil => exact (List.append_nil _).symm
  | cons a as ih =>
    have hr : d.run (a :: as) = (d.step a).run as := rfl
    rw [hr, ih, offered_step, published, published, List.filterMap_cons, List.map_append, List.append_assoc]
    cases a.frame? <;> rfl

lemma connected_step (d : Delivery) (a : QueueStep) :
    (d.step a).queue.connected = true ↔ d.queue.connected = true ∧ a ≠ .disconnect := by
  cases a with
  | hear notice =>
    cases notice with
    | published frame =>
      have hc : (d.queue.offer frame).connected = d.queue.connected := by
        rw [FrameQueue.offer]
        split <;> rfl
      simp [step, offer, hc]
    | failed e => simp [step, FrameQueue.hear]
  | receive =>
    have hc : d.queue.receive.2.connected = d.queue.connected := by
      rw [FrameQueue.receive]
      split <;> rfl
    simp [step, hc]
  | disconnect => simp [step, FrameQueue.disconnect]

lemma connected_run (steps : List QueueStep) (d : Delivery) :
    (d.run steps).queue.connected = true ↔ d.queue.connected = true ∧ .disconnect ∉ steps := by
  induction steps generalizing d with
  | nil => simp [run]
  | cons a as ih =>
    have hr : d.run (a :: as) = (d.step a).run as := rfl
    rw [hr, ih, connected_step, List.mem_cons, not_or, and_assoc, ne_comm]

lemma offered_of_gone (hc : d.queue.connected = false) (steps : List QueueStep) :
    (d.run steps).offered = d.offered ++ (published steps).map (·, false) := by
  induction steps generalizing d with
  | nil => exact (List.append_nil _).symm
  | cons a as ih =>
    have hn : ∀ frame, d.queue.accepts frame = false := by
      intro frame
      rw [← Bool.not_eq_true, FrameQueue.accepts_iff]
      exact fun ho => absurd (ho.1.symm.trans hc) Bool.noConfusion
    have hs : (d.step a).queue.connected = false := by
      rw [← Bool.not_eq_true, connected_step, hc]
      exact fun h => Bool.noConfusion h.1
    have hr : d.run (a :: as) = (d.step a).run as := rfl
    rw [hr, ih hs, offered_step, published, published, List.filterMap_cons, List.append_assoc]
    cases a.frame? with
    | none => rfl
    | some frame => simp only [Option.map_some, Option.toList_some, hn, List.map_cons, List.singleton_append]

lemma Conserved.accepts_eq_false_iff (h : Conserved capacity d) (frame : Frame) :
    d.queue.accepts frame = false ↔ d.queue.connected = false ∨ d.queue.frames.length = capacity := by
  have hb := h.bounded
  rw [← Bool.not_eq_true, FrameQueue.accepts_iff, FrameQueue.Open, h.size, not_and_or, Bool.not_eq_true]
  exact or_congr_right ⟨fun hn => by omega, fun he => by omega⟩

lemma run_append (as bs : List QueueStep) (d : Delivery) : d.run (as ++ bs) = (d.run as).run bs := List.foldl_append

end Delivery

open Delivery

/-- Whatever is heard and received, the frames offered are those published. As long as there is a receiver,
those received and those queued are those accepted, in order; a frame is refused only for a full queue or
for want of a receiver, and each refusal is counted. -/
theorem delivery_of_run (capacity : Nat) (steps : List QueueStep) :
    let d := run steps (ofCapacity capacity)
    d.offered.map (·.1) = published steps ∧
    (.disconnect ∉ steps → d.received ++ d.queue.frames = d.accepted ∧
      (d.received ++ d.queue.frames).Sublist (published steps)) ∧
    d.received <+: d.accepted ∧
    d.queue.frames.length ≤ capacity ∧
    (∀ frame, d.queue.accepts frame = false ↔ .disconnect ∈ steps ∨ d.queue.frames.length = capacity) ∧
    d.accepted.length + d.refused.length = (published steps).length ∧
    d.queue.dropped = UInt64.ofNat d.refused.length ∧
    (d.refused.length < 2 ^ 64 → d.queue.dropped.toNat = d.refused.length) ∧
    (∀ later, (run (steps ++ .disconnect :: later) (ofCapacity capacity)).offered =
      d.offered ++ (published later).map (·, false)) ∧
    ∀ (l : Listeners) (i : Nat) (q : FrameQueue) (notice : Notice), l.queue? i = some q →
      (l.notify notice).queue? i = some ((·.hear notice)^[l.attached.count i] q) := by
  intro d
  have h : Conserved capacity d := (conserved_ofCapacity capacity).run steps
  have ho : d.offered.map (·.1) = published steps := offered_run steps (ofCapacity capacity)
  have hc : d.queue.connected = true ↔ .disconnect ∉ steps :=
    (connected_run steps (ofCapacity capacity)).trans (and_iff_right rfl)
  have hd : d.queue.connected = false ↔ .disconnect ∈ steps := by rw [← Bool.not_eq_true, hc, not_not]
  refine ⟨ho, fun hn => ?_, h.delivered, h.bounded, fun frame => ?_, ?_, h.dropped, fun hl => ?_, fun later => ?_,
    fun l i q notice hq => Listeners.queue?_notify hq notice⟩
  · have hq := h.queued (hc.mpr hn)
    refine ⟨hq, ?_⟩
    rw [hq, ← ho]
    exact accepted_sublist d
  · rw [h.accepts_eq_false_iff, hd]
  · rw [length_accepted_add_refused, ← ho, List.length_map]
  · rw [h.dropped, Station.toNat_ofNat hl]
  · rw [run_append]
    exact offered_of_gone rfl later

end RfBoard
