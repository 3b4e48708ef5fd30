import RfBoard.Proofs.BoardAccess

/-!
The log of a window over runs of its operations.
-/

namespace RfBoard

inductive WindowOperation where
  | read (width : Width) (offset : UInt32)
  | readInto (offset : UInt32) (length : Nat)
  | write (width : Width) (offset value : UInt32)
  | load (offset : UInt32) (data : List UInt8)

inductive WindowAnswer where
  | word (v : UInt32)
  | bytes (bytes : Bytes)
  | done

structure WindowEvent where
  operation : WindowOperation
  answer : Except DeviceError WindowAnswer

namespace WindowEvent

def write? : WindowEvent → Option Write
  | ⟨.write width offset value, .ok _⟩ => some ⟨offset, width, value⟩
  | _ => none

def IsLoad : WindowEvent → Prop
  | ⟨.load _ _, .ok _⟩ => True
  | _ => False

def writes (events : List WindowEvent) : List Write := events.filterMap write?

end WindowEvent

namespace WindowOperation

def answered : EStateM.Result DeviceError Window Unit → Except DeviceError WindowAnswer × Window
  | .ok _ w => (.ok .done, w)
  | .error e w => (.error e, w)

def apply : WindowOperation → Window → Except DeviceError WindowAnswer × Window
  | read width offset, w => ((w.read width offset).map .word, w)
  | readInto offset length, w => ((w.readBytes offset length).map .bytes, w)
  | write width offset value, w => answered (Window.write width offset value w)
  | load offset data, w => answered (Window.load offset data w)

def event (o : WindowOperation) (w : Window) : WindowEvent := ⟨o, (o.apply w).1⟩

def run : List WindowOperation → Window → List WindowEvent × Window
  | [], w => ([], w)
  | o :: os, w => (run os (o.apply w).2).map (o.event w :: ·) id

end WindowOperation

def Write.bytes (x : Write) : List UInt8 := LittleEndian.encode x.width.bytes (x.width.cut x.value).toNat

lemma Write.bytes_eq (x : Write) : x.bytes = LittleEndian.encode x.width.bytes x.value.toNat := by
  rw [bytes, Width.toNat_cut, LittleEndian.encode_mod]

def Bytes.replay (bytes : Bytes) (xs : List Write) : Bytes :=
  xs.foldl (fun bytes x => bytes.overwrite x.offset.toNat x.bytes) bytes

namespace Window

/-- The log has the latest of the writes `xs`, and all of them while there is room. -/
structure Lists (log : Array Write) (xs : List Write) : Prop where
  latest : log.toList <:+ xs
  size : log.size = min xs.length logCapacity

variable {log : Array Write} {xs : List Write}

lemma lists_empty : Lists #[] [] := ⟨List.suffix_rfl, rfl⟩

lemma Lists.remember (h : Lists log xs) (x : Write) : Lists (Window.remember log x) (xs ++ [x]) := by
  have hs := h.size
  have hc : logCapacity = 4096 := rfl
  rw [Window.remember]
  split
  · refine ⟨?_, ?_⟩
    · rw [Array.toList_push, List.suffix_append_self_iff]
      exact h.latest
    · rw [Array.size_push, List.length_append, List.length_singleton]
      omega
  · -- the oldest entry goes, and what is left is still at the end of all writes
    have hd : (log.extract 1).toList <:+ log.toList := by
      rw [Array.toList_extract, List.extract_eq_take_drop, List.take_of_length_le (by simp)]
      exact List.drop_suffix 1 log.toList
    refine ⟨?_, ?_⟩
    · rw [Array.toList_push, List.suffix_append_self_iff]
      exact hd.trans h.latest
    · rw [Array.size_push, Array.size_extract, List.length_append, List.length_singleton]
      omega

end Window

namespace WindowOperation

open WindowEvent Window

variable {o : WindowOperation} {os pre post : List WindowOperation} {w : Window} {xs ys : List Write}

lemma apply_eq (o : WindowOperation) (w : Window) :
    (o.apply w).2.log = (o.event w).write?.elim w.log (Window.remember w.log) ∧
      (¬ (o.event w).IsLoad → (o.apply w).2.bytes = w.bytes.replay (o.event w).write?.toList) := by
  cases o with
  | read width offset => exact ⟨rfl, fun _ => rfl⟩
  | readInto offset length => exact ⟨rfl, fun _ => rfl⟩
  | write width offset value =>
    rw [event, apply, Window.write_eq]
    split
    · refine ⟨rfl, fun _ => ?_⟩
      exact congrArg (w.bytes.overwrite offset.toNat) (Write.bytes_eq ⟨offset, width, value⟩).symm
    · exact ⟨rfl, fun _ => rfl⟩
  | load offset data =>
    obtain ⟨bytes, log⟩ := w
    rw [event, apply, Window.load]
    split
    · exact ⟨rfl, fun h => absurd trivial h⟩
    · exact ⟨rfl, fun _ => rfl⟩

lemma lists_apply (h : Lists w.log xs) : Lists (o.apply w).2.log (xs ++ (o.event w).write?.toList) := by
  rw [(apply_eq o w).1]
  cases (o.event w).write? with
  | none => rwa [Option.toList_none, List.append_nil]
  | some x => exact h.remember x

lemma writes_cons (e : WindowEvent) (es : List WindowEvent) : writes (e :: es) = e.write?.toList ++ writes es := by
  rw [writes, List.filterMap_cons]
  cases e.write? <;> rfl

lemma lists_run (os : List WindowOperation) (h : Lists w.log xs) :
    Lists (run os w).2.log (xs ++ writes (run os w).1) := by
  induction os generalizing w xs with
  | nil => rwa [run, writes, List.filterMap_nil, List.append_nil]
  | cons o os ih =>
    have hs := ih (lists_apply (o := o) h)
    rwa [List.append_assoc, ← writes_cons] at hs

lemma replay_run (h : ∀ e ∈ (run os w).1, ¬ e.IsLoad) : (run os w).2.bytes = w.bytes.replay (writes (run os w).1) := by
  induction os generalizing w with
  | nil => rfl
  | cons o os ih =>
    obtain ⟨ho, hos⟩ := List.forall_mem_cons.mp h
    have hb := ih hos
    rw [(apply_eq o w).2 ho] at hb
    rw [run, Prod.map_snd, Prod.map_fst, id_eq, writes_cons, hb, Bytes.replay, Bytes.replay, Bytes.replay,
      List.foldl_append]

lemma exists_split (h : ys <:+ writes (run os w).1) :
    ∃ pre post, os = pre ++ post ∧ writes (run post (run pre w).2).1 = ys := by
  induction os generalizing w with
  | nil =>
    refine ⟨[], [], rfl, ?_⟩
    exact (List.suffix_nil.mp h).symm
  | cons o os ih =>
    rw [run, Prod.map_fst, writes_cons] at h
    by_cases hy : ys = (o.event w).write?.toList ++ writes (run os (o.apply w).2).1
    · refine ⟨[], o :: os, rfl, ?_⟩
      rw [run, run, Prod.map_fst, writes_cons, hy]
    · have hs : ys <:+ writes (run os (o.apply w).2).1 := by
        cases hx : (o.event w).write? with
        | none => rwa [hx] at h
        | some x =>
          rw [hx] at h hy
          exact (List.suffix_cons_iff.mp h).resolve_left hy
      obtain ⟨pre, post, rfl, hw⟩ := ih hs
      exact ⟨o :: pre, post, rfl, hw⟩

lemma run_append (pre post : List WindowOperation) (w : Window) :
    (run (pre ++ post) w).2 = (run post (run pre w).2).2 := by
  induction pre generalizing w with
  | nil => rfl
  | cons o pre ih => exact ih (o.apply w).2

/-- The log of a new window has the latest 4096 of the writes that succeeded, the oldest first, and nothing else.
From a point of the run since which these were made and nothing was loaded, they lead to the bytes of the window. -/
theorem log_of_run (bytes : Bytes) (operations : List WindowOperation) :
    let start : Window := ⟨bytes, #[]⟩
    let (events, w) := run operations start
    w.log.toList <:+ writes events ∧ w.log.size = min (writes events).length 4096 ∧
      (∃ pre post, operations = pre ++ post ∧ writes (run post (run pre start).2).1 = w.log.toList) ∧
      ∀ pre post, operations = pre ++ post → writes (run post (run pre start).2).1 = w.log.toList →
        (∀ e ∈ (run post (run pre start).2).1, ¬ e.IsLoad) → w.bytes = (run pre start).2.bytes.replay w.log.toList := by
  intro start
  have hs : Lists start.log [] := lists_empty
  have hl := lists_run operations hs
  refine ⟨hl.latest, hl.size, exists_split hl.latest, ?_⟩
  rintro pre post rfl hw hn
  rw [run_append] at hw ⊢
  rw [replay_run hn, hw]

example : (run [.write .u32 0 0x11223344, .write .u8 1 0xAABB, .write .u16 7 1, .read .u16 1] (.ofSize 8)).2.log =
    #[⟨0, .u32, 0x11223344⟩, ⟨1, .u8, 0xAABB⟩] := by decide +kernel

end WindowOperation

end RfBoard
