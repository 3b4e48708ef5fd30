import RfBoard.Proofs.Toml.Lines

/-!
Printed documents read back. A line changes the entries at one place of the document.
-/

namespace RfBoard.Toml

def values (es : Table) : Entries := es.map fun (k, v) => (k, .value v)

namespace Entries

variable {k name : String} {v : Value} {es xs inner : Entries} {path : List String}

def names (es : Entries) : List String := es.map (·.1)

lemma alter_absent (f : Option Item → Option Item) (h : name ∉ names es) :
    alter name f es = (f none).map fun item => es ++ [(name, item)] := by
  induction es with
  | nil => rfl
  | cons e es ih =>
    obtain ⟨k, item⟩ := e
    rw [names, List.map_cons, List.mem_cons, not_or] at h
    rw [alter, if_neg (Ne.symm h.1), ih h.2, Option.map_map]
    rfl

lemma alter_present (f : Option Item → Option Item) (item : Item) (ys : Entries) (h : name ∉ names xs) :
    alter name f (xs ++ (name, item) :: ys) = (f (some item)).map fun item => xs ++ (name, item) :: ys := by
  induction xs with
  | nil => exact if_pos rfl
  | cons e xs ih =>
    obtain ⟨k, item'⟩ := e
    rw [names, List.map_cons, List.mem_cons, not_or] at h
    rw [List.cons_append, alter, if_neg (Ne.symm h.1), ih h.2, Option.map_map]
    rfl

lemma define_absent (v : Value) (h : k ∉ names es) : define [k] v es = some (es ++ [(k, .value v)]) := alter_absent _ h

def Place (here : List String) (around : Entries → Entries) : Prop :=
  ∀ f inner, descend false here f (around inner) = (f inner).map around

namespace Place

variable {around : Entries → Entries}

lemma table (origin : Origin) (hx : name ∉ names xs) (ys : Entries) :
    Place [name] fun inner => xs ++ (name, .table origin inner) :: ys := fun f inner => by
  rw [descend, alter_present _ _ _ hx]
  simp only [Bool.false_and, Bool.false_eq_true, if_false, descend, Option.map_map]
  rfl

lemma tables (els : List Entries) (hx : name ∉ names xs) (ys : Entries) :
    Place [name] fun inner => xs ++ (name, .tables (els ++ [inner])) :: ys := fun f inner => by
  rw [descend, alter_present _ _ _ hx]
  simp only [Bool.false_and, Bool.false_eq_true, if_false, List.getLast?_append, List.getLast?_singleton,
    Option.some_or, List.dropLast_concat, descend, Option.map_map]
  rfl

lemma descend_append (p q : List String) (f : Entries → Option Entries) (es : Entries) :
    descend false (p ++ q) f es = descend false p (descend false q f) es := by
  induction p generalizing es with
  | nil => rfl
  | cons k p ih => simp only [List.cons_append, descend, ih, Bool.false_and]

lemma comp {p q : List String} {a b : Entries → Entries} (hp : Place p a) (hq : Place q b) : Place (p ++ q) (a ∘ b) :=
  fun f inner => by
    rw [descend_append, Function.comp_apply, hp, hq, Option.map_map]

lemma openElement (h : Place path around) (name : String) (inner : Entries) :
    Entries.openElement (path ++ [name]) (around inner) =
      (Entries.openElement [name] inner).map around := by
  rw [Entries.openElement, Entries.openElement]
  simp only [splitLast, List.dropLast_concat, List.getLastD_concat]
  exact h _ _

end Place

lemma openTable_absent (h : name ∉ names es) : openTable [name] es = some (es ++ [(name, .table .header [])]) :=
  alter_absent _ h

lemma openElement_absent (h : name ∉ names es) : openElement [name] es = some (es ++ [(name, .tables [[]])]) :=
  alter_absent _ h

lemma openElement_present (els : List Entries) (h : name ∉ names xs) :
    openElement [name] (xs ++ [(name, .tables els)]) = some (xs ++ [(name, .tables (els ++ [[]]))]) :=
  alter_present _ _ _ h

lemma openElement_under_absent {outer : String} (h : outer ∉ names es) :
    openElement [outer, name] es = some (es ++ [(outer, .table .implied [(name, .tables [[]])])]) :=
  alter_absent _ h

end Entries

open Entries

def Written.apply : Written → List String × Entries → Option (List String × Entries)
  | empty, s => some s
  | entry k v, (here, root) => (root.descend false here (·.define [k] v)).map (here, ·)
  | header path, (_, root) => (root.openTable path).map (path, ·)
  | element path, (_, root) => (root.openElement path).map (path, ·)

def applyAll (ws : List Written) (s : List String × Entries) : Option (List String × Entries) :=
  ws.foldlM (fun s w => w.apply s) s

section Reading

variable {here path : List String} {root : Entries} {s : List String × Entries} {ws : List Written} {k : String}

lemma readKey_path (hp : ∀ k ∈ path, IsBare k) (hl : path.length ≤ keyLimit) :
    readKey (path.map String.toList) = .ok path := by
  have hm : (path.map String.toList).mapM keyPart? = some path := by
    induction path with
    | nil => rfl
    | cons k path ih =>
      have hk := (hp k List.mem_cons_self).keyPart?
      have ih' := ih (fun k hk => hp k (List.mem_cons_of_mem _ hk)) (Nat.le_of_succ_le hl)
      simp [List.mapM_cons, hk, ih']
  simp only [readKey, hm, wellFormed, Option.elim_some, bind, Except.bind, if_pos hl]

theorem readInto_written (h : ∀ w ∈ ws, w.IsPlain) (ha : applyAll ws (here, root) = some s) :
    readInto here root (ws.filterMap Written.line?) = .ok s.2 := by
  -- a plain line never fails to be read, so what is left of a step is `Written.apply`
  induction ws generalizing here root with
  | nil =>
    obtain rfl := Option.some.inj ha
    rfl
  | cons w ws ih =>
    have hw := h w List.mem_cons_self
    have hws := fun w hw => h w (List.mem_cons_of_mem _ hw)
    rw [applyAll, List.foldlM_cons] at ha
    obtain ⟨⟨here', root'⟩, hstep, hrest⟩ := Option.bind_eq_some_iff.mp ha
    have ih' := ih hws hrest
    cases w with
    | empty =>
      obtain ⟨rfl, rfl⟩ := Prod.mk.inj (Option.some.inj hstep)
      exact ih'
    | entry k v =>
      obtain ⟨root', hd, heq⟩ := Option.map_eq_some_iff.mp hstep
      obtain ⟨rfl, rfl⟩ := Prod.mk.inj heq
      have hk : readKey ([k].map String.toList) = .ok [k] :=
        readKey_path (List.forall_mem_singleton.mpr hw.1) (show 1 ≤ keyLimit by decide)
      have hv := hw.2.read
      change readInto here root (.entry [k.toList] (.scalar v.print.toList) :: ws.filterMap Written.line?) = _
      rw [readInto, ← ih']
      simp only [List.map_cons, List.map_nil] at hk
      simp only [hk, Draft.read, hv, hd, wellFormed, bind, Except.bind, Option.elim_some]
    | header path =>
      obtain ⟨root', hd, heq⟩ := Option.map_eq_some_iff.mp hstep
      obtain ⟨rfl, rfl⟩ := Prod.mk.inj heq
      change readInto here root (.header (path.map String.toList) :: ws.filterMap Written.line?) = _
      rw [readInto, ← ih']
      simp only [readKey_path hw.2.2 hw.2.1, hd, wellFormed, bind, Except.bind, Option.elim_some]
    | element path =>
      obtain ⟨root', hd, heq⟩ := Option.map_eq_some_iff.mp hstep
      obtain ⟨rfl, rfl⟩ := Prod.mk.inj heq
      change readInto here root (.element (path.map String.toList) :: ws.filterMap Written.line?) = _
      rw [readInto, ← ih']
      simp only [readKey_path hw.2.2 hw.2.1, hd, wellFormed, bind, Except.bind, Option.elim_some]

end Reading

section Runs

variable {here path : List String} {around : Entries → Entries} {inner : Entries} {name : String}

def entries (es : Table) : List Written := es.map fun (k, v) => .entry k v

lemma applyAll_append (ws vs : List Written) (s : List String × Entries) :
    applyAll (ws ++ vs) s = (applyAll ws s).bind (applyAll vs) := List.foldlM_append

lemma applyAll_cons (w : Written) (ws : List Written) (s : List String × Entries) :
    applyAll (w :: ws) s = (w.apply s).bind (applyAll ws) := List.foldlM_cons

theorem applyAll_entries {es : Table} (hp : Place here around) (hes : (names inner ++ es.map (·.1)).Nodup) :
    applyAll (entries es) (here, around inner) = some (here, around (inner ++ values es)) := by
  induction es generalizing inner with
  | nil =>
    rw [values, List.map_nil, List.append_nil]
    rfl
  | cons e es ih =>
    obtain ⟨k, v⟩ := e
    rw [List.map_cons] at hes
    have hk : k ∉ names inner := fun hmem => (List.nodup_append.mp hes).2.2 k hmem k List.mem_cons_self rfl
    have hstep : (Written.entry k v).apply (here, around inner) = some (here, around (inner ++ [(k, .value v)])) := by
      simp only [Written.apply, hp _ inner, define_absent v hk, Option.map_some]
    have hes' : (names (inner ++ [(k, .value v)]) ++ es.map (·.1)).Nodup := by simpa [names] using hes
    rw [entries, List.map_cons, applyAll_cons, hstep]
    change applyAll (entries es) _ = _
    rw [ih hes', List.append_assoc]
    rfl

def elements (path : List String) (ts : List Table) : List (List Written) := ts.map fun es => .element path :: entries es

lemma applyAll_element {es : Table} {start : Entries} (els : List Entries) (hp : Place path around)
    (hn : name ∉ names inner) (hes : (es.map (·.1)).Nodup)
    (hopen : start.openElement (path ++ [name]) = some (around (inner ++ [(name, .tables (els ++ [[]]))])))
    (here : List String) :
    applyAll (.element (path ++ [name]) :: entries es) (here, start) =
      some (path ++ [name], around (inner ++ [(name, .tables (els ++ [values es]))])) := by
  have hstep : (Written.element (path ++ [name])).apply (here, start) =
      some (path ++ [name], around (inner ++ [(name, .tables (els ++ [[]]))])) := by
    simp only [Written.apply, hopen, Option.map_some]
  rw [applyAll_cons, hstep, Option.bind_some]
  exact applyAll_entries (hp.comp (.tables els hn [])) hes

lemma applyAll_elements {ts : List Table} (els : List Entries) (hp : Place path around) (hn : name ∉ names inner)
    (hts : ∀ es ∈ ts, (es.map (·.1)).Nodup) (here : List String) :
    ∃ here', applyAll (elements (path ++ [name]) ts).flatten (here, around (inner ++ [(name, .tables els)])) =
      some (here', around (inner ++ [(name, .tables (els ++ ts.map values))])) := by
  induction ts generalizing here els with
  | nil => exact ⟨here, by rw [List.map_nil, List.append_nil]; rfl⟩
  | cons es ts ih =>
    obtain ⟨here', ih'⟩ := ih (els ++ [values es]) (fun es hes => hts es (List.mem_cons_of_mem _ hes)) (path ++ [name])
    have hopen : (around (inner ++ [(name, .tables els)])).openElement (path ++ [name]) =
        some (around (inner ++ [(name, .tables (els ++ [[]]))])) := by
      rw [hp.openElement, openElement_present els hn, Option.map_some]
    have hes := applyAll_element els hp hn (hts es List.mem_cons_self) hopen here
    rw [List.append_assoc] at ih'
    rw [elements, List.map_cons, List.flatten_cons, applyAll_append, hes]
    exact ⟨here', ih'⟩

theorem applyAll_new_elements {ts : List Table} {start : Entries} (hne : ts ≠ [])
    (hopen : start.openElement (path ++ [name]) = some (around (inner ++ [(name, .tables [[]])])))
    (hp : Place path around) (hn : name ∉ names inner) (hts : ∀ es ∈ ts, (es.map (·.1)).Nodup) (here : List String) :
    ∃ here', applyAll (elements (path ++ [name]) ts).flatten (here, start) =
      some (here', around (inner ++ [(name, .tables (ts.map values))])) := by
  obtain ⟨es, ts, rfl⟩ := List.exists_cons_of_ne_nil hne
  have hes := applyAll_element [] hp hn (hts es List.mem_cons_self) hopen here
  rw [elements, List.map_cons, List.flatten_cons, applyAll_append, hes]
  exact applyAll_elements [values es] hp hn (fun es hes => hts es (List.mem_cons_of_mem _ hes)) (path ++ [name])

end Runs

def document (parts : List (List Written)) : List Written := (parts.intersperse [.empty]).flatten

lemma document_cons_cons (ws vs : List Written) (parts : List (List Written)) :
    document (ws :: vs :: parts) = ws ++ .empty :: document (vs :: parts) := by
  rw [document, List.intersperse_cons_cons, List.flatten_cons, List.flatten_cons, List.singleton_append]
  rfl

lemma document_singleton (ws : List Written) : document [ws] = ws := List.append_nil ws

lemma applyAll_document (parts : List (List Written)) (s : List String × Entries) :
    applyAll (document parts) s = applyAll parts.flatten s := by
  induction parts generalizing s with
  | nil => rfl
  | cons ws parts ih =>
    cases parts with
    | nil => rfl
    | cons vs parts =>
      rw [document_cons_cons, List.flatten_cons, applyAll_append, applyAll_append]
      exact congrArg _ (funext ih)

lemma isPlain_document {parts : List (List Written)} (h : ∀ ws ∈ parts, ∀ w ∈ ws, w.IsPlain) :
    ∀ w ∈ document parts, w.IsPlain := by
  induction parts with
  | nil => exact fun w hw => absurd hw List.not_mem_nil
  | cons ws parts ih =>
    have hws := h ws List.mem_cons_self
    cases parts with
    | nil => rwa [document_singleton]
    | cons vs parts =>
      intro w hw
      rw [document_cons_cons, List.mem_append, List.mem_cons] at hw
      rcases hw with hw | rfl | hw
      · exact hws w hw
      · exact trivial
      · exact ih (fun us hus => h us (List.mem_cons_of_mem _ hus)) w hw

lemma map_print_document (parts : List (List Written)) :
    (document parts).map Written.print = ((parts.map (List.map Written.print)).intersperse [""]).flatten := by
  induction parts with
  | nil => rfl
  | cons ws parts ih =>
    cases parts with
    | nil => simp [document]
    | cons vs parts =>
      rw [document_cons_cons, List.map_append, List.map_cons, ih]
      simp only [List.map_cons, List.intersperse_cons_cons]
      rfl

section Printing

variable {es : Table}

def IsFlat (es : Table) : Prop := ∀ e ∈ es, e.2.isBlock = false

namespace IsFlat

lemma ownLines (h : IsFlat es) : ownLines es = (entries es).map Written.print := by
  induction es with
  | nil => rfl
  | cons e es ih =>
    have he : e.2.isBlock = false := h e List.mem_cons_self
    rw [Toml.ownLines, he, if_neg Bool.false_ne_true, ih fun e he => h e (List.mem_cons_of_mem _ he)]
    rfl

lemma blocksOf (h : IsFlat es) (path : List String) : blocksOf path es = [] := by
  induction es with
  | nil => rfl
  | cons e es ih =>
    have he : e.2.isBlock = false := h e List.mem_cons_self
    rw [Toml.blocksOf, he, if_neg Bool.false_ne_true, ih fun e he => h e (List.mem_cons_of_mem _ he)]
    rfl

lemma blocks (h : IsFlat es) (path : List String) :
    (Value.table es).blocks path = [(Written.header path :: entries es).map Written.print] := by
  rw [Value.blocks, h.blocksOf]
  simp only [List.isEmpty_nil, Bool.not_true, Bool.and_false, Bool.false_eq_true, if_false, List.append_nil, h.ownLines]
  rfl

end IsFlat

lemma elementBlocks_flat {ts : List Table} (h : ∀ es ∈ ts, IsFlat es) (path : List String) :
    elementBlocks path (ts.map .table) = (elements path ts).map (List.map Written.print) := by
  induction ts with
  | nil => rfl
  | cons es ts ih =>
    have hes := h es List.mem_cons_self
    rw [List.map_cons, elementBlocks, hes.ownLines, hes.blocksOf, ih fun es hes => h es (List.mem_cons_of_mem _ hes)]
    rfl

lemma isBlock_tables {ts : List Table} (hne : ts ≠ []) : (Value.array (ts.map .table)).isBlock = true := by
  obtain ⟨es, ts, rfl⟩ := List.exists_cons_of_ne_nil hne
  simp [Value.isBlock]

end Printing

section Closing

lemma closeEntries_append (xs ys : Entries) :
    Item.closeEntries (xs ++ ys) = Item.closeEntries xs ++ Item.closeEntries ys := by
  induction xs with
  | nil => rfl
  | cons e xs ih =>
    rw [List.cons_append, Item.closeEntries, ih]
    rfl

lemma closeEntries_values (es : Table) : Item.closeEntries (values es) = es := by
  induction es with
  | nil => rfl
  | cons e es ih =>
    rw [values, List.map_cons, Item.closeEntries]
    exact congrArg (e :: ·) ih

lemma closeAll_values (ts : List Table) : Item.closeAll (ts.map values) = ts.map .table := by
  induction ts with
  | nil => rfl
  | cons es ts ih => rw [List.map_cons, Item.closeAll, closeEntries_values, ih, List.map_cons]

end Closing

theorem read_document {parts : List (List Written)} {s : List String × Entries}
    (h : ∀ ws ∈ parts, ∀ w ∈ ws, w.IsPlain) (ha : applyAll parts.flatten ([], []) = some s) :
    read (String.join ((document parts).map fun w => w.print ++ "\n")) = .ok (Item.closeEntries s.2) := by
  have hplain := isPlain_document h
  have hread := readInto_written hplain ((applyAll_document parts _).trans ha)
  simp only [read, ofText?_written hplain, wellFormed, Option.elim_some, bind, Except.bind, hread]
  rfl

end RfBoard.Toml
