import Mathlib.Tactic
import RfBoard.Toml.Printing

namespace RfBoard.Toml

variable {quote c d : Char} {cs p q more tail : List Char} {inLines : Bool} {run allowed : Nat}

def Passed (token : List Char → List Char × List Char) (p : List Char) : Prop :=
  ∀ more, more ≠ [] → token (p ++ more) = (p ++ (token more).1, (token more).2)

namespace Passed

variable {token : List Char → List Char × List Char}

lemma nil : Passed token [] := fun _ _ => rfl

lemma append (hp : Passed token p) (hq : Passed token q) : Passed token (p ++ q) := fun more hm => by
  rw [List.append_assoc, hp _ (List.append_ne_nil_of_right_ne_nil q hm), hq more hm, List.append_assoc]

end Passed

inductive Piece (inLines : Bool) : List Char → Prop
  | plain {c : Char} : c ≠ '"' → c ≠ '\\' → (c = '\n' → inLines = true) → Piece inLines [c]
  | escape {d : Char} : d ≠ '\n' → Piece inLines ['\\', d]
  | append {p q : List Char} : Piece inLines p → Piece inLines q → Piece inLines (p ++ q)

lemma lineToken_cons (hq : c ≠ quote) (hn : c ≠ '\n') (hb : ∀ d ds, more = d :: ds → c = '\\' → quote = '"' → isHidden d = false)
    (hm : more ≠ []) : lineToken quote (c :: more) = (c :: (lineToken quote more).1, (lineToken quote more).2) := by
  obtain ⟨d, ds, rfl⟩ := List.exists_cons_of_ne_nil hm
  have hhidden : (c == '\\' && quote == '"' && isHidden d) = false := by
    by_contra h
    simp only [Bool.not_eq_false, Bool.and_eq_true, beq_iff_eq] at h
    exact Bool.false_ne_true ((hb d ds rfl h.1.1 h.1.2).symm.trans h.2)
  rw [lineToken, if_neg (by simpa using hq), if_neg (by simpa using hn)]
  simp only [hhidden, Bool.false_eq_true, if_false]

lemma lineToken_hidden (hd : isHidden d = true) (more : List Char) :
    lineToken '"' ('\\' :: d :: more) = ('\\' :: d :: (lineToken '"' more).1, (lineToken '"' more).2) := by
  rw [lineToken, if_neg (by decide), if_neg (by decide)]
  simp only [hd]
  rfl

lemma linesToken_cons (hq : ¬ (c = quote ∧ more.take 2 = [quote, quote]))
    (hb : ∀ d ds, more = d :: ds → c = '\\' → quote = '"' → isHidden d = false) (hm : more ≠ []) :
    linesToken quote (c :: more) = (c :: (linesToken quote more).1, (linesToken quote more).2) := by
  obtain ⟨d, ds, rfl⟩ := List.exists_cons_of_ne_nil hm
  have hhidden : (c == '\\' && quote == '"' && isHidden d) = false := by
    by_contra h
    simp only [Bool.not_eq_false, Bool.and_eq_true, beq_iff_eq] at h
    exact Bool.false_ne_true ((hb d ds rfl h.1.1 h.1.2).symm.trans h.2)
  rw [linesToken, if_neg (by simpa using hq)]
  simp only [hhidden, Bool.false_eq_true, if_false]

lemma linesToken_hidden (hd : isHidden d = true) (more : List Char) :
    linesToken '"' ('\\' :: d :: more) = ('\\' :: d :: (linesToken '"' more).1, (linesToken '"' more).2) := by
  rw [linesToken, if_neg (by simp)]
  simp only [hd]
  rfl

structure Searches (inLines : Bool) (token : List Char → List Char × List Char) : Prop where
  plain {c : Char} : c ≠ '"' → c ≠ '\\' → (c = '\n' → inLines = true) → Passed token [c]
  hidden {d : Char} : isHidden d = true → Passed token ['\\', d]
  backslash {d : Char} {more : List Char} : isHidden d = false →
    token ('\\' :: d :: more) = ('\\' :: (token (d :: more)).1, (token (d :: more)).2)

lemma searches_lineToken : Searches false (lineToken '"') where
  plain hq hb hn _ := lineToken_cons hq (fun h => absurd (hn h) Bool.false_ne_true) fun _ _ _ h => absurd h hb
  hidden hd more _ := lineToken_hidden hd more
  backslash hd := lineToken_cons (by decide) (by decide) (by rintro _ _ ⟨⟩ _ _; exact hd) (by simp)

lemma searches_linesToken : Searches true (linesToken '"') where
  plain hq hb _ _ := linesToken_cons (fun h => hq h.1) fun _ _ _ h => absurd h hb
  hidden hd more _ := linesToken_hidden hd more
  backslash hd := linesToken_cons (by simp) (by rintro _ _ ⟨⟩ _ _; exact hd) (by simp)

lemma Piece.passed {token : List Char → List Char × List Char} (ht : Searches inLines token) (h : Piece inLines p) :
    Passed token p := by
  induction h with
  | plain hq hb hn => exact ht.plain hq hb hn
  | @escape d hd =>
    cases hh : isHidden d with
    | true => exact ht.hidden hh
    | false =>
      have hne : d ≠ '"' ∧ d ≠ '\\' := by simpa [isHidden] using hh
      intro more hm
      have hp := ht.plain hne.1 hne.2 (fun h => absurd h hd) more hm
      rw [List.singleton_append] at hp
      rw [List.cons_append, List.singleton_append, ht.backslash hh, hp]
      rfl
  | append _ _ hp hq => exact hp.append hq

lemma lt_of_not_isPlain (h : isPlain c = false) : c.toNat < 128 := by
  by_contra hlt
  have hle : ' ' ≤ c := Char.le_def.mpr (UInt32.le_iff_toNat_le.mpr (by change 32 ≤ c.toNat; omega))
  have hne : c ≠ '\x7f' := by
    rintro rfl
    exact hlt (by decide)
  simp [isPlain, hle, hne] at h

def hexDigits (n : Nat) : List Char := (Number.hexPadded 4 n).toList

lemma hexDigits_spec : ∀ n : Fin 128, (hexDigits n).length = 4 ∧ (hexDigits n).all isHexDigit = true ∧
    natInBase 16 (hexDigits n) = n := by
  decide +kernel

lemma Piece.of_all_isHexDigit (hne : cs ≠ []) (h : cs.all isHexDigit = true) : Piece inLines cs := by
  induction cs with
  | nil => exact absurd rfl hne
  | cons c cs ih =>
    rw [List.all_cons, Bool.and_eq_true] at h
    have hc : Piece inLines [c] := by
      refine .plain ?_ ?_ ?_
      · rintro rfl
        exact absurd h.1 (by decide)
      · rintro rfl
        exact absurd h.1 (by decide)
      · rintro rfl
        exact absurd h.1 (by decide)
    rcases List.eq_nil_or_concat cs with rfl | ⟨_, _, hcs⟩
    · exact hc
    · exact hc.append (ih (by simp [hcs]) h.2)

lemma Piece.of_escapeOf (inLines : Bool) (hc : c ≠ '"') : Piece inLines (escapeOf inLines c) := by
  simp only [escapeOf, beq_iff_eq]
  split
  · exact .escape (by decide)
  split
  · exact .escape (by decide)
  split
  · cases inLines
    · exact .escape (by decide)
    · exact .plain (by decide) (by decide) fun _ => rfl
  split
  · exact .escape (by decide)
  split
  · exact .escape (by decide)
  split
  · exact .escape (by decide)
  split
  · exact .plain hc ‹_› fun h => absurd h ‹_›
  · rename_i hplain
    obtain ⟨hl, hh, -⟩ := hexDigits_spec ⟨c.toNat, lt_of_not_isPlain (by simpa using hplain)⟩
    have hne : hexDigits c.toNat ≠ [] := fun h => by
      rw [h] at hl
      cases hl
    exact .append (.escape (by decide)) (.of_all_isHexDigit hne hh)

lemma head?_escapeOf (inLines : Bool) (hc : c ≠ '"') : ∃ d ds, escapeOf inLines c = d :: ds ∧ d ≠ '"' := by
  simp only [escapeOf, beq_iff_eq]
  repeat' split
  all_goals exact ⟨_, _, rfl, by first | decide | exact hc⟩

lemma escaped_quote_short (h : run < allowed) :
    escaped inLines allowed run ('"' :: cs) = '"' :: escaped inLines allowed (run + 1) cs := if_pos h

lemma escaped_quote_long (h : allowed ≤ run) :
    escaped inLines allowed run ('"' :: cs) = ['\\', '"'] ++ escaped inLines allowed 0 cs := if_neg (not_lt.mpr h)

lemma escaped_cons (hc : c ≠ '"') :
    escaped inLines allowed run (c :: cs) = escapeOf inLines c ++ escaped inLines allowed 0 cs := by
  rw [escaped]
  exact hc

lemma passed_escaped : Passed (lineToken '"') (escaped false 0 run cs) := by
  induction cs generalizing run with
  | nil => exact .nil
  | cons c cs ih =>
    by_cases hc : c = '"'
    · rw [hc, escaped_quote_long (Nat.zero_le run)]
      exact ((Piece.escape (by decide)).passed searches_lineToken).append ih
    · rw [escaped_cons hc]
      exact ((Piece.of_escapeOf false hc).passed searches_lineToken).append ih

lemma head?_escaped : (escaped false 0 run cs).head? ≠ some '"' := by
  cases cs with
  | nil => exact nofun
  | cons c cs =>
    by_cases hc : c = '"'
    · rw [hc, escaped_quote_long (Nat.zero_le run)]
      simp
    · obtain ⟨d, ds, hd, hne⟩ := head?_escapeOf false hc
      rw [escaped_cons hc, hd]
      simpa using hne

lemma passed_literal (hq : '\'' ∉ cs) (hn : '\n' ∉ cs) : Passed (lineToken '\'') cs := by
  induction cs with
  | nil => exact .nil
  | cons c cs ih =>
    rw [List.mem_cons, not_or] at hq hn
    have hc : Passed (lineToken '\'') [c] := fun more =>
      lineToken_cons (Ne.symm hq.1) (Ne.symm hn.1) fun _ _ _ _ h => absurd h (by decide)
    exact hc.append (ih hq.2 hn.2)

inductive Within (quote : Char) : Nat → List Char → Prop
  | nil {run : Nat} : run ≤ 2 → Within quote run []
  | quote {run : Nat} {p : List Char} : run < 2 → Within quote (run + 1) p → Within quote run (quote :: p)
  | piece {run : Nat} {c : Char} {q p : List Char} : run ≤ 2 → c ≠ quote → Passed (linesToken quote) (c :: q) →
      Within quote 0 p → Within quote run (c :: q ++ p)

lemma linesToken_quotes (hrun : run ≤ 2) (hc : c ≠ quote) (more : List Char) :
    linesToken quote (List.replicate run quote ++ c :: more) =
      (List.replicate run quote ++ (linesToken quote (c :: more)).1, (linesToken quote (c :: more)).2) := by
  have hb (ms : List Char) : ∀ d ds, ms = d :: ds → quote = '\\' → quote = '"' → isHidden d = false := by
    rintro _ _ _ rfl h
    exact absurd h (by decide)
  have hone : linesToken quote (quote :: c :: more) =
      (quote :: (linesToken quote (c :: more)).1, (linesToken quote (c :: more)).2) :=
    linesToken_cons (by simp [hc]) (hb _) (by simp)
  interval_cases run
  · rfl
  · exact hone
  · change linesToken quote (quote :: quote :: c :: more) = _
    rw [linesToken_cons (by simp [hc]) (hb _) (by simp), hone]
    rfl

lemma linesToken_within (hn : quote ≠ '\n') (h : Within quote run p) (tail : List Char) :
    linesToken quote (List.replicate run quote ++ (p ++ quote :: quote :: quote :: '\n' :: tail)) =
      (List.replicate run quote ++ (p ++ [quote, quote, quote]), '\n' :: tail) := by
  induction h with
  | @nil run hrun => interval_cases run <;> simp [linesToken, List.replicate, hn.symm]
  | @quote run p hrun _ ih =>
    rw [List.replicate_succ', List.append_assoc] at ih
    simpa using ih
  | @piece run c q p hrun hc hq _ ih =>
    have hne : p ++ quote :: quote :: quote :: '\n' :: tail ≠ [] := by simp
    rw [List.append_assoc, List.cons_append, linesToken_quotes hrun hc, ← List.cons_append, hq _ hne]
    rw [List.replicate_zero, List.nil_append, List.nil_append] at ih
    rw [ih, List.append_assoc]

lemma within_escaped (hrun : run ≤ 2) : Within '"' run (escaped true 2 run cs) := by
  induction cs generalizing run with
  | nil => exact .nil hrun
  | cons c cs ih =>
    by_cases hc : c = '"'
    · rw [hc]
      rcases Nat.lt_or_ge run 2 with hlt | hge
      · rw [escaped_quote_short hlt]
        exact .quote hlt (ih hlt)
      · rw [escaped_quote_long hge]
        exact .piece hrun (by decide) ((Piece.escape (by decide)).passed searches_linesToken) (ih (Nat.zero_le 2))
    · obtain ⟨d, ds, hd, hne⟩ := head?_escapeOf true hc
      have hp := (Piece.of_escapeOf true hc).passed searches_linesToken
      rw [escaped_cons hc, hd]
      exact .piece hrun hne (hd ▸ hp) (ih (Nat.zero_le 2))

def runs (quote : Char) (state : Nat × Nat) (cs : List Char) : Nat × Nat :=
  cs.foldl (fun (run, longest) c => if c == quote then (run + 1, max longest (run + 1)) else (0, longest)) state

lemma le_runs (quote : Char) (state : Nat × Nat) (cs : List Char) : state.2 ≤ (runs quote state cs).2 := by
  induction cs generalizing state with
  | nil => exact le_rfl
  | cons c cs ih =>
    refine le_trans ?_ (ih _)
    dsimp only
    split
    · exact le_max_left _ _
    · exact le_rfl

lemma runs_quote (longest : Nat) : runs quote (run, longest) (quote :: cs) = runs quote (run + 1, max longest (run + 1)) cs := by
  simp [runs]

lemma runs_other (hc : c ≠ quote) (longest : Nat) : runs quote (run, longest) (c :: cs) = runs quote (0, longest) cs := by
  simp [runs, hc]

lemma lt_runs_quote (longest : Nat) : run < (runs quote (run, longest) (quote :: cs)).2 := by
  rw [runs_quote]
  exact (le_max_right longest (run + 1)).trans (le_runs quote (run + 1, max longest (run + 1)) cs)

lemma within_literal {longest : Nat} (hrun : run ≤ 2) (h : (runs '\'' (run, longest) cs).2 ≤ 2) : Within '\'' run cs := by
  induction cs generalizing run longest with
  | nil => exact .nil hrun
  | cons c cs ih =>
    by_cases hc : c = '\''
    · rw [hc] at h ⊢
      have hlt := (lt_runs_quote longest).trans_le h
      rw [runs_quote] at h
      exact .quote hlt (ih hlt h)
    · rw [runs_other hc] at h
      have hp : Passed (linesToken '\'') [c] := fun more =>
        linesToken_cons (fun h => hc h.1) fun _ _ _ _ h => absurd h (by decide)
      exact .piece hrun hc hp (ih (Nat.zero_le 2) h)

lemma not_mem_of_runs {longest : Nat} (h : (runs quote (run, longest) cs).2 = 0) : quote ∉ cs := by
  induction cs generalizing run longest with
  | nil => exact List.not_mem_nil
  | cons c cs ih =>
    by_cases hc : c = quote
    · rw [hc] at h
      exact absurd h (Nat.ne_of_gt (Nat.zero_lt_of_lt (lt_runs_quote longest)))
    · rw [runs_other hc] at h
      exact fun hmem => (List.mem_cons.mp hmem).elim (Ne.symm hc) (ih h)

theorem quotedToken?_line (hq : quote = '"' ∨ quote = '\'') (hp : Passed (lineToken quote) p) (hh : p.head? ≠ some quote)
    (tail : List Char) :
    quotedToken? (quote :: p ++ [quote] ++ '\n' :: tail) = some (quote :: p ++ [quote], '\n' :: tail) := by
  have hquote : (quote == '"' || quote == '\'') = true := by simpa using hq
  have hassoc : quote :: p ++ [quote] ++ '\n' :: tail = quote :: (p ++ quote :: '\n' :: tail) := by simp
  have htake : ((p ++ quote :: '\n' :: tail).take 2 == [quote, quote]) = false := by
    rw [beq_eq_false_iff_ne]
    intro h
    cases p with
    | nil =>
      have hn : '\n' = quote := (List.cons.inj (List.cons.inj h).2).1
      rcases hq with rfl | rfl <;> exact absurd hn (by decide)
    | cons c cs => exact hh (congrArg some (List.cons.inj h).1)
  have hend : lineToken quote (quote :: '\n' :: tail) = ([quote], '\n' :: tail) := by simp [lineToken]
  have htoken := hp (quote :: '\n' :: tail) (by simp)
  rw [hend] at htoken
  rw [hassoc, quotedToken?, if_pos hquote, htake, if_neg Bool.false_ne_true, htoken]
  rfl

theorem quotedToken?_lines (hq : quote = '"' ∨ quote = '\'') (hp : Passed (linesToken quote) p) (hw : Within quote 0 q)
    (tail : List Char) :
    quotedToken? (List.replicate 3 quote ++ p ++ q ++ List.replicate 3 quote ++ '\n' :: tail) =
      some (List.replicate 3 quote ++ p ++ q ++ List.replicate 3 quote, '\n' :: tail) := by
  have hquote : (quote == '"' || quote == '\'') = true := by simpa using hq
  have hn : quote ≠ '\n' := by rcases hq with rfl | rfl <;> decide
  have hend := linesToken_within hn hw tail
  rw [List.replicate_zero, List.nil_append, List.nil_append] at hend
  have htoken := hp (q ++ quote :: quote :: quote :: '\n' :: tail) (by simp)
  rw [hend] at htoken
  simp [List.replicate, quotedToken?, hquote, htoken]

lemma passed_lead (hq : quote ≠ '\n') : Passed (linesToken quote) (lead cs) := by
  rw [lead]
  split
  · exact fun more => linesToken_cons (fun h => hq h.1.symm) fun _ _ _ h => absurd h (by decide)
  · exact .nil

lemma of_formOf_literal (h : formOf cs = .literal) :
    cs.any needsEscape = false ∧ (runs '\'' (0, 0) cs).2 = 0 ∧ '\n' ∉ cs := by
  simp only [formOf] at h
  split at h
  · cases h
  split at h
  · rename_i hl
    simp only [Bool.and_eq_true, Bool.not_eq_true', decide_eq_true_eq, List.contains_eq_mem, decide_eq_false_iff_not] at hl
    exact ⟨hl.1.1, hl.1.2, hl.2⟩
  split at h
  · cases h
  split at h
  · cases h
  split at h <;> cases h

lemma of_formOf_literalLines (h : formOf cs = .literalLines) :
    cs.any needsEscape = false ∧ (runs '\'' (0, 0) cs).2 ≤ 2 := by
  simp only [formOf] at h
  split at h
  · cases h
  split at h
  · cases h
  split at h
  · cases h
  split at h
  · rename_i hl
    simp only [Bool.and_eq_true, Bool.not_eq_true', decide_eq_true_eq] at hl
    exact hl
  split at h <;> cases h

theorem quotedToken?_printChars (cs tail : List Char) :
    quotedToken? (printChars cs ++ '\n' :: tail) = some (printChars cs, '\n' :: tail) := by
  cases hf : formOf cs with
  | basic =>
    simp only [printChars, hf]
    exact quotedToken?_line (.inl rfl) passed_escaped head?_escaped tail
  | literal =>
    obtain ⟨-, hq, hn⟩ := of_formOf_literal hf
    have hmem := not_mem_of_runs hq
    simp only [printChars, hf]
    exact quotedToken?_line (.inr rfl) (passed_literal hmem hn) (fun hh => hmem (List.mem_of_head? hh)) tail
  | basicLines =>
    simp only [printChars, hf]
    exact quotedToken?_lines (.inl rfl) (passed_lead (by decide)) (within_escaped (Nat.zero_le 2)) tail
  | literalLines =>
    obtain ⟨-, hq⟩ := of_formOf_literalLines hf
    simp only [printChars, hf]
    exact quotedToken?_lines (.inr rfl) (passed_lead (by decide)) (within_literal (Nat.zero_le 2) hq) tail

end RfBoard.Toml
