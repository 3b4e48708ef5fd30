import RfBoard.Proofs.Toml.StringTokens

namespace RfBoard.Toml

variable {quote c d : Char} {cs ds p more : List Char} {inLines : Bool} {run allowed fuel : Nat}

lemma characters?_plain (hb : c = '\\' → quote ≠ '"') (hp : isPlain c = true ∨ inLines = true ∧ c = '\n') :
    characters? quote inLines (fuel + 1) (c :: more) = (characters? quote inLines fuel more).map (c :: ·) := by
  have hescape : ¬ (c == '\\' && quote == '"') = true := by simpa using hb
  rw [characters?, if_neg hescape, if_pos]
  rcases hp with hp | ⟨rfl, rfl⟩
  · simp [hp]
  · rfl

lemma continuation?_eq_none (hd : isBlank d = false) (hn : d ≠ '\n') (hr : d ≠ '\r') : continuation? (d :: more) = none := by
  have hskip : skipBlanks (d :: more) = d :: more := List.dropWhile_cons_of_neg (by simp [hd])
  rw [continuation?, hskip]
  have hend : lineEnd? (d :: more) = none := by
    rw [lineEnd?]
    · exact fun _ h => hn (List.cons.inj h).1
    · exact fun _ h => hr (List.cons.inj h).1
  rw [hend]
  rfl

lemma characters?_escape (ds : List Char) (hd : isBlank d = false) (hn : d ≠ '\n') (hr : d ≠ '\r')
    (he : escape (d :: ds ++ more) = some (c, more)) :
    characters? '"' inLines (fuel + 1) ('\\' :: d :: ds ++ more) = (characters? '"' inLines fuel more).map (c :: ·) := by
  have hcont : (if inLines then continuation? (d :: ds ++ more) else none) = none := by
    split
    · exact continuation?_eq_none hd hn hr
    · rfl
  have hescape : ('\\' == '\\' && '"' == '"') = true := rfl
  rw [List.cons_append, characters?, if_pos hescape]
  simp only [hcont, he, Option.bind_some]

lemma escape_hexDigits (hc : isPlain c = false) (more : List Char) :
    escape ('u' :: hexDigits c.toNat ++ more) = some (c, more) := by
  obtain ⟨hl, hh, hn⟩ := hexDigits_spec ⟨c.toNat, lt_of_not_isPlain hc⟩
  dsimp only at hl hh hn
  have htake : (hexDigits c.toNat ++ more).take 4 = hexDigits c.toNat := by rw [← hl, List.take_left]
  have hdrop : (hexDigits c.toNat ++ more).drop 4 = more := by rw [← hl, List.drop_left]
  have hvalid : c.toNat.isValidChar := c.valid
  change codePoint 4 (hexDigits c.toNat ++ more) = _
  simp [codePoint, htake, hdrop, hl, hh, hn, hvalid]

lemma characters?_escapeOf (hc : c ≠ '"') :
    characters? '"' inLines (fuel + 1) (escapeOf inLines c ++ more) = (characters? '"' inLines fuel more).map (c :: ·) := by
  simp only [escapeOf, beq_iff_eq]
  split
  · subst_vars
    exact characters?_escape [] rfl (by decide) (by decide) rfl
  split
  · subst_vars
    exact characters?_escape [] rfl (by decide) (by decide) rfl
  split
  · subst_vars
    cases inLines with
    | false => exact characters?_escape [] rfl (by decide) (by decide) rfl
    | true => exact characters?_plain (fun h => absurd h (by decide)) (.inr ⟨rfl, rfl⟩)
  split
  · subst_vars
    exact characters?_escape [] rfl (by decide) (by decide) rfl
  split
  · subst_vars
    exact characters?_escape [] rfl (by decide) (by decide) rfl
  split
  · subst_vars
    exact characters?_escape [] rfl (by decide) (by decide) rfl
  split
  · exact characters?_plain (fun h => absurd h ‹_›) (.inl ‹_›)
  · rename_i hplain
    exact characters?_escape _ rfl (by decide) (by decide) (escape_hexDigits (by simpa using hplain) more)

lemma characters?_escaped (hfuel : cs.length < fuel) :
    characters? '"' inLines fuel (escaped inLines allowed run cs) = some cs := by
  induction cs generalizing run fuel with
  | nil =>
    obtain ⟨fuel, rfl⟩ := Nat.exists_eq_succ_of_ne_zero (Nat.ne_of_gt hfuel)
    rfl
  | cons c cs ih =>
    obtain ⟨fuel, rfl⟩ := Nat.exists_eq_succ_of_ne_zero (Nat.ne_of_gt (Nat.zero_lt_of_lt hfuel))
    have hfuel' : cs.length < fuel := Nat.lt_of_succ_lt_succ hfuel
    by_cases hc : c = '"'
    · rw [hc]
      rcases Nat.lt_or_ge run allowed with hlt | hge
      · rw [escaped_quote_short hlt, characters?_plain (fun h => absurd h (by decide)) (.inl rfl), ih hfuel']
        rfl
      · rw [escaped_quote_long hge, List.cons_append, List.singleton_append]
        rw [show '\\' :: '"' :: escaped inLines allowed 0 cs = '\\' :: '"' :: [] ++ escaped inLines allowed 0 cs from rfl,
          characters?_escape [] rfl (by decide) (by decide) rfl, ih hfuel']
        rfl
    · rw [escaped_cons hc, characters?_escapeOf hc, ih hfuel']
      rfl

lemma characters?_literal (hplain : ∀ c ∈ cs, isPlain c = true ∨ inLines = true ∧ c = '\n') (hfuel : cs.length < fuel) :
    characters? '\'' inLines fuel cs = some cs := by
  induction cs generalizing fuel with
  | nil =>
    obtain ⟨fuel, rfl⟩ := Nat.exists_eq_succ_of_ne_zero (Nat.ne_of_gt hfuel)
    rfl
  | cons c cs ih =>
    obtain ⟨fuel, rfl⟩ := Nat.exists_eq_succ_of_ne_zero (Nat.ne_of_gt (Nat.zero_lt_of_lt hfuel))
    rw [characters?_plain (fun _ => by decide) (hplain c List.mem_cons_self),
      ih (fun d hd => hplain d (List.mem_cons_of_mem c hd)) (Nat.lt_of_succ_lt_succ hfuel)]
    rfl

lemma isPlain_or_of_any (h : cs.any needsEscape = false) : ∀ c ∈ cs, isPlain c = true ∨ c = '\n' := by
  intro c hc
  have hn := List.any_eq_false.mp h c hc
  simp only [needsEscape, Bool.and_eq_true, Bool.not_eq_true', decide_eq_true_eq, not_and, not_not] at hn
  cases hp : isPlain c with
  | true => exact .inl rfl
  | false => exact .inr (hn hp)

lemma closed?_append (quotes p : List Char) : closed? quotes (p ++ quotes) = some p := by
  simp [closed?]

lemma unquoted?_line (hh : p.head? ≠ some quote) :
    unquoted? (quote :: p ++ [quote]) = characters? quote false ((p ++ [quote]).length + 1) p := by
  have htake : ((p ++ [quote]).take 2 == [quote, quote]) = false := by
    rw [beq_eq_false_iff_ne]
    intro h
    cases p with
    | nil => cases h
    | cons c cs => exact hh (congrArg some (List.cons.inj h).1)
  rw [List.cons_append, unquoted?, htake, if_neg Bool.false_ne_true, closed?_append]
  rfl

lemma lineEnd?_eq_none (h : ∀ c, cs.head? = some c → c ≠ '\n' ∧ c ≠ '\r') : lineEnd? cs = none := by
  rw [lineEnd?]
  · rintro ds rfl
    exact (h '\n' rfl).1 rfl
  · rintro ds rfl
    exact (h '\r' rfl).2 rfl

lemma lineEnd?_lead (cs more : List Char) (h : '\n' ∉ cs → ∀ c, more.head? = some c → c ≠ '\n' ∧ c ≠ '\r') :
    (lineEnd? (lead cs ++ more)).getD (lead cs ++ more) = more := by
  rw [lead]
  split
  · rfl
  · rename_i hn
    rw [List.nil_append, lineEnd?_eq_none (h (by simpa using hn))]
    rfl

lemma unquoted?_lines (cs p : List Char) (hq : quote = '"' ∨ quote = '\'')
    (h : '\n' ∉ cs → ∀ c, p.head? = some c → c ≠ '\n' ∧ c ≠ '\r') :
    ∃ fuel, p.length < fuel ∧ unquoted? (List.replicate 3 quote ++ lead cs ++ p ++ List.replicate 3 quote) =
      characters? quote true fuel p := by
  have hlead := lineEnd?_lead cs (p ++ [quote, quote, quote]) fun hn c hc => by
    cases p with
    | nil =>
      obtain rfl := Option.some.inj hc
      rcases hq with rfl | rfl <;> decide
    | cons d ds => exact h hn c hc
  refine ⟨(lead cs ++ (p ++ [quote, quote, quote])).length + 1, by simp only [List.length_append]; omega, ?_⟩
  simp [List.replicate, unquoted?, hlead, closed?_append]

lemma length_le_escaped (inLines : Bool) (allowed run : Nat) (cs : List Char) :
    cs.length ≤ (escaped inLines allowed run cs).length := by
  induction cs generalizing run with
  | nil => exact Nat.zero_le _
  | cons c cs ih =>
    have ih₀ := ih 0
    by_cases hc : c = '"'
    · rw [hc]
      rcases Nat.lt_or_ge run allowed with hlt | hge
      · rw [escaped_quote_short hlt]
        exact Nat.succ_le_succ (ih _)
      · rw [escaped_quote_long hge, List.length_append, List.length_cons, List.length_cons, List.length_singleton]
        omega
    · obtain ⟨d, ds, hd, -⟩ := head?_escapeOf inLines hc
      rw [escaped_cons hc, hd, List.length_append, List.length_cons, List.length_cons]
      omega

lemma head_escapeOf (inLines : Bool) (hn : c ≠ '\n') : ∃ d ds, escapeOf inLines c = d :: ds ∧ d ≠ '\n' ∧ d ≠ '\r' := by
  simp only [escapeOf, beq_iff_eq]
  repeat' split
  all_goals first
    | exact absurd ‹_› hn
    | exact ⟨_, _, rfl, by decide, by decide⟩
    | exact ⟨_, _, rfl, hn, ‹_›⟩

lemma head_escaped (hn : '\n' ∉ cs) (hd : (escaped true 2 0 cs).head? = some d) : d ≠ '\n' ∧ d ≠ '\r' := by
  cases cs with
  | nil => cases hd
  | cons c cs =>
    by_cases hc : c = '"'
    · rw [hc, escaped_quote_short two_pos] at hd
      obtain rfl := Option.some.inj hd
      decide
    · obtain ⟨d', ds, he, hne⟩ := head_escapeOf true (Ne.symm (List.ne_of_not_mem_cons hn))
      rw [escaped_cons hc, he] at hd
      obtain rfl := Option.some.inj hd
      exact hne

lemma head_literal (he : cs.any needsEscape = false) (hn : '\n' ∉ cs) (hd : cs.head? = some d) : d ≠ '\n' ∧ d ≠ '\r' := by
  have hmem := List.mem_of_head? hd
  have hne : d ≠ '\n' := fun h => hn (h ▸ hmem)
  refine ⟨hne, ?_⟩
  rintro rfl
  exact absurd ((isPlain_or_of_any he '\r' hmem).resolve_right hne) (by decide)

theorem unquoted?_printChars (cs : List Char) : unquoted? (printChars cs) = some cs := by
  cases hf : formOf cs with
  | basic =>
    simp only [printChars, hf]
    rw [unquoted?_line head?_escaped]
    exact characters?_escaped ((length_le_escaped false 0 0 cs).trans_lt (by rw [List.length_append]; omega))
  | literal =>
    obtain ⟨he, hq, hn⟩ := of_formOf_literal hf
    simp only [printChars, hf]
    rw [unquoted?_line fun hh => not_mem_of_runs hq (List.mem_of_head? hh)]
    refine characters?_literal (fun c hc => ?_) (by rw [List.length_append]; omega)
    exact .inl ((isPlain_or_of_any he c hc).resolve_right fun h => hn (h ▸ hc))
  | basicLines =>
    simp only [printChars, hf]
    obtain ⟨fuel, hfuel, hu⟩ := unquoted?_lines cs (escaped true 2 0 cs) (.inl rfl) fun hn _ hc => head_escaped hn hc
    rw [hu]
    exact characters?_escaped ((length_le_escaped true 2 0 cs).trans_lt hfuel)
  | literalLines =>
    obtain ⟨he, -⟩ := of_formOf_literalLines hf
    simp only [printChars, hf]
    obtain ⟨fuel, hfuel, hu⟩ := unquoted?_lines cs cs (.inr rfl) fun hn _ hc => head_literal he hn hc
    rw [hu]
    exact characters?_literal (fun c hc => (isPlain_or_of_any he c hc).imp_right fun h => ⟨rfl, h⟩) hfuel

end RfBoard.Toml
