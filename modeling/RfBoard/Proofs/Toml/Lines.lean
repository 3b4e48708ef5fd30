import RfBoard.Proofs.Toml.Numerals
import RfBoard.Proofs.Toml.StringContents
import RfBoard.Toml.Reading

namespace RfBoard.Toml

variable {c stop : Char} {cs w more tail : List Char} {k s : String} {v : Value} {path : List String} {fuel : Nat}

structure IsScalar (v : Value) : Prop where
  token : ∀ tail, scalarToken (v.print.toList ++ '\n' :: tail) = some (v.print.toList, '\n' :: tail)
  head : ∃ c cs, v.print.toList = c :: cs ∧ isBlank c = false ∧ c ≠ '[' ∧ c ≠ '\x7b'
  read : readScalar v.print.toList = .ok v

lemma quotedToken?_eq_none (h : c ≠ '"' ∧ c ≠ '\'') (cs : List Char) : quotedToken? (c :: cs) = none := by
  rw [quotedToken?, if_neg]
  simpa using h

def IsWord (c : Char) : Prop := isMark c = false ∧ c ≠ '"' ∧ c ≠ '\''

def nonWords : List Char := [' ', '\t', '=', ',', '[', ']', '\x7b', '\x7d', '#', '\r', '\n', '"', '\'']

lemma isWord_iff : IsWord c ↔ c ∉ nonWords := by
  simp only [IsWord, isMark, isBlank, nonWords]
  simp
  tauto

lemma isWord_of_class {p : Char → Bool} (hp : nonWords.all (fun d => !p d) = true) (hc : p c = true) : IsWord c :=
  isWord_iff.mpr fun hmem => by simpa [hc] using List.all_eq_true.mp hp c hmem

lemma isWord_digit (hc : c.isDigit = true) : IsWord c := isWord_of_class (p := Char.isDigit) (by decide) hc

lemma isWord_bareKeyChar (hc : isBareKeyChar c = true) : IsWord c := isWord_of_class (p := isBareKeyChar) (by decide) hc

lemma IsWord.ne (h : IsWord c) {d : Char} (hd : d ∈ nonWords) : c ≠ d := by
  rintro rfl
  exact isWord_iff.mp h hd

lemma IsWord.isBlank (h : IsWord c) : isBlank c = false := by
  simp [Toml.isBlank, h.ne (d := ' ') (by decide), h.ne (d := '\t') (by decide)]

lemma wordToken_word (h : ∀ c ∈ w, IsWord c) (tail : List Char) : wordToken (w ++ '\n' :: tail) = (w, '\n' :: tail) := by
  induction w with
  | nil => rfl
  | cons c w ih =>
    have hc : (!isMark c || isBlank c && startsWord (skipBlanks (w ++ '\n' :: tail))) = true := by
      simp [(h c List.mem_cons_self).1]
    rw [List.cons_append, wordToken, if_pos hc, ih fun d hd => h d (List.mem_cons_of_mem c hd)]

lemma isScalar_of_words (hw : ∀ c ∈ v.print.toList, IsWord c) (hs : scalar? v.print.toList = some v)
    (hne : v.print.toList ≠ []) : IsScalar v := by
  obtain ⟨c, cs, hc⟩ := List.exists_cons_of_ne_nil hne
  have hword := hw c (by rw [hc]; exact List.mem_cons_self)
  refine ⟨fun tail => ?_, ⟨c, cs, hc, hword.isBlank, hword.ne (by decide), hword.ne (by decide)⟩, ?_⟩
  · have htoken := wordToken_word hw tail
    rw [hc] at htoken ⊢
    rw [scalarToken, htoken, List.cons_append, quotedToken?_eq_none hword.2]
    rfl
  · rw [readScalar, hs]
    · rfl
    · intro tail h
      exact hword.2.1 (List.cons.inj (hc.symm.trans h)).1
    · intro tail h
      exact hword.2.2 (List.cons.inj (hc.symm.trans h)).1

lemma printChars_cons (cs : List Char) : ∃ quote ds, printChars cs = quote :: ds ∧ (quote = '"' ∨ quote = '\'') := by
  cases hf : formOf cs <;> simp only [printChars, hf, List.replicate]
  · exact ⟨_, _, rfl, .inl rfl⟩
  · exact ⟨_, _, rfl, .inr rfl⟩
  · exact ⟨_, _, rfl, .inl rfl⟩
  · exact ⟨_, _, rfl, .inr rfl⟩

lemma isScalar_string (s : String) : IsScalar (.string s) := by
  have hp : (Value.string s).print.toList = printChars s.toList := String.toList_ofList
  obtain ⟨quote, ds, hc, hq⟩ := printChars_cons s.toList
  refine ⟨fun tail => ?_, ⟨quote, ds, hp.trans hc, ?_⟩, ?_⟩
  · rw [hp, scalarToken, quotedToken?_printChars]
  · rcases hq with rfl | rfl <;> decide
  · have hu := unquoted?_printChars s.toList
    rw [hp]
    rw [hc] at hu ⊢
    rcases hq with rfl | rfl <;>
      simp only [readScalar, hu, Option.map_some, String.ofList_toList] <;> rfl

lemma isScalar_boolean (b : Bool) : IsScalar (.boolean b) := by
  have hword : (if b then ['t', 'r', 'u', 'e'] else ['f', 'a', 'l', 's', 'e']).all isBareKeyChar = true := by
    cases b <;> decide
  refine isScalar_of_words (fun c hc => isWord_bareKeyChar (List.all_eq_true.mp hword c ?_)) ?_ ?_
  · cases b <;> exact hc
  · cases b <;> rfl
  · cases b <;> exact List.cons_ne_nil _ _

lemma isWord_signed {negative : Bool} (h : ∀ c ∈ cs, IsWord c) : ∀ c ∈ Number.signed negative cs, IsWord c := by
  cases negative with
  | false => exact h
  | true => exact List.forall_mem_cons.mpr ⟨isWord_iff.mpr (by decide), h⟩

lemma signed_ne_nil {negative : Bool} (h : cs ≠ []) : Number.signed negative cs ≠ [] := by
  cases negative with
  | false => exact h
  | true => exact List.cons_ne_nil _ _

lemma isScalar_integer {n : Int} (hl : -2 ^ 127 ≤ n) (hu : n < 2 ^ 128) : IsScalar (.integer n) := by
  have ht := toList_toString_int n
  refine isScalar_of_words (fun c hc => ?_) (scalar?_integer hl hu) ?_
  · change c ∈ (toString n).toList at hc
    rw [ht] at hc
    exact isWord_signed (fun c hc => isWord_digit (Number.areDigits_digitChars _ c hc)) c hc
  · change (toString n).toList ≠ []
    rw [ht]
    exact signed_ne_nil (Number.digitChars_ne_nil _)

lemma isScalar_real {x : Float} (hx : x.isFinite = true) : IsScalar (.real x) := by
  have hs := scalar?_printReal hx
  obtain ⟨negative, whole, fraction, y, ht, h, -, -, -⟩ := Number.exists_numeral hx
  have hp : (Value.real x).print.toList = Number.signed negative (whole ++ '.' :: fraction) := by
    change (printReal x).toList = _
    rw [printReal, Double.isNaN_of_isFinite hx, if_neg Bool.false_ne_true, ht]
  refine isScalar_of_words (fun c hc => ?_) hs ?_
  · rw [hp] at hc
    refine isWord_signed (fun c hc => ?_) c hc
    rcases List.mem_append.mp hc with hc | hc
    · exact isWord_digit (h.whole_digits c hc)
    · rcases List.mem_cons.mp hc with rfl | hc
      · exact isWord_iff.mpr (by decide)
      · exact isWord_digit (h.fraction_digits c hc)
  · rw [hp]
    exact signed_ne_nil (by simp)

def IsBare (k : String) : Prop := k ≠ "" ∧ k.toList.all isBareKeyChar = true

instance (k : String) : Decidable (IsBare k) := by
  unfold IsBare
  infer_instance

namespace IsBare

lemma cons (h : IsBare k) : ∃ c cs, k.toList = c :: cs ∧ isBareKeyChar c = true := by
  obtain ⟨c, cs, hc⟩ := List.exists_cons_of_ne_nil (mt String.toList_eq_nil_iff.mp h.1)
  exact ⟨c, cs, hc, List.all_eq_true.mp h.2 c (by rw [hc]; exact List.mem_cons_self)⟩

lemma printKey (h : IsBare k) : printKey k = k := by
  rw [Toml.printKey, if_pos]
  simp [h.1, h.2]

lemma keyPart? (h : IsBare k) : keyPart? k.toList = some k := by
  obtain ⟨c, cs, hc, hb⟩ := h.cons
  have hword := isWord_bareKeyChar hb
  have hall := h.2
  rw [hc] at hall ⊢
  rw [Toml.keyPart?]
  · rw [if_pos hall, ← hc, String.ofList_toList]
  all_goals
    intros
    first
      | exact hword.2.1 (List.cons.inj ‹_›).1
      | exact hword.2.2 (List.cons.inj ‹_›).1
      | exact List.cons_ne_nil _ _ ‹_›

lemma keyToken (h : IsBare k) (hs : isMark stop = true ∨ stop = '.') (more : List Char) :
    keyToken (k.toList ++ stop :: more) = (k.toList, stop :: more) := by
  obtain ⟨c, cs, hc, hb⟩ := h.cons
  have hq : quotedToken? (k.toList ++ stop :: more) = none := by
    rw [hc]
    exact quotedToken?_eq_none (isWord_bareKeyChar hb).2 _
  have hin : ∀ c ∈ k.toList, (!isMark c && c != '.') = true := by
    intro c hc
    have hbare := List.all_eq_true.mp h.2 c hc
    have hdot : c ≠ '.' := by
      rintro rfl
      exact absurd hbare (by decide)
    simp [(isWord_bareKeyChar hbare).1, hdot]
  have hout : (!isMark stop && stop != '.') = false := by
    rcases hs with hs | rfl
    · simp [hs]
    · simp
  have htake : (k.toList ++ stop :: more).takeWhile (fun c => !isMark c && c != '.') = k.toList := by
    rw [List.takeWhile_append_of_pos hin, List.takeWhile_cons_of_neg (by simpa using hout), List.append_nil]
  simp only [Toml.keyToken, hq, htake, List.drop_left]

lemma skipBlanks (h : IsBare k) (more : List Char) : skipBlanks (k.toList ++ more) = k.toList ++ more := by
  obtain ⟨c, cs, hc, hb⟩ := h.cons
  rw [hc]
  exact List.dropWhile_cons_of_neg (by simp [(isWord_bareKeyChar hb).isBlank])

end IsBare

lemma key_bare (h : IsBare k) (more : List Char) : key (k.toList ++ ' ' :: '=' :: more) = ([k.toList], '=' :: more) := by
  have hrest : skipBlanks (' ' :: '=' :: more) = '=' :: more := rfl
  rw [key, keyTokens, h.skipBlanks, h.keyToken (.inl rfl)]
  simp only [hrest]
  rfl

lemma printPath_cons (h : IsBare k) (hne : path ≠ []) :
    (printPath (k :: path)).toList = k.toList ++ '.' :: (printPath path).toList := by
  have hpoint : ".".toList = ['.'] := rfl
  rw [printPath, List.map_cons, String.intercalate_cons_of_ne_nil (by simpa using hne), h.printKey]
  simp [printPath, hpoint]

lemma keyTokens_path (hp : ∀ k ∈ path, IsBare k) (hne : path ≠ []) (hfuel : (printPath path).toList.length ≤ fuel)
    (more : List Char) :
    keyTokens fuel ((printPath path).toList ++ ']' :: more) = (path.map String.toList, ']' :: more) := by
  induction path generalizing fuel with
  | nil => exact absurd rfl hne
  | cons k path ih =>
    have hk := hp k List.mem_cons_self
    obtain ⟨c, cs, hc, -⟩ := hk.cons
    rcases List.eq_nil_or_concat path with rfl | ⟨_, _, hpath⟩
    · have hone : (printPath [k]).toList = k.toList := by
        rw [printPath, List.map_singleton, String.intercalate_singleton, hk.printKey]
      have hrest : skipBlanks (']' :: more) = ']' :: more := rfl
      rw [hone, hc, List.length_cons] at hfuel
      obtain ⟨fuel, rfl⟩ := Nat.exists_eq_succ_of_ne_zero (Nat.ne_of_gt (Nat.zero_lt_of_lt hfuel))
      rw [hone, keyTokens, hk.skipBlanks, hk.keyToken (.inl rfl)]
      simp only [hrest]
      rfl
    · have hne' : path ≠ [] := by simp [hpath]
      have hrest (cs : List Char) : skipBlanks ('.' :: cs) = '.' :: cs := rfl
      rw [printPath_cons hk hne', hc, List.length_append, List.length_cons, List.length_cons] at hfuel
      obtain ⟨fuel, rfl⟩ := Nat.exists_eq_succ_of_ne_zero (show fuel ≠ 0 by omega)
      have ih' := ih (fun k hk => hp k (List.mem_cons_of_mem _ hk)) hne' (show _ ≤ fuel by omega)
      rw [printPath_cons hk hne', List.append_assoc, List.cons_append, keyTokens, hk.skipBlanks, hk.keyToken (.inr rfl)]
      simp only [hrest, ih', List.map_cons]

inductive Written where
  | empty
  | entry (name : String) (v : Value)
  | header (path : List String)
  | element (path : List String)

namespace Written

def print : Written → String
  | empty => ""
  | entry k v => printKey k ++ " = " ++ v.print
  | header path => "[" ++ printPath path ++ "]"
  | element path => "[[" ++ printPath path ++ "]]"

def line? : Written → Option Line
  | empty => none
  | entry k v => some (.entry [k.toList] (.scalar v.print.toList))
  | header path => some (.header (path.map String.toList))
  | element path => some (.element (path.map String.toList))

def IsPlain : Written → Prop
  | empty => True
  | entry k v => IsBare k ∧ IsScalar v
  | header path | element path => path ≠ [] ∧ path.length ≤ keyLimit ∧ ∀ k ∈ path, IsBare k

end Written

lemma endOfLine_lineEnd (tail : List Char) : endOfLine ('\n' :: tail) = some tail := rfl

lemma draft_scalar (hv : IsScalar v) (fuel depth : Nat) (tail : List Char) :
    draft (fuel + 1) depth (v.print.toList ++ '\n' :: tail) = some (.scalar v.print.toList, '\n' :: tail) := by
  obtain ⟨c, cs, hc, -, hb, hb'⟩ := hv.head
  have htoken := hv.token tail
  rw [draft]
  · rw [htoken]
    rfl
  · rintro ds d h -
    rw [hc] at h
    exact hb (List.cons.inj h).1
  · rintro ds d h -
    rw [hc] at h
    exact hb' (List.cons.inj h).1

lemma line_entry (hk : IsBare k) (hv : IsScalar v) (tail : List Char) :
    line ((Written.entry k v).print.toList ++ '\n' :: tail) =
      some (.entry [k.toList] (.scalar v.print.toList), tail) := by
  have htext : (Written.entry k v).print.toList ++ '\n' :: tail =
      k.toList ++ ' ' :: '=' :: ' ' :: (v.print.toList ++ '\n' :: tail) := by
    have heq : " = ".toList = [' ', '=', ' '] := rfl
    rw [Written.print, hk.printKey]
    simp [heq]
  obtain ⟨c, cs, hc, hbare⟩ := hk.cons
  obtain ⟨d, ds, hd, hblank, -, -⟩ := hv.head
  have hbracket : c ≠ '[' := (isWord_bareKeyChar hbare).ne (by decide)
  have hskip : skipBlanks (' ' :: (v.print.toList ++ '\n' :: tail)) = v.print.toList ++ '\n' :: tail := by
    rw [hd]
    exact (List.dropWhile_cons_of_pos rfl).trans (List.dropWhile_cons_of_neg (by simp [hblank]))
  rw [htext, line]
  · simp only [key_bare hk, hskip, draft_scalar hv, Option.getD_some, endOfLine_lineEnd, Option.map_some]
  · intro cs h
    rw [hc] at h
    exact hbracket (List.cons.inj h).1
  · intro cs h
    rw [hc] at h
    exact hbracket (List.cons.inj h).1

lemma headerKey_path (close : List Char) (hclose : ∃ cs, close = ']' :: cs) (hp : ∀ k ∈ path, IsBare k) (hne : path ≠ [])
    (tail : List Char) :
    headerKey close ((printPath path).toList ++ (close ++ '\n' :: tail)) = some (path.map String.toList, tail) := by
  obtain ⟨cs, rfl⟩ := hclose
  have hkey : key ((printPath path).toList ++ (']' :: cs ++ '\n' :: tail)) =
      (path.map String.toList, ']' :: cs ++ '\n' :: tail) :=
    keyTokens_path hp hne (by rw [List.length_append]; omega) _
  simp only [headerKey, hkey]
  rw [if_pos (by simp), List.drop_left, endOfLine_lineEnd]
  rfl

lemma printPath_head (hp : ∀ k ∈ path, IsBare k) (hne : path ≠ []) :
    ∃ c cs, (printPath path).toList = c :: cs ∧ isBareKeyChar c = true := by
  obtain ⟨k, path, rfl⟩ := List.exists_cons_of_ne_nil hne
  have hk := hp k List.mem_cons_self
  obtain ⟨c, cs, hc, hb⟩ := hk.cons
  rcases List.eq_nil_or_concat path with rfl | ⟨_, _, hpath⟩
  · exact ⟨c, cs, by rw [printPath, List.map_singleton, String.intercalate_singleton, hk.printKey, hc], hb⟩
  · exact ⟨c, _, by rw [printPath_cons hk (by simp [hpath]), hc, List.cons_append], hb⟩

lemma line_header (hp : ∀ k ∈ path, IsBare k) (hne : path ≠ []) (tail : List Char) :
    line ((Written.header path).print.toList ++ '\n' :: tail) = some (.header (path.map String.toList), tail) := by
  have htext : (Written.header path).print.toList ++ '\n' :: tail =
      '[' :: ((printPath path).toList ++ ([']'] ++ '\n' :: tail)) := by
    have ho : "[".toList = ['['] := rfl
    have hc : "]".toList = [']'] := rfl
    simp [Written.print, ho, hc]
  obtain ⟨c, cs, hc, hbare⟩ := printPath_head hp hne
  rw [htext, line, headerKey_path _ ⟨_, rfl⟩ hp hne]
  · rfl
  · intro ds h
    rw [hc] at h
    exact (isWord_bareKeyChar hbare).ne (by decide) (List.cons.inj h).1

lemma line_element (hp : ∀ k ∈ path, IsBare k) (hne : path ≠ []) (tail : List Char) :
    line ((Written.element path).print.toList ++ '\n' :: tail) = some (.element (path.map String.toList), tail) := by
  have htext : (Written.element path).print.toList ++ '\n' :: tail =
      '[' :: '[' :: ((printPath path).toList ++ ([']', ']'] ++ '\n' :: tail)) := by
    have ho : "[[".toList = ['[', '['] := rfl
    have hc : "]]".toList = [']', ']'] := rfl
    simp [Written.print, ho, hc]
  rw [htext, line, headerKey_path _ ⟨_, rfl⟩ hp hne]
  rfl

lemma skip_eq_self (h : c ∉ [' ', '\t', '\r', '\n', '#']) (cs : List Char) : skip (c :: cs) = c :: cs := by
  simp only [List.mem_cons, List.not_mem_nil, or_false, not_or] at h
  obtain ⟨hs, ht, hr, hn, hc⟩ := h
  have hend : lineEnd? (c :: cs) = none := lineEnd?_eq_none fun d hd => by
    obtain rfl := Option.some.inj hd
    exact ⟨hn, hr⟩
  simp [skip, skipSpace, hend, isBlank, hs, ht, hc]

lemma readLines_lineEnd (fuel : Nat) (cs : List Char) : readLines fuel ('\n' :: cs) = readLines fuel cs := by
  cases fuel with
  | zero => rfl
  | succ fuel => rfl

lemma readLines_line {l : Line} (hc : c ∉ [' ', '\t', '\r', '\n', '#']) (hl : line (c :: cs) = some (l, tail)) :
    readLines (fuel + 1) (c :: cs) = (readLines fuel tail).map (l :: ·) := by
  rw [readLines, skip_eq_self hc]
  simp only [hl, bind, Option.bind]
  cases readLines fuel tail <;> rfl

def StartsLine (c : Char) : Prop := c = '[' ∨ isBareKeyChar c = true

lemma StartsLine.not_mem (h : StartsLine c) : c ∉ [' ', '\t', '\r', '\n', '#'] := by
  rcases h with rfl | h
  · decide
  · have hword := isWord_bareKeyChar h
    simp only [List.mem_cons, List.not_mem_nil, or_false, not_or]
    exact ⟨hword.ne (by decide), hword.ne (by decide), hword.ne (by decide), hword.ne (by decide), hword.ne (by decide)⟩

lemma Written.line_print {w : Written} (h : w.IsPlain) :
    w = .empty ∨ ∃ l c cs, w.line? = some l ∧ w.print.toList = c :: cs ∧ StartsLine c ∧
      ∀ tail, line (w.print.toList ++ '\n' :: tail) = some (l, tail) := by
  cases w with
  | empty => exact .inl rfl
  | entry k v =>
    obtain ⟨c, cs, hc, hb⟩ := h.1.cons
    have hprint : (entry k v).print.toList = c :: (cs ++ (" = " ++ v.print).toList) := by
      rw [print, h.1.printKey, String.append_assoc, String.toList_append, hc, List.cons_append]
    exact .inr ⟨_, c, _, rfl, hprint, .inr hb, line_entry h.1 h.2⟩
  | header path =>
    have hprint : (header path).print.toList = '[' :: (printPath path ++ "]").toList := by
      rw [print, String.append_assoc, String.toList_append]
      rfl
    exact .inr ⟨_, _, _, rfl, hprint, .inl rfl, line_header h.2.2 h.1⟩
  | element path =>
    have hprint : (element path).print.toList = '[' :: '[' :: (printPath path ++ "]]").toList := by
      rw [print, String.append_assoc, String.toList_append]
      rfl
    exact .inr ⟨_, _, _, rfl, hprint, .inl rfl, line_element h.2.2 h.1⟩

def writtenText (ws : List Written) : List Char := ws.flatMap fun w => w.print.toList ++ ['\n']

lemma writtenText_cons (w : Written) (ws : List Written) :
    writtenText (w :: ws) = w.print.toList ++ '\n' :: writtenText ws := by
  rw [writtenText, List.flatMap_cons, List.append_assoc, List.singleton_append]
  rfl

theorem readLines_written {ws : List Written} (h : ∀ w ∈ ws, w.IsPlain) (hfuel : ws.length < fuel) :
    readLines fuel (writtenText ws) = some (ws.filterMap Written.line?) := by
  induction ws generalizing fuel with
  | nil =>
    obtain ⟨fuel, rfl⟩ := Nat.exists_eq_succ_of_ne_zero (Nat.ne_of_gt hfuel)
    rfl
  | cons w ws ih =>
    have hws := fun w hw => h w (List.mem_cons_of_mem _ hw)
    rw [writtenText_cons]
    rcases Written.line_print (h w List.mem_cons_self) with rfl | ⟨l, c, cs, hl, hc, hstart, hline⟩
    · exact (readLines_lineEnd _ _).trans (ih hws (Nat.lt_of_succ_lt hfuel))
    · obtain ⟨fuel, rfl⟩ := Nat.exists_eq_succ_of_ne_zero (Nat.ne_of_gt (Nat.zero_lt_of_lt hfuel))
      have hline' := hline (writtenText ws)
      rw [hc, List.cons_append] at hline' ⊢
      rw [readLines_line hstart.not_mem hline', ih hws (Nat.lt_of_succ_lt_succ hfuel), List.filterMap_cons_some hl]
      rfl

lemma length_le_writtenText (ws : List Written) : ws.length ≤ (writtenText ws).length := by
  induction ws with
  | nil => exact le_rfl
  | cons w ws ih =>
    rw [writtenText_cons, List.length_append, List.length_cons, List.length_cons]
    omega

lemma withoutMark_writtenText {ws : List Written} (h : ∀ w ∈ ws, w.IsPlain) :
    withoutMark (writtenText ws) = writtenText ws := by
  cases ws with
  | nil => rfl
  | cons w ws =>
    rw [writtenText_cons]
    rcases Written.line_print (h w List.mem_cons_self) with rfl | ⟨l, c, cs, -, hc, hstart, -⟩
    · rfl
    · rw [hc, List.cons_append, withoutMark]
      rintro ds heq
      obtain rfl := (List.cons.inj heq).1
      rcases hstart with h | h <;> exact absurd h (by decide)

theorem ofText?_written {ws : List Written} (h : ∀ w ∈ ws, w.IsPlain) :
    Line.ofText? (String.join (ws.map fun w => w.print ++ "\n")) = some (ws.filterMap Written.line?) := by
  have htext : (String.join (ws.map fun w => w.print ++ "\n")).toList = writtenText ws := by
    have hn : "\n".toList = ['\n'] := rfl
    simp [String.toList_join, writtenText, List.flatMap_map, hn]
  rw [Line.ofText?, htext]
  simp only [withoutMark_writtenText h]
  exact readLines_written h (Nat.lt_succ_of_le (length_le_writtenText ws))

end RfBoard.Toml
