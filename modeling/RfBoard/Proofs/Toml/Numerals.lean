import RfBoard.Proofs.Double.ShortestText
import RfBoard.Toml.Printing

namespace RfBoard.Toml

open Number

variable {negative : Bool} {cs ds text whole fraction : List Char} {y x : Float} {n : Int} {k : Nat}

lemma isDigit_ne {c d : Char} (hc : c.isDigit = true) (hd : d.isDigit = false) : c ≠ d := by
  rintro rfl
  exact Bool.false_ne_true (hd.symm.trans hc)

lemma joined?_eq (isDigit : Char → Bool) (before : Bool) (h : '_' ∉ cs) : joined? isDigit before cs = some cs := by
  induction cs generalizing before with
  | nil => rfl
  | cons c cs ih =>
    rw [List.mem_cons, not_or] at h
    rw [joined?.eq_3 _ _ _ _ (Ne.symm h.1), ih _ h.2]
    rfl

def LeadsDigit (cs : List Char) : Prop := ∃ c ds, cs = c :: ds ∧ c.isDigit = true

lemma leadsDigit_append (h : AreDigits cs) (hne : cs ≠ []) (ds : List Char) : LeadsDigit (cs ++ ds) := by
  obtain ⟨c, rest, rfl⟩ := List.exists_cons_of_ne_nil hne
  exact ⟨c, rest ++ ds, rfl, h c List.mem_cons_self⟩

namespace LeadsDigit

lemma splitSign_signed (h : LeadsDigit cs) : splitSign (signed negative cs) = (negative, cs) := by
  obtain ⟨c, ds, rfl, hc⟩ := h
  have h₁ : c ≠ '-' := isDigit_ne hc rfl
  have h₂ : c ≠ '+' := isDigit_ne hc rfl
  cases negative with
  | false => simp [signed, splitSign, h₁, h₂]
  | true => rfl

lemma withoutUnderscores?_signed (h : LeadsDigit cs) (isDigit : Char → Bool) (hu : '_' ∉ cs) :
    withoutUnderscores? isDigit (signed negative cs) = some (signed negative cs) := by
  obtain ⟨c, ds, rfl, hc⟩ := h
  have h₁ : c ≠ '-' := isDigit_ne hc rfl
  have h₂ : c ≠ '+' := isDigit_ne hc rfl
  cases negative with
  | false => simp [signed, withoutUnderscores?, h₁, h₂, joined?_eq isDigit false hu]
  | true => simp [signed, withoutUnderscores?, joined?_eq isDigit false hu]

lemma signed?_eq (h : LeadsDigit cs) (text : List Char) : signed? text cs = numeral? text cs := by
  obtain ⟨c, ds, rfl, hc⟩ := h
  have h₁ : c ≠ 'i' := isDigit_ne hc rfl
  have h₂ : c ≠ 'n' := isDigit_ne hc rfl
  simp [signed?, h₁, h₂]

lemma numeral?_eq (h : LeadsDigit cs) (h₀ : cs ≠ ['0']) (text : List Char) : numeral? text cs = number? text cs := by
  obtain ⟨c, ds, rfl, hc⟩ := h
  rw [numeral?]
  · exact if_pos hc
  · rintro rfl rfl
    exact h₀ rfl

lemma scalar?_signed (h : LeadsDigit cs) (hbase : ∀ b ∈ ['x', 'o', 'b'], ¬ ['0', b] <+: cs) :
    scalar? (signed negative cs) = numeral? (signed negative cs) cs := by
  rw [← h.signed?_eq]
  cases negative with
  | true => rfl
  | false =>
    obtain ⟨c, ds, rfl, hc⟩ := h
    rw [signed, if_neg Bool.false_ne_true, scalar?]
    · rintro ⟨⟩
      exact absurd hc (by decide)
    · rintro ⟨⟩
      exact absurd hc (by decide)
    · rintro ds ⟨⟩
      exact absurd hc (by decide)
    · rintro ds ⟨⟩
      exact absurd hc (by decide)
    · rintro ds ⟨⟩
      exact hbase 'x' (by simp) ⟨ds, rfl⟩
    · rintro ds ⟨⟩
      exact hbase 'o' (by simp) ⟨ds, rfl⟩
    · rintro ds ⟨⟩
      exact hbase 'b' (by simp) ⟨ds, rfl⟩

end LeadsDigit

lemma decimal?_pointNumeral (h : PointNumeral whole fraction) :
    decimal? (whole ++ '.' :: fraction) = Number.decimal? (whole ++ '.' :: fraction) := by
  obtain ⟨c, cs, rfl⟩ := List.exists_cons_of_ne_nil h.whole_ne_nil
  obtain ⟨d, ds, rfl⟩ := List.exists_cons_of_ne_nil h.fraction_ne_nil
  have hp : ∀ a ∈ c :: cs, (a != '.') = true := fun a ha => bne_iff_ne.mpr (isDigit_ne (h.whole_digits a ha) rfl)
  have hc := h.whole_digits c List.mem_cons_self
  have hd := h.fraction_digits d List.mem_cons_self
  rw [decimal?, List.dropWhile_append_of_pos hp]
  simp [hc, hd]

lemma hasLeadingZero_pointNumeral (h : PointNumeral whole fraction) : hasLeadingZero (whole ++ '.' :: fraction) = false := by
  rcases h.lead with rfl | hz
  · rfl
  · obtain ⟨c, cs, rfl⟩ := List.exists_cons_of_ne_nil h.whole_ne_nil
    rw [List.head?_cons, ne_eq, Option.some.injEq] at hz
    simp [hasLeadingZero, hz]

lemma number?_pointNumeral (h : PointNumeral whole fraction) (hy : Number.decimal? (whole ++ '.' :: fraction) = some y)
    (hf : y.isFinite = true) :
    number? (signed negative (whole ++ '.' :: fraction)) (whole ++ '.' :: fraction) =
      some (.real (applySign negative y)) := by
  have hlead := leadsDigit_append h.whole_digits h.whole_ne_nil ('.' :: fraction)
  have hrest : (whole ++ '.' :: fraction).dropWhile Char.isDigit = '.' :: fraction := by
    rw [List.dropWhile_append_of_pos h.whole_digits]
    rfl
  have hblank : ('.' :: fraction).any (fun c => c == ' ' || c == '\t') = false := by
    simp only [List.any_cons, List.any_eq_false, Bool.or_eq_true, beq_iff_eq, not_or, Bool.or_eq_false_iff]
    exact ⟨⟨rfl, rfl⟩, fun c hc => ⟨isDigit_ne (h.fraction_digits c hc) rfl, isDigit_ne (h.fraction_digits c hc) rfl⟩⟩
  have hu : '_' ∉ whole ++ '.' :: fraction := by
    simp [h.whole_digits.not_mem (c := '_') rfl, h.fraction_digits.not_mem (c := '_') rfl]
  simp only [number?, hrest, hblank, hasLeadingZero_pointNumeral h, hlead.withoutUnderscores?_signed _ hu,
    Option.bind_some, realValue?, hlead.splitSign_signed, decimal?_pointNumeral h, hy, Option.map_some, hf]
  rfl

theorem scalar?_pointNumeral (h : PointNumeral whole fraction) (hy : Number.decimal? (whole ++ '.' :: fraction) = some y)
    (hf : y.isFinite = true) :
    scalar? (signed negative (whole ++ '.' :: fraction)) = some (.real (applySign negative y)) := by
  have hlead := leadsDigit_append h.whole_digits h.whole_ne_nil ('.' :: fraction)
  have hbase : ∀ b ∈ ['x', 'o', 'b'], ¬ ['0', b] <+: whole ++ '.' :: fraction := by
    intro b hb hp
    rcases h.lead with rfl | hz
    · have hpoint : b = '.' := by simpa using hp
      rw [hpoint] at hb
      exact absurd hb (by decide)
    · rw [← List.head?_append_of_ne_nil _ h.whole_ne_nil] at hz
      obtain ⟨rest, hrest⟩ := hp
      rw [← hrest] at hz
      exact hz rfl
  rw [hlead.scalar?_signed hbase, hlead.numeral?_eq (fun heq => by simpa using congrArg ('.' ∈ ·) heq)]
  exact number?_pointNumeral h hy hf

theorem scalar?_printReal (hx : x.isFinite = true) : scalar? (printReal x).toList = some (.real x) := by
  obtain ⟨negative, whole, fraction, y, ht, h, hy, hf, rfl⟩ := exists_numeral hx
  rw [printReal, Double.isNaN_of_isFinite hx, if_neg Bool.false_ne_true, ht]
  exact scalar?_pointNumeral h hy hf

lemma hexValue_digit {c : Char} (hc : c.isDigit = true) : hexValue c = digitValue c := if_pos hc

lemma natInBase_ten (h : AreDigits ds) : natInBase 10 ds = natOfDigits ds :=
  List.foldl_ext _ _ 0 fun n c hc => by rw [hexValue_digit (h c hc)]

lemma isDigitIn_ten {c : Char} (hc : c.isDigit = true) : isDigitIn 10 c = true := by
  have hb := Char.isDigit_iff_toNat.mp hc
  have h₉ : '9'.toNat = 57 := rfl
  rw [isDigitIn, isHexDigit, hc, hexValue_digit hc, digitValue]
  simp only [Bool.true_or, Bool.true_and, decide_eq_true_eq]
  omega

lemma integerValue_digitChars (hl : -2 ^ 127 ≤ withSign negative k) (hu : withSign negative k < 2 ^ 128) :
    integerValue 10 text (signed negative (digitChars k)) = .integer (withSign negative k) := by
  have hd := areDigits_digitChars k
  have hne := digitChars_ne_nil k
  have hlead : LeadsDigit (digitChars k) := by simpa using leadsDigit_append hd hne []
  have hall : (digitChars k).all (isDigitIn 10) = true := List.all_eq_true.mpr fun c hc => isDigitIn_ten (hd c hc)
  have hempty : (digitChars k).isEmpty = false := by simpa using hne
  have hrange : -0x80000000000000000000000000000000 ≤ withSign negative k ∧
      withSign negative k < 0x100000000000000000000000000000000 := ⟨hl, hu⟩
  simp only [integerValue, integerInBase?, hlead.splitSign_signed, hall, hempty, natInBase_ten hd,
    natOfDigits_digitChars]
  simp [hrange]

lemma scalar?_digitChars (hl : -2 ^ 127 ≤ withSign negative k) (hu : withSign negative k < 2 ^ 128)
    (hz : negative = true → 0 < k) :
    scalar? (signed negative (digitChars k)) = some (.integer (withSign negative k)) := by
  have hd := areDigits_digitChars k
  have hne := digitChars_ne_nil k
  have hlead : LeadsDigit (digitChars k) := by simpa using leadsDigit_append hd hne []
  have hbase : ∀ b ∈ ['x', 'o', 'b'], ¬ ['0', b] <+: digitChars k := by
    intro b hb hp
    have hdigit := hd b (hp.subset (by simp))
    simp only [List.mem_cons, List.not_mem_nil, or_false] at hb
    rcases hb with rfl | rfl | rfl <;> exact absurd hdigit (by decide)
  rw [hlead.scalar?_signed hbase]
  rcases Nat.eq_zero_or_pos k with rfl | hk
  · cases negative with
    | false => rfl
    | true => exact absurd (hz rfl) (Nat.lt_irrefl 0)
  · have hhead := head?_digitChars hk
    have hrest : (digitChars k).dropWhile Char.isDigit = [] := List.dropWhile_eq_nil_iff.mpr hd
    have h₀ : digitChars k ≠ ['0'] := fun heq => hhead (by rw [heq]; rfl)
    rw [hlead.numeral?_eq h₀, number?]
    simp only [hrest, hlead.withoutUnderscores?_signed _ (hd.not_mem rfl), integerValue_digitChars hl hu, Option.map_some]
    simp [hhead]

lemma toList_toString_int (n : Int) : (toString n).toList = signed (n < 0) (digitChars n.natAbs) := by
  cases n with
  | ofNat k =>
    change (toString k).toList = _
    rw [Nat.toString_eq_ofList_toDigits, String.toList_ofList]
    rfl
  | negSucc k =>
    change ("-" ++ toString (k + 1)).toList = _
    rw [String.toList_append, Nat.toString_eq_ofList_toDigits, String.toList_ofList, String.toList_ofList,
      decide_eq_true (Int.negSucc_lt_zero k)]
    rfl

lemma withSign_natAbs (n : Int) : withSign (n < 0) n.natAbs = n := by
  rw [withSign]
  split <;> simp only [decide_eq_true_eq] at * <;> omega

theorem scalar?_integer (hl : -2 ^ 127 ≤ n) (hu : n < 2 ^ 128) : scalar? (toString n).toList = some (.integer n) := by
  have hn := withSign_natAbs n
  rw [toList_toString_int, scalar?_digitChars (hn.symm ▸ hl) (hn.symm ▸ hu) fun h => ?_, hn]
  have := of_decide_eq_true h
  omega

end RfBoard.Toml
