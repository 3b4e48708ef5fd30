import RfBoard.Proofs.Double.RealValue
import RfBoard.Proofs.WordConversion

/-!
The range of conversions: nothing wraps around, and nothing is held at the ends.
-/

namespace RfBoard

namespace Double

open Float.Model Float.Model.UnpackedFloat

variable {x : Float}

lemma eq_one (h : (x == 1) = true) : x = 1 := by
  have h₁ : (1 : Float).toModel.unpack = .finite .positive (2 ^ 52) (-52) (by decide) := by rfl
  have hb : x.toModel.unpack.beq (1 : Float).toModel.unpack = true := h
  obtain ⟨-, -, hx | ⟨-, hx⟩ | ⟨-, hx⟩⟩ := (beq_iff_ne_notANumber_and_eq _ _).mp hb
  · exact eq_of_unpack hx
  · cases h₁.symm.trans hx
  · cases h₁.symm.trans hx

end Double

namespace Conversion

open Double

variable (quantity : String) (cal : Calibration) (c : Conversion) {signed : Bool} {x q : Float} {raw : UInt32} {n : Int}

def isSigned : Conversion → Bool
  | scale _ _ _ signed => signed
  | _ => true

def quotient? (x : Float) : Conversion → Option Float
  | identity => some x
  | scale numerator denominator offset _ => some ((x - offset) * denominator / numerator)
  | reflection pair => (cal.pair? pair).map fun (f, r) =>
      let t := (x + 1) / (x - 1)
      t * t * r.k / f.k * 1024
  | vswrHold => some (x / holdScale cal / 8192)

def IsWord (signed : Bool) (n : Int) : Prop :=
  if signed then -2 ^ 31 ≤ n ∧ n ≤ 2 ^ 31 - 1 else 0 ≤ n ∧ n ≤ 2 ^ 32 - 1

instance (signed : Bool) (n : Int) : Decidable (IsWord signed n) := by
  unfold IsWord
  infer_instance

lemma isWord_iff : IsWord signed n ↔ ¬ (n < (wordRange signed).1 ∨ n > (wordRange signed).2) := by
  cases signed <;> simp only [IsWord, wordRange, if_true, Bool.false_eq_true, if_false] <;> omega

lemma wordInt_ofInt (h : IsWord signed n) : wordInt signed (UInt32.ofInt n) = n := by
  have ht := toNat_ofInt n
  cases signed with
  | false =>
    simp only [IsWord, Bool.false_eq_true, if_false] at h
    rw [wordInt, if_neg Bool.false_ne_true]
    omega
  | true =>
    simp only [IsWord, if_true] at h
    rw [wordInt_true]
    split <;> omega

lemma wordInt_injective {w : UInt32} (h : wordInt signed raw = wordInt signed w) : raw = w := by
  have h₁ := raw.toNat_lt
  have h₂ := w.toNat_lt
  rw [← UInt32.toNat_inj]
  cases signed with
  | false => exact Int.ofNat.inj h
  | true =>
    rw [wordInt_true, wordInt_true] at h
    split at h <;> split at h <;> omega

lemma toWord_not_finite (h : x.isFinite = false) : toWord quantity signed x = .error (.notFinite quantity) := by
  rw [toWord, checkFinite, h]
  rfl

lemma toWord_outside (hx : x.isFinite = true) (h : ¬ IsWord signed (roundAway (real x))) :
    toWord quantity signed x = .error (.outOfRange quantity x) := by
  rw [← nearest_eq_roundAway, isWord_iff, not_not] at h
  rw [toWord, checkFinite, if_pos hx]
  exact if_pos h

lemma toWord_inside (hx : x.isFinite = true) (h : IsWord signed (roundAway (real x))) :
    toWord quantity signed x = .ok (UInt32.ofInt (roundAway (real x))) := by
  rw [← nearest_eq_roundAway] at h ⊢
  rw [toWord, checkFinite, if_pos hx]
  exact if_neg (isWord_iff.mp h)

lemma inverse_not_finite (h : x.isFinite = false) : c.inverse quantity cal x = .error (.notFinite quantity) := by
  rw [inverse, checkFinite, h]
  rfl

lemma inverse_eq_word (h : x.isFinite = true) : c.inverse quantity cal x = c.word quantity cal x := by
  rw [inverse, checkFinite, if_pos h]
  rfl

lemma pair?_eq_none {pair : Nat} : cal.pair? pair = none ↔ 4 ≤ pair := by
  rw [Calibration.pair?]
  split <;> simp <;> omega

lemma not_isFinite_quotient_one {pair : Nat} (hq : (reflection pair).quotient? cal 1 = some q) :
    q.isFinite = false := by
  obtain ⟨⟨f, r⟩, -, rfl⟩ := Option.map_eq_some_iff.mp hq
  have ht : ((1 + 1) / (1 - 1) * ((1 + 1) / (1 - 1)) : Float).isFinite = false := by decide +kernel
  exact not_isFinite_mul _ (not_isFinite_div _ (not_isFinite_mul _ ht))

lemma word_of_quotient (hq : c.quotient? cal x = some q) :
    c.word quantity cal x = toWord quantity c.isSigned q ∨
      q.isFinite = false ∧ c.word quantity cal x = .error (.divisionByZero quantity) := by
  cases c with
  | identity =>
    cases hq
    exact .inl rfl
  | scale numerator denominator offset signed =>
    cases hq
    exact .inl rfl
  | vswrHold =>
    cases hq
    exact .inl rfl
  | reflection pair =>
    by_cases hx : (x == 1) = true
    · obtain rfl := eq_one hx
      have hn := not_isFinite_quotient_one cal hq
      obtain ⟨⟨f, r⟩, hp, -⟩ := Option.map_eq_some_iff.mp hq
      exact .inr ⟨hn, by simp only [word, chain, hp, bind, Except.bind, hx, if_true]⟩
    · obtain ⟨⟨f, r⟩, hp, rfl⟩ := Option.map_eq_some_iff.mp hq
      exact .inl (by simp only [word, chain, hp, bind, Except.bind, hx]; rfl)

lemma quotient?_eq_none : c.quotient? cal x = none ↔ ∃ pair, c = reflection pair ∧ 4 ≤ pair := by
  cases c with
  | reflection pair => simp [quotient?, pair?_eq_none]
  | _ => simp [quotient?]

lemma word_chainless {pair : Nat} (hp : 4 ≤ pair) :
    (reflection pair).word quantity cal x = .error (.outOfRange quantity (Float.ofNat pair)) := by
  simp only [word, chain, pair?_eq_none cal |>.mpr hp, bind, Except.bind]

lemma forward_chainless {pair : Nat} (hp : 4 ≤ pair) :
    (reflection pair).forward quantity cal raw = .error (.outOfRange quantity (Float.ofNat pair)) := by
  simp only [forward, value, chain, pair?_eq_none cal |>.mpr hp, bind, Except.bind]

lemma forward_eq_ok_iff {v : Float} :
    c.forward quantity cal raw = .ok v ↔ c.value quantity cal raw = .ok v ∧ v.isFinite = true := by
  rw [forward]
  cases hv : c.value quantity cal raw with
  | error e => simp [Except.bind]
  | ok y =>
    change checkFinite quantity y = .ok v ↔ _
    rw [checkFinite, Except.ok.injEq]
    by_cases hy : y.isFinite = true
    · rw [if_pos hy, Except.ok.injEq]
      exact ⟨fun h => ⟨h, h ▸ hy⟩, And.left⟩
    · rw [if_neg hy]
      constructor
      · intro h
        cases h
      · rintro ⟨rfl, hf⟩
        exact absurd hf hy

lemma isFinite_of_forward {v : Float} (h : c.forward quantity cal raw = .ok v) : v.isFinite = true :=
  ((forward_eq_ok_iff quantity cal c).mp h).2

inductive Inverted (x : Float) : Except DomainError UInt32 → Prop
  | chainless {pair : Nat} : c = reflection pair → 4 ≤ pair →
      Inverted x (.error (.outOfRange quantity (Float.ofNat pair)))
  | undefined {q : Float} {e : DomainError} : c.quotient? cal x = some q → q.isFinite = false →
      e = .notFinite quantity ∨ e = .divisionByZero quantity → Inverted x (.error e)
  | outside {q : Float} : c.quotient? cal x = some q → q.isFinite = true →
      ¬ IsWord c.isSigned (roundAway (real q)) → Inverted x (.error (.outOfRange quantity q))
  | inside {q : Float} : c.quotient? cal x = some q → q.isFinite = true →
      IsWord c.isSigned (roundAway (real q)) → Inverted x (.ok (UInt32.ofInt (roundAway (real q))))

lemma inverted (hx : x.isFinite = true) : Inverted quantity cal c x (c.inverse quantity cal x) := by
  rw [inverse_eq_word quantity cal c hx]
  cases hq : c.quotient? cal x with
  | none =>
    obtain ⟨pair, rfl, hp⟩ := (quotient?_eq_none cal c).mp hq
    rw [word_chainless quantity cal hp]
    exact .chainless rfl hp
  | some q =>
    rcases word_of_quotient quantity cal c hq with hw | ⟨hf, hw⟩
    · rw [hw]
      by_cases hf : q.isFinite = true
      · by_cases hr : IsWord c.isSigned (roundAway (real q))
        · rw [toWord_inside quantity hf hr]
          exact .inside hq hf hr
        · rw [toWord_outside quantity hf hr]
          exact .outside hq hf hr
      · rw [Bool.not_eq_true] at hf
        rw [toWord_not_finite quantity hf]
        exact .undefined hq hf (.inl rfl)
    · rw [hw]
      exact .undefined hq hf (.inr rfl)

lemma real_ofWord_eq_iff (h : IsWord signed n) : real (Number.ofWord signed raw) = n ↔ raw = UInt32.ofInt n := by
  rw [real_ofWord, Int.cast_inj]
  refine ⟨fun hn => wordInt_injective (hn.trans (wordInt_ofInt h).symm), ?_⟩
  rintro rfl
  exact wordInt_ofInt h

lemma inverse_eq_ok_iff : c.inverse quantity cal x = .ok raw ↔ x.isFinite = true ∧ ∃ q, c.quotient? cal x = some q ∧
    q.isFinite = true ∧ IsWord c.isSigned (roundAway (real q)) ∧
      real (Number.ofWord c.isSigned raw) = roundAway (real q) := by
  by_cases hx : x.isFinite = true
  · have h := inverted quantity cal c hx
    generalize c.inverse quantity cal x = r at h
    cases h with
    | chainless hc hp =>
      have hn := (quotient?_eq_none cal c (x := x)).mpr ⟨_, hc, hp⟩
      simp [hn]
    | undefined hq hf _ => simp [hq, hf]
    | outside hq hf hr => simp [hq, hr]
    | @inside q hq hf hr =>
      refine ⟨?_, ?_⟩
      · rintro ⟨⟩
        exact ⟨hx, q, hq, hf, hr, (real_ofWord_eq_iff hr).mpr rfl⟩
      · rintro ⟨-, q', hq', -, -, hw⟩
        obtain rfl := Option.some.inj (hq.symm.trans hq')
        rw [(real_ofWord_eq_iff hr).mp hw]
  · rw [Bool.not_eq_true] at hx
    simp [inverse_not_finite quantity cal c hx, hx]

lemma inverse_outOfRange_iff : (∃ y, c.inverse quantity cal x = .error (.outOfRange quantity y)) ↔
    x.isFinite = true ∧ ((∃ pair, c = reflection pair ∧ 4 ≤ pair) ∨ ∃ q, c.quotient? cal x = some q ∧
      q.isFinite = true ∧ ¬ IsWord c.isSigned (roundAway (real q))) := by
  by_cases hx : x.isFinite = true
  · have h := inverted quantity cal c hx
    rw [← quotient?_eq_none cal c (x := x)]
    generalize c.inverse quantity cal x = r at h
    cases h with
    | chainless hc hp =>
      have hn := (quotient?_eq_none cal c (x := x)).mpr ⟨_, hc, hp⟩
      simp [hn, hx]
    | undefined hq hf he => rcases he with rfl | rfl <;> simp [hq, hf]
    | outside hq hf hr => simp [hx, hq, hf, hr]
    | inside hq hf hr => simp [hq, hr]
  · rw [Bool.not_eq_true] at hx
    simp [inverse_not_finite quantity cal c hx, hx]

lemma forward_outOfRange_iff : (∃ y, c.forward quantity cal raw = .error (.outOfRange quantity y)) ↔
    ∃ pair, c = reflection pair ∧ 4 ≤ pair := by
  have hfin (v : Float) (y : Float) : checkFinite quantity v ≠ .error (.outOfRange quantity y) := by
    rw [checkFinite]
    split <;> simp
  refine ⟨?_, ?_⟩
  · rintro ⟨y, hy⟩
    cases c with
    | identity => exact (hfin _ y hy).elim
    | scale numerator denominator offset signed => exact (hfin _ y hy).elim
    | vswrHold => exact (hfin _ y hy).elim
    | reflection pair =>
      refine ⟨pair, rfl, ?_⟩
      rw [← pair?_eq_none cal]
      cases hp : cal.pair? pair with
      | none => rfl
      | some fr =>
        simp only [forward, value, chain, hp, bind, Except.bind] at hy
        by_cases ht : ((Number.ofWord true raw / 1024 * fr.1.k / fr.2.k).sqrt == 1) = true
        · rw [if_pos ht] at hy
          cases hy
        · rw [if_neg ht] at hy
          exact (hfin _ y hy).elim
  · rintro ⟨pair, rfl, hp⟩
    exact ⟨_, forward_chainless quantity cal hp⟩

/-- Conversions are exact or refused, whatever their constants, the calibration and the operand. A value of a
word is finite; a value that is not finite has no word; a word is given just for a finite quotient whose
nearest integer the register can hold, and is then that integer; and what is out of range is either
such an integer or a chain that the board does not have. -/
theorem exact_or_refused (x : Float) (raw : UInt32) :
    ((∃ v, c.forward quantity cal raw = .ok v ∧ v.isFinite = true) ∨ ∃ e, c.forward quantity cal raw = .error e) ∧
    (x.isFinite = true ∨ c.inverse quantity cal x = .error (.notFinite quantity)) ∧
    (c.inverse quantity cal x = .ok raw ↔ x.isFinite = true ∧ ∃ q, c.quotient? cal x = some q ∧ q.isFinite = true ∧
      IsWord c.isSigned (roundAway (real q)) ∧ real (Number.ofWord c.isSigned raw) = roundAway (real q)) ∧
    ((∃ y, c.inverse quantity cal x = .error (.outOfRange quantity y)) ↔ x.isFinite = true ∧
      ((∃ pair, c = reflection pair ∧ 4 ≤ pair) ∨ ∃ q, c.quotient? cal x = some q ∧ q.isFinite = true ∧
        ¬ IsWord c.isSigned (roundAway (real q)))) ∧
    ((∃ y, c.forward quantity cal raw = .error (.outOfRange quantity y)) ↔ ∃ pair, c = reflection pair ∧ 4 ≤ pair) := by
  refine ⟨?_, ?_, inverse_eq_ok_iff quantity cal c, inverse_outOfRange_iff quantity cal c,
    forward_outOfRange_iff quantity cal c⟩
  · cases hf : c.forward quantity cal raw with
    | ok v => exact .inl ⟨v, rfl, isFinite_of_forward quantity cal c hf⟩
    | error e => exact .inr ⟨e, rfl⟩
  · cases hx : x.isFinite with
    | true => exact .inl rfl
    | false => exact .inr (inverse_not_finite quantity cal c hx)

end Conversion

end RfBoard
