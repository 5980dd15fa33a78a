import Archisynapse.Payments.Service
import Archisynapse.Lemmas.PaymentsPhases

/-!
# Minor units

The pattern of an amount accepts exactly the texts of prices, and what is computed for one is its hundredths, unless they are no
safe integer: then neither is what is computed.
-/

namespace Archisynapse

namespace Payments

theorem ne_point_of_isDigit {c : Char} (h : c.isDigit = true) : c ≠ '.' := by
  rintro rfl
  exact absurd h (by decide)

namespace Price

variable (p : Price)

theorem point_not_mem_whole : '.' ∉ p.whole := fun h => ne_point_of_isDigit (p.whole_digits _ h) rfl

theorem point_not_mem_fraction : '.' ∉ p.fraction := fun h => ne_point_of_isDigit (p.fraction_digits _ h) rfl

/-- The whole part is what stands before the point. -/
theorem toList_text : p.text.toList = p.whole ++ if p.fraction = [] then [] else '.' :: p.fraction := String.toList_ofList

/-- The text of a price matches the pattern. -/
theorem isAmount_text : isAmount p.text.toList = true := by
  have hrest : ∀ rest : List Char, (∀ c ∈ rest.head?, c.isDigit = false) →
      (p.whole ++ rest).takeWhile Char.isDigit = p.whole ∧ (p.whole ++ rest).dropWhile Char.isDigit = rest := by
    intro rest hhead
    rw [List.takeWhile_append_of_pos p.whole_digits, List.dropWhile_append_of_pos p.whole_digits]
    cases rest with
    | nil => exact ⟨List.append_nil _, rfl⟩
    | cons c rest =>
      have hc : c.isDigit ≠ true := by
        rw [hhead c rfl]
        exact Bool.false_ne_true
      rw [List.takeWhile_cons_of_neg hc, List.dropWhile_cons_of_neg hc]
      exact ⟨List.append_nil _, rfl⟩
  have hwhole : (!p.whole.isEmpty) = true := by
    rw [Bool.not_eq_true', List.isEmpty_eq_false_iff]
    exact p.whole_ne
  unfold isAmount
  rw [toList_text]
  by_cases hf : p.fraction = []
  · rw [if_pos hf, (hrest [] nofun).1, (hrest [] nofun).2, hwhole]
    rfl
  · have hhead : ∀ c ∈ ('.' :: p.fraction).head?, c.isDigit = false := by
      rintro c ⟨rfl⟩
      rfl
    have hlen : p.fraction.length = 1 ∨ p.fraction.length = 2 := by
      have hpos := List.length_pos_iff.2 hf
      have hle := p.fraction_le
      omega
    rw [if_neg hf, (hrest _ hhead).1, (hrest _ hhead).2, hwhole]
    simpa [hlen] using p.fraction_digits

/-- The hundredths of a price, as the digits give them. -/
def hundredths : Nat := Nat.ofDigitChars 10 p.whole 0 * 100 + Nat.ofDigitChars 10 ((p.fraction ++ ['0', '0']).take 2) 0

end Price

/-- A text that matches the pattern is the text of a price. -/
theorem exists_price {amount : String} (h : isAmount amount.toList = true) : ∃ p : Price, p.text = amount := by
  unfold isAmount at h
  obtain ⟨hwhole, hrest⟩ := Bool.and_eq_true_iff.1 h
  have hne : amount.toList.takeWhile Char.isDigit ≠ [] := by
    intro hnil
    rw [hnil] at hwhole
    cases hwhole
  have hdigits : ∀ c ∈ amount.toList.takeWhile Char.isDigit, c.isDigit = true := fun c hc => List.mem_takeWhile_imp hc
  have hsplit := List.takeWhile_append_dropWhile (p := Char.isDigit) (l := amount.toList)
  cases hdrop : amount.toList.dropWhile Char.isDigit with
  | nil =>
    rw [hdrop] at hsplit
    refine ⟨⟨_, [], hne, hdigits, nofun, by decide⟩, ?_⟩
    refine String.toList_injective ?_
    rw [Price.toList_text]
    exact hsplit
  | cons c fraction =>
    rw [hdrop] at hsplit hrest
    simp only [Bool.and_eq_true, beq_iff_eq, decide_eq_true_eq, List.all_eq_true] at hrest
    obtain ⟨⟨rfl, hlen⟩, hall⟩ := hrest
    have hfraction : fraction ≠ [] := by
      rintro rfl
      simp at hlen
    refine ⟨⟨_, fraction, hne, hdigits, hall, by omega⟩, ?_⟩
    refine String.toList_injective ?_
    rw [Price.toList_text, if_neg hfraction]
    exact hsplit

theorem isAmount_iff {amount : String} : isAmount amount.toList = true ↔ ∃ p : Price, p.text = amount :=
  ⟨exists_price, by
    rintro ⟨p, rfl⟩
    exact p.isAmount_text⟩

/-- A number of two digits is below a hundred. -/
theorem ofDigitChars_lt {digits : List Char} (hdigits : ∀ c ∈ digits, c.isDigit = true) :
    Nat.ofDigitChars 10 digits 0 < 10 ^ digits.length := by
  induction digits using List.reverseRecOn with
  | nil => decide
  | append_singleton digits c ih =>
    have hlt := ih (fun d hd => hdigits d (List.mem_append_left _ hd))
    have hc : c.toNat - '0'.toNat < 10 := by
      have hdigit := hdigits c (List.mem_append_right _ (List.mem_singleton.2 rfl))
      rw [Char.isDigit, Bool.and_eq_true, decide_eq_true_eq, decide_eq_true_eq] at hdigit
      have hle : c.toNat ≤ 57 := by exact_mod_cast hdigit.2
      have hzero : '0'.toNat = 48 := rfl
      omega
    rw [Nat.ofDigitChars_append, Nat.ofDigitChars_cons, Nat.ofDigitChars_nil, List.length_append, List.length_singleton, pow_succ]
    omega

namespace Price

variable (p : Price)

/-- The two digits of the fraction, with noughts at its end. -/
theorem fraction_padded : Nat.ofDigitChars 10 ((p.fraction ++ ['0', '0']).take 2) 0 * 10 ^ p.fraction.length =
    Nat.ofDigitChars 10 p.fraction 0 * 100 := by
  have hle := p.fraction_le
  rcases hf : p.fraction with _ | ⟨a, _ | ⟨b, _ | ⟨c, rest⟩⟩⟩
  · rfl
  · simp only [List.cons_append, List.nil_append, List.take_succ_cons, List.take_zero, Nat.ofDigitChars_cons,
      Nat.ofDigitChars_nil, List.length_cons, List.length_nil]
    have hzero : '0'.toNat - '0'.toNat = 0 := rfl
    omega
  · simp only [List.cons_append, List.nil_append, List.take_succ_cons, List.take_zero, Nat.ofDigitChars_cons,
      Nat.ofDigitChars_nil, List.length_cons, List.length_nil]
    omega
  · rw [hf] at hle
    simp at hle

/-- The hundredths of a price are a hundred times its value. -/
theorem hundredths_eq : (p.hundredths : ℚ) = 100 * p.value := by
  have hpadded : (Nat.ofDigitChars 10 ((p.fraction ++ ['0', '0']).take 2) 0 : ℚ) * 10 ^ p.fraction.length =
      Nat.ofDigitChars 10 p.fraction 0 * 100 := by exact_mod_cast p.fraction_padded
  have hpow : (10 : ℚ) ^ p.fraction.length ≠ 0 := pow_ne_zero _ (by norm_num)
  unfold hundredths value
  push_cast
  rw [mul_add, mul_div_assoc', mul_comm (100 : ℚ) (Nat.ofDigitChars 10 p.fraction 0 : ℚ), ← hpadded, mul_div_cancel_right₀ _ hpow]
  ring

/-- The two parts of the text are the whole part and the fraction. -/
theorem minorUnits_text : minorUnits p.text.toList =
    double (double (double (p.hundredths / 100) * 100) + p.hundredths % 100) := by
  have hparts : (p.text.toList.splitOn '.').headD [] = p.whole ∧ (p.text.toList.splitOn '.').tail.headD [] = p.fraction := by
    rw [toList_text]
    by_cases hf : p.fraction = []
    · rw [if_pos hf, List.append_nil, List.splitOn_eq_singleton p.point_not_mem_whole, hf]
      exact ⟨rfl, rfl⟩
    · rw [if_neg hf, List.splitOn_append_cons_self_of_not_mem p.point_not_mem_whole,
        List.splitOn_eq_singleton p.point_not_mem_fraction]
      exact ⟨rfl, rfl⟩
  have hlt : Nat.ofDigitChars 10 ((p.fraction ++ ['0', '0']).take 2) 0 < 100 := by
    have hdigits : ∀ c ∈ (p.fraction ++ ['0', '0']).take 2, c.isDigit = true := by
      intro c hc
      rcases List.mem_append.1 (List.mem_of_mem_take hc) with hc | hc
      · exact p.fraction_digits c hc
      · rcases List.mem_cons.1 hc with rfl | hc
        · rfl
        · rw [List.mem_singleton.1 hc]
          rfl
    have hlen : ((p.fraction ++ ['0', '0']).take 2).length = 2 := by simp
    have := ofDigitChars_lt hdigits
    rwa [hlen] at this
  unfold minorUnits number hundredths
  dsimp only
  rw [hparts.1, hparts.2]
  generalize Nat.ofDigitChars 10 ((p.fraction ++ ['0', '0']).take 2) 0 = cents at hlt ⊢
  generalize Nat.ofDigitChars 10 p.whole 0 = whole
  have hdiv : (whole * 100 + cents) / 100 = whole := by omega
  have hmod : (whole * 100 + cents) % 100 = cents := by omega
  have hsmall : double cents = cents := double_of_lt (by omega)
  rw [hsmall, hdiv, hmod]

/-- What is computed for a price is a safe integer exactly when its hundredths are one, and then it is them. -/
theorem minorUnits_safe (n : Nat) : minorUnits p.text.toList = n ∧ n < 2 ^ 53 ↔ p.hundredths = n ∧ n < 2 ^ 53 := by
  rw [minorUnits_text]
  constructor
  · rintro ⟨rfl, hlt⟩
    exact ⟨(minorUnits_exact hlt).symm, hlt⟩
  · rintro ⟨rfl, hlt⟩
    exact ⟨minorUnits_of_lt hlt, hlt⟩

end Price

/-- `validateMinorAmount` returns for positive safe integers. -/
theorem validateMinorAmount_pure_iff {value : Nat} : validateMinorAmount value = pure () ↔ 0 < value ∧ value < 2 ^ 53 := by
  unfold validateMinorAmount isSafeInteger
  split
  · rename_i h
    simp only [Bool.or_eq_true, Bool.not_eq_true', decide_eq_false_iff_not, decide_eq_true_eq] at h
    refine ⟨fun hthrow => ?_, fun hsafe => by omega⟩
    cases hthrow
  · rename_i h
    simp only [Bool.or_eq_true, Bool.not_eq_true', decide_eq_false_iff_not, decide_eq_true_eq, not_or, not_not] at h
    exact ⟨fun _ => by omega, fun _ => rfl⟩

end Payments

end Archisynapse
