import Archisynapse.Lemmas.MinorUnits

/-!
# Minor units

The adapter's conversion of a price is exact: it returns for the prices of one to 2^53 - 1 cents, however many digits they are
written with, and returns their cents. On the texts that `toFixed(2)` writes it is the conversion the service's payments and
refunds go through.
-/

namespace Archisynapse

namespace Payments

/-- The conversion returns what is computed, for the text of a price, when that is a positive safe integer. -/
theorem decimalTextToMinorUnits_pure {amount currency : String} (hc : validCurrency currency = true) {n : Nat} :
    decimalTextToMinorUnits amount currency = pure n ↔
      isAmount amount.toList = true ∧ minorUnits amount.toList = n ∧ 0 < n ∧ n < 2 ^ 53 := by
  have hthrow : ∀ m, fault .processorProtocolError m ≠ (pure n : Program Nat) := fun m h => nomatch h
  unfold decimalTextToMinorUnits
  rw [if_neg (by simp [hc])]
  by_cases hamount : isAmount amount.toList = true
  · rw [if_neg (by simp [hamount])]
    dsimp only
    by_cases hsafe : 0 < minorUnits amount.toList ∧ minorUnits amount.toList < 2 ^ 53
    · rw [validateMinorAmount_pure_iff.2 hsafe]
      constructor
      · intro h
        obtain rfl : minorUnits amount.toList = n := Prog.pure.inj h
        exact ⟨hamount, rfl, hsafe⟩
      · rintro ⟨-, rfl, -⟩
        rfl
    · have hrefused : validateMinorAmount (minorUnits amount.toList) ≠ pure () := fun h => hsafe (validateMinorAmount_pure_iff.1 h)
      obtain ⟨e, he⟩ := (validateMinorAmount_eq (minorUnits amount.toList)).resolve_right hrefused
      rw [he]
      constructor
      · intro h
        cases h
      · rintro ⟨-, rfl, hpos, hlt⟩
        exact absurd ⟨hpos, hlt⟩ hsafe
  · rw [if_pos (by simp [hamount])]
    exact ⟨fun h => absurd h (hthrow _), fun h => absurd h.1 hamount⟩

/-- A positive safe number of cents, as a bound on the value of the price. -/
theorem Price.safe_iff {p : Price} : 0 < p.hundredths ∧ p.hundredths < 2 ^ 53 ↔ 0 < 100 * p.value ∧ 100 * p.value ≤ 2 ^ 53 - 1 := by
  rw [← p.hundredths_eq]
  have hle : (p.hundredths : ℚ) ≤ 2 ^ 53 - 1 ↔ p.hundredths ≤ 2 ^ 53 - 1 := by
    rw [show (2 ^ 53 - 1 : ℚ) = ((2 ^ 53 - 1 : Nat) : ℚ) by norm_num]
    exact Nat.cast_le
  rw [hle, Nat.cast_pos]
  omega

/-- With a currency code, the conversion returns exactly for a run of digits that a point and one or two digits may follow, whose
value in cents is positive and at most 2^53 - 1, and returns these cents. -/
theorem decimalTextToMinorUnits_iff {amount currency : String} (hc : validCurrency currency = true) :
    ((∃ n, decimalTextToMinorUnits amount currency = pure n) ↔
      ∃ p : Price, p.text = amount ∧ 0 < 100 * p.value ∧ 100 * p.value ≤ 2 ^ 53 - 1) ∧
    ∀ n, decimalTextToMinorUnits amount currency = pure n → ∀ p : Price, p.text = amount → (n : ℚ) = 100 * p.value := by
  have hreads : ∀ n, decimalTextToMinorUnits amount currency = pure n → ∀ p : Price, p.text = amount →
      p.hundredths = n ∧ 0 < n ∧ n < 2 ^ 53 := by
    rintro n h p rfl
    obtain ⟨-, hn, hpos, hlt⟩ := (decimalTextToMinorUnits_pure hc).1 h
    exact ⟨((p.minorUnits_safe n).1 ⟨hn, hlt⟩).1, hpos, hlt⟩
  refine ⟨⟨?_, ?_⟩, ?_⟩
  · rintro ⟨n, h⟩
    obtain ⟨p, hp⟩ := exists_price ((decimalTextToMinorUnits_pure hc).1 h).1
    obtain ⟨hn, hsafe⟩ := hreads n h p hp
    refine ⟨p, hp, Price.safe_iff.1 ?_⟩
    rw [hn]
    exact hsafe
  · rintro ⟨p, rfl, hbounds⟩
    obtain ⟨hpos, hlt⟩ := Price.safe_iff.2 hbounds
    exact ⟨p.hundredths, (decimalTextToMinorUnits_pure hc).2
      ⟨p.isAmount_text, ((p.minorUnits_safe _).2 ⟨rfl, hlt⟩).1, hpos, hlt⟩⟩
  · intro n h p hp
    rw [← p.hundredths_eq, (hreads n h p hp).1]

/-- The price of the largest safe number of cents. -/
def largestPrice : Price where
  whole := "90071992547409".toList
  fraction := ['9', '1']
  whole_ne := by decide +kernel
  whole_digits := List.all_eq_true.1 (by decide +kernel : "90071992547409".toList.all Char.isDigit = true)
  fraction_digits := List.all_eq_true.1 (by decide : ['9', '1'].all Char.isDigit = true)
  fraction_le := by decide

theorem decimalTextToMinorUnits_largest :
    validCurrency "USD" = true ∧
    ((∃ n, decimalTextToMinorUnits largestPrice.text "USD" = pure n) ↔
      ∃ p : Price, p.text = largestPrice.text ∧ 0 < 100 * p.value ∧ 100 * p.value ≤ 2 ^ 53 - 1) ∧
    ∀ n, decimalTextToMinorUnits largestPrice.text "USD" = pure n →
      ∀ p : Price, p.text = largestPrice.text → (n : ℚ) = 100 * p.value :=
  ⟨by decide +kernel, decimalTextToMinorUnits_iff (by decide +kernel)⟩

/-- One cent more is refused, and so is an amount whose cents round to a safe integer's neighbour. -/
example : minorUnits "90071992547409.91".toList = 2 ^ 53 - 1 ∧ minorUnits "90071992547409.92".toList = 2 ^ 53 ∧
    minorUnits "90071992547409.93".toList = 2 ^ 53 := by
  decide +kernel

/-! ## The texts of `toFixed(2)` -/

/-- The price that `toFixed(2)` writes for an amount. -/
def fixedPrice (n : Nat) : Price where
  whole := Nat.toDigits 10 (n / 100)
  fraction := [Nat.digitChar (n % 100 / 10), Nat.digitChar (n % 10)]
  whole_ne := Nat.toDigits_ne_nil
  whole_digits := fun _ hc => Nat.isDigit_of_mem_toDigits (by decide) (by decide) hc
  fraction_digits := by
    have hdigit : ∀ a < 10, (Nat.digitChar a).isDigit = true := by decide
    intro c hc
    rcases List.mem_cons.1 hc with rfl | hc
    · exact hdigit _ (by omega)
    · rw [List.mem_singleton.1 hc]
      exact hdigit _ (by omega)
  fraction_le := le_rfl

theorem fixedPrice_hundredths (n : Nat) : (fixedPrice n).hundredths = n := by
  unfold Price.hundredths fixedPrice
  dsimp only [List.cons_append, List.take_succ_cons, List.take_zero]
  rw [Nat.ofDigitChars_ten_toDigits, Nat.ofDigitChars_cons_digitChar_of_lt_ten (by omega),
    Nat.ofDigitChars_cons_digitChar_of_lt_ten (by omega), Nat.ofDigitChars_nil]
  omega

theorem toFixed2_of_nonneg {amount : ℚ} (h : 0 ≤ amount) : toFixed2 amount = (fixedPrice (cents amount)).text := by
  unfold toFixed2
  rw [abs_of_nonneg h, if_neg (not_lt.2 h)]
  rfl

/-- The conversion that payments and refunds go through is the adapter's conversion of the amount's `toFixed(2)` text. -/
theorem decimalStringToMinorUnits_toFixed2 (amount : ℚ) (currency : String) :
    decimalStringToMinorUnits amount currency = decimalTextToMinorUnits (toFixed2 amount) currency := by
  unfold decimalStringToMinorUnits decimalTextToMinorUnits
  by_cases hneg : amount < 0
  · have hminus : isAmount (toFixed2 amount).toList = false := by
      unfold toFixed2
      rw [String.toList_ofList, if_pos hneg]
      rfl
    rw [if_pos hneg, hminus]
    rfl
  · rw [if_neg hneg, toFixed2_of_nonneg (not_lt.1 hneg), (fixedPrice _).isAmount_text, (fixedPrice _).minorUnits_text,
      fixedPrice_hundredths]
    rfl

end Payments

end Archisynapse
