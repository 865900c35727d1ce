import Underwriting.Rating.Amounts

/-! # Amounts that need no rounding

A subtotal that is the insured value times a decimal fraction, with few enough
digits for every value of the column's range, is left alone by the default
context. The steps of a pricing take such subtotals to such subtotals.
-/

namespace Underwriting.Rating

open Decimal

/-- `p / 10 ^ q` of any insured value has at most 28 digits, with room for a fee, and is
    small enough to be shown. -/
def Fits (p q : ℕ) : Prop :=
  (∃ z < q + 1, p % 10 ^ z = 0 ∧ p / 10 ^ z * 2 ^ 63 + 10 ^ 20 ≤ 10 ^ 28) ∧ p * 2 ^ 63 ≤ 10 ^ (q + 20) ∧ q < 100

instance (p q : ℕ) : Decidable (Fits p q) := inferInstanceAs (Decidable (_ ∧ _))

/-- The range of the column, without what a pricing cannot start from. -/
structure Insurable (tivEur : ℤ) : Prop where
  positive : 1 ≤ tivEur
  bounded : tivEur < 2 ^ 63

/-- The decimal is `p / 10 ^ q` of the insured value. -/
structure Amount (tivEur : ℤ) (p q : ℕ) (d : Decimal) : Prop where
  finite : d.IsFinite
  value : d.toRat = tivEur * p / 10 ^ q

theorem Insurable.nonneg {tivEur : ℤ} (insurable : Insurable tivEur) (p q : ℕ) :
    (0 : ℚ) ≤ tivEur * p / 10 ^ q := by
  have positive : (0 : ℚ) ≤ tivEur := by exact_mod_cast (show (0 : ℤ) ≤ 1 by decide).trans insurable.positive
  positivity

section Digits

variable {tivEur : ℤ} {p q : ℕ} (fits : Fits p q) (insurable : Insurable tivEur)
include fits insurable

/-- With a whole number of few digits added there are still few digits. -/
theorem Fits.digits_add {fee : ℕ} (low : fee * 10 ^ q < 10 ^ 20) :
    (tivEur * p / 10 ^ q + fee : ℚ) ∈ Rounding.Digits ℚ 10 28 (-999999 - (28 : ℕ) + 1) := by
  obtain ⟨⟨z, below, divides, digits⟩, -, exponent⟩ := fits
  obtain ⟨m, rfl⟩ : 10 ^ z ∣ p := Nat.dvd_of_mod_eq_zero divides
  rw [Nat.mul_div_cancel_left _ (by positivity)] at digits
  obtain ⟨r, rfl⟩ : ∃ r, q = z + r := ⟨q - z, by omega⟩
  refine ⟨tivEur * m + fee * 10 ^ r, -r, ?_, by omega, ?_⟩
  · have nonneg := insurable.positive
    have value : tivEur * m ≤ 2 ^ 63 * m := mul_le_mul_of_nonneg_right insurable.bounded.le (by positivity)
    have fee' : fee * 10 ^ r ≤ fee * 10 ^ (z + r) :=
      Nat.mul_le_mul_left _ (Nat.pow_le_pow_right (by decide) (by omega))
    have least : 0 ≤ tivEur * m + fee * 10 ^ r := by positivity
    rw [abs_of_nonneg least]
    have digits' : (m : ℤ) * 2 ^ 63 + 10 ^ 20 ≤ 10 ^ 28 := by exact_mod_cast digits
    have fee'' : (fee : ℤ) * 10 ^ r < 10 ^ 20 := by exact_mod_cast fee'.trans_lt low
    push_cast
    linarith
  · rw [zpow_neg, zpow_natCast, pow_add]
    push_cast
    field_simp

theorem Fits.rounded : DecimalContext.standard.round (tivEur * p / 10 ^ q) = tivEur * p / 10 ^ q := by
  have none : 0 * 10 ^ q < 10 ^ 20 := by norm_num
  have digits := fits.digits_add insurable none
  rw [Nat.cast_zero, add_zero] at digits
  exact Rounding.round_eq_self (by decide) (by decide) digits

theorem Fits.le : (tivEur * p / 10 ^ q : ℚ) ≤ 10 ^ 20 := by
  have bound : (p : ℚ) * 2 ^ 63 ≤ 10 ^ (q + 20) := by exact_mod_cast fits.2.1
  have upper : (tivEur : ℚ) ≤ 2 ^ 63 := by exact_mod_cast insurable.bounded.le
  have scaled : (tivEur : ℚ) * p ≤ 2 ^ 63 * p := mul_le_mul_of_nonneg_right upper (Nat.cast_nonneg p)
  rw [div_le_iff₀ (by positivity), ← pow_add, add_comm 20 q]
  linarith

end Digits

/-! ## Steps that return -/

/-- Pricing stays far below the largest exponent. -/
theorem in_range {x : ℚ} (nonneg : 0 ≤ x) (le : x ≤ 10 ^ 22) : |x| < 10 ^ (999999 : ℤ) := by
  rw [abs_of_nonneg nonneg]
  have power : (10 : ℚ) ^ (22 : ℤ) < 10 ^ (999999 : ℤ) := zpow_lt_zpow_right₀ (by norm_num) (by norm_num)
  exact le.trans_lt (by exact_mod_cast power)

/-- An amount far below 28 digits is shown. -/
theorem shown {amount : Decimal} (finite : amount.IsFinite) (nonneg : 0 ≤ amount.toRat) (le : amount.toRat ≤ 10 ^ 22) :
    ∃ minor, toMinor .standard amount = .ok minor ∧ minor = Rounding.halfUp amount.toRat := by
  have small : |amount.toRat| + 1 / 2 < 10 ^ 28 := by
    rw [abs_of_nonneg nonneg]
    linarith
  obtain ⟨whole, minor, quantized, whole'⟩ : ∃ whole minor,
      amount.quantizeUnit .standard = .ok whole ∧ whole.toInt? = some minor :=
    quantizeUnit_exists (by decide) finite small
  have shown : toMinor .standard amount = .ok minor := by
    simp only [toMinor, signaled, quantized, Except.mapError, bind, Except.bind, whole']
    rfl
  exact ⟨minor, shown, (toMinor_value shown).2⟩

/-- A subtotal that is shown is appended. -/
theorem append_exists {amount : Decimal} (finite : amount.IsFinite) (nonneg : 0 ≤ amount.toRat)
    (le : amount.toRat ≤ 10 ^ 22) (trail : Trail) (label kind : Json) (value stage : String) :
    ∃ next, trail.append .standard label kind value amount stage = .ok next ∧ next.subtotal = amount := by
  obtain ⟨minor, shown, -⟩ := shown finite nonneg le
  refine ⟨⟨amount, trail.items ++ [⟨label, kind, value, minor, stage⟩]⟩, ?_, rfl⟩
  simp only [Trail.append, shown]
  rfl

/-- Rounding does not carry beyond a power of ten. -/
theorem round_le {x : ℚ} (le : x ≤ 10 ^ 22) : DecimalContext.standard.round x ≤ 10 ^ 22 := by
  have power : DecimalContext.standard.round (10 ^ 22) = 10 ^ 22 :=
    Rounding.round_eq_self (by decide) (by decide) ⟨1, 22, by decide, by decide, by norm_num⟩
  exact power ▸ DecimalContext.round_mono DecimalContext.standard_keeps le

section Steps

variable {tivEur : ℤ} {p q n : ℕ} {a b : Decimal} {trail : Trail}

theorem Amount.append (amount : Amount tivEur p q a) (fits : Fits p q) (insurable : Insurable tivEur)
    (trail : Trail) (label kind : Json) (value stage : String) :
    ∃ next, trail.append .standard label kind value a stage = .ok next ∧ Amount tivEur p q next.subtotal := by
  have nonneg := insurable.nonneg p q
  have le := fits.le insurable
  rw [← amount.value] at nonneg le
  obtain ⟨next, appended, same⟩ :=
    append_exists amount.finite nonneg (le.trans (by norm_num)) trail label kind value stage
  exact ⟨next, appended, same ▸ amount⟩

/-- A product that fits is exact. -/
theorem Amount.of_product (finite : a.IsFinite) (finite' : b.IsFinite)
    (value : a.toRat * b.toRat = tivEur * p / 10 ^ q) (fits : Fits p q) (insurable : Insurable tivEur) :
    ∃ d, a.mul .standard b = .ok d ∧ Amount tivEur p q d := by
  have nonneg := insurable.nonneg p q
  have le := fits.le insurable
  have rounded := fits.rounded insurable
  rw [← value] at nonneg le rounded
  obtain ⟨d, product⟩ : ∃ d, a.mul .standard b = .ok d :=
    mul_exists (by decide : (-999999 : ℤ) < 999999) finite finite' (in_range nonneg (le.trans (by norm_num)))
  have rounds := mul_rounds DecimalContext.standard_keeps finite finite' product
  exact ⟨d, product, rounds.settled.finite, by rw [rounds.value, rounded, value]⟩

/-- A factor in hundredths. -/
theorem Amount.mul (amount : Amount tivEur p q a) (finite : b.IsFinite) (factor : b.toRat = n / 100)
    (fits : Fits (p * n) (q + 2)) (insurable : Insurable tivEur) :
    ∃ d, a.mul .standard b = .ok d ∧ Amount tivEur (p * n) (q + 2) d := by
  apply Amount.of_product amount.finite finite _ fits insurable
  rw [amount.value, factor]
  push_cast
  ring

/-- A step that is left out is one of a hundred hundredths. -/
theorem Amount.pad (amount : Amount tivEur p q a) : Amount tivEur (p * 100) (q + 2) a := by
  refine ⟨amount.finite, ?_⟩
  rw [amount.value]
  push_cast
  rw [pow_add]
  field_simp
  ring

theorem adjust_exact {flags : Finset String} {adj : Adjustment} {applied : Bool}
    (gate : applies flags adj.appliesWhen = .ok applied) (finite : adj.factor.IsFinite)
    (factor : adj.factor.toRat = n / 100) (fits : Fits (p * n) (q + 2)) (insurable : Insurable tivEur)
    (amount : Amount tivEur p q trail.subtotal) :
    ∃ next, adjust .standard flags trail adj = .ok next ∧
      Amount tivEur (p * if applied then n else 100) (q + 2) next.subtotal := by
  cases applied with
  | false =>
      refine ⟨trail, ?_, amount.pad⟩
      simp only [adjust, gate]
      rfl
  | true =>
      obtain ⟨subtotal, product, amount⟩ := amount.mul finite factor fits insurable
      obtain ⟨next, appended, amount⟩ := amount.append fits insurable trail adj.name adj.kind
        ("×" ++ adj.factor.str) "loss_cost"
      refine ⟨next, ?_, amount⟩
      simp only [adjust, gate, product, signaled, Except.mapError, bind, Except.bind]
      exact appended

theorem load_exact {name : String} {pct factor : Decimal} (positive : Decimal.zero.lt pct = .ok true)
    (sum : Decimal.one.add .standard pct = .ok factor) (finite : factor.IsFinite)
    (value : factor.toRat = n / 100) (fits : Fits (p * n) (q + 2)) (insurable : Insurable tivEur)
    (amount : Amount tivEur p q trail.subtotal) :
    ∃ next, load .standard trail (name, pct) = .ok next ∧ Amount tivEur (p * n) (q + 2) next.subtotal := by
  obtain ⟨subtotal, product, amount⟩ := amount.mul finite value fits insurable
  obtain ⟨next, appended, amount⟩ := amount.append fits insurable trail name "loading" ("×" ++ factor.str) "technical"
  refine ⟨next, ?_, amount⟩
  simp only [load, positive, sum, product, signaled, Except.mapError, bind, Except.bind]
  exact appended

/-- A sum is rounded once. -/
theorem add_exact (finite : a.IsFinite) (finite' : b.IsFinite) (nonneg : 0 ≤ a.toRat + b.toRat)
    (le : a.toRat + b.toRat ≤ 10 ^ 22) (trail : Trail) (label kind : Json) (value stage : String) :
    ∃ sum next, a.add .standard b = .ok sum ∧ trail.append .standard label kind value sum stage = .ok next ∧
      Rounds .standard (a.toRat + b.toRat) next.subtotal := by
  obtain ⟨sum, added⟩ : ∃ d, a.add .standard b = .ok d :=
    add_exists (by decide : (-999999 : ℤ) < 999999) finite finite' (in_range nonneg le)
  have rounds := add_rounds DecimalContext.standard_keeps finite finite' added
  have nonneg' : 0 ≤ sum.toRat := rounds.value ▸ DecimalContext.round_nonneg DecimalContext.standard_keeps nonneg
  have le' : sum.toRat ≤ 10 ^ 22 := rounds.value ▸ round_le le
  obtain ⟨next, appended, same⟩ := append_exists rounds.settled.finite nonneg' le' trail label kind value stage
  exact ⟨sum, next, added, appended, same ▸ rounds⟩

end Steps

end Underwriting.Rating
