import Mathlib.Algebra.Order.Field.Power
import Mathlib.Data.Rat.Floor
import Underwriting.Lib.Decimal
import Underwriting.Lib.Rounding

/-! # The numbers that decimals stand for

Every operation on finite decimals that raises no signal yields the rounded value
of the exact result. What a context makes of a value is a monotone function that
leaves its own results alone.
-/

namespace DecimalContext

/-- What the context makes of an exact result. -/
def round : DecimalContext → ℚ → ℚ
  | .exact, x => x
  | .rounded prec emin _, x => Rounding.round 10 prec (emin - prec + 1) x

/-- At least one digit is kept. -/
def Keeps : DecimalContext → Prop
  | .exact => True
  | .rounded prec _ _ => 0 < prec

theorem standard_keeps : standard.Keeps := (by decide : 0 < 28)

variable {ctx : DecimalContext} (keeps : ctx.Keeps)
include keeps

theorem round_mono : Monotone ctx.round := by
  cases ctx with
  | exact => exact monotone_id
  | rounded prec emin emax => exact Rounding.round_mono (by decide) keeps

theorem round_round (x : ℚ) : ctx.round (ctx.round x) = ctx.round x := by
  cases ctx with
  | exact => rfl
  | rounded prec emin emax => exact Rounding.round_round (by decide) keeps x

omit keeps in
@[simp] theorem round_zero : ctx.round 0 = 0 := by
  cases ctx with
  | exact => rfl
  | rounded prec emin emax => exact Rounding.round_zero

theorem round_nonneg {x : ℚ} (nonneg : 0 ≤ x) : 0 ≤ ctx.round x := by
  have mono := round_mono keeps nonneg
  rwa [round_zero] at mono

end DecimalContext

namespace Decimal

def sign (neg : Bool) : ℚ := if neg then -1 else 1

/-- The number of a finite decimal, and 0 for the others. -/
def toRat : Decimal → ℚ
  | .finite neg coeff exp => sign neg * coeff * 10 ^ exp
  | .infinity _ | .nan .. => 0

def IsFinite : Decimal → Prop
  | .finite .. => True
  | .infinity _ | .nan .. => False

instance : DecidablePred IsFinite
  | .finite .. => isTrue trivial
  | .infinity _ | .nan .. => isFalse id

/-- The decimal is a number that the context leaves alone. -/
structure Settled (ctx : DecimalContext) (d : Decimal) : Prop where
  finite : d.IsFinite
  rounded : ctx.round d.toRat = d.toRat

theorem abs_sign (neg : Bool) : |sign neg| = 1 := by cases neg <;> simp [sign]

theorem IsFinite.parts {d : Decimal} (finite : d.IsFinite) : ∃ neg coeff exp, d = .finite neg coeff exp := by
  cases d with
  | finite neg coeff exp => exact ⟨neg, coeff, exp, rfl⟩
  | infinity | nan => exact finite.elim

theorem finite_ofInt (n : ℤ) : (ofInt n).IsFinite := trivial

theorem finite_zero : zero.IsFinite := finite_ofInt 0

theorem finite_one : one.IsFinite := finite_ofInt 1

@[simp] theorem toRat_ofInt (n : ℤ) : (ofInt n).toRat = n := by
  rcases lt_or_ge n 0 with negative | nonneg
  · have size : ((n.natAbs : ℕ) : ℚ) = -n := by
      rw [Nat.cast_natAbs, Int.cast_abs, abs_of_neg (by exact_mod_cast negative)]
    simp [ofInt, toRat, sign, negative, size]
  · have size : ((n.natAbs : ℕ) : ℚ) = n := by
      rw [Nat.cast_natAbs, Int.cast_abs, abs_of_nonneg (by exact_mod_cast nonneg)]
    simp [ofInt, toRat, sign, not_lt.mpr nonneg, size]

@[simp] theorem toRat_one : one.toRat = 1 := by simp [one]

@[simp] theorem toRat_zero : zero.toRat = 0 := by simp [zero]

/-! ## Rounding a result -/

theorem div_split (n : ℕ) {d : ℕ} (positive : 0 < d) : (n : ℚ) / d = (n / d : ℕ) + ((n % d : ℕ) : ℚ) / d := by
  have nonzero : (d : ℚ) ≠ 0 := by exact_mod_cast positive.ne'
  have whole : (n : ℚ) = d * (n / d : ℕ) + (n % d : ℕ) := by exact_mod_cast (Nat.div_add_mod n d).symm
  rw [eq_comm, eq_div_iff nonzero, add_mul, div_mul_cancel₀ _ nonzero, whole]
  ring

/-- What a whole division leaves is less than one part. -/
theorem mod_div_lt_one (n : ℕ) {d : ℕ} (positive : 0 < d) : ((n % d : ℕ) : ℚ) / d < 1 := by
  rw [div_lt_one (by exact_mod_cast positive)]
  exact_mod_cast Nat.mod_lt n positive

theorem halfEven_div (n : ℕ) {d : ℕ} (positive : 0 < d) :
    Rounding.halfEven ((n : ℚ) / d) = divHalfEven n d := by
  have positive' : (0 : ℚ) < d := by exact_mod_cast positive
  have part : (0 : ℚ) ≤ ((n % d : ℕ) : ℚ) / d := by positivity
  have part_lt := mod_div_lt_one n positive
  rw [Rounding.halfEven_eq_iff, div_split n positive, divHalfEven]
  generalize n / d = whole
  split
  · rename_i down
    rw [Int.cast_natCast, add_sub_cancel_left, abs_of_nonneg part, ← mul_div_assoc, div_lt_one positive',
      div_eq_one_iff_eq positive'.ne']
    rcases down with less | ⟨tie, even⟩
    · exact .inl (by exact_mod_cast less)
    · exact .inr ⟨by exact_mod_cast tie, by omega⟩
  · rename_i up
    rw [not_or, not_lt, not_and] at up
    obtain ⟨half, odd⟩ := up
    have half' : (1 : ℚ) ≤ 2 * (((n % d : ℕ) : ℚ) / d) := by
      rw [← mul_div_assoc, one_le_div positive']
      exact_mod_cast half
    have distance : |(whole : ℚ) + ((n % d : ℕ) : ℚ) / d - ((whole + 1 : ℕ) : ℤ)| = 1 - ((n % d : ℕ) : ℚ) / d := by
      rw [abs_sub_comm, abs_of_nonneg] <;> push_cast <;> linarith
    rw [distance]
    rcases half'.lt_or_eq with beyond | same
    · exact .inl (by linarith)
    · refine .inr ⟨by linarith, ?_⟩
      rw [← mul_div_assoc, eq_comm, div_eq_one_iff_eq positive'.ne'] at same
      have uneven := odd (by exact_mod_cast same)
      omega

theorem floor_div_half (n : ℕ) {d : ℕ} (positive : 0 < d) : ⌊(n : ℚ) / d + 1 / 2⌋ = divHalfUp n d := by
  have positive' : (0 : ℚ) < d := by exact_mod_cast positive
  have part : (0 : ℚ) ≤ ((n % d : ℕ) : ℚ) / d := by positivity
  have part_lt := mod_div_lt_one n positive
  rw [Int.floor_eq_iff, div_split n positive, divHalfUp]
  generalize n / d = whole
  split
  · rename_i down
    have less : 2 * (((n % d : ℕ) : ℚ) / d) < 1 := by
      rw [← mul_div_assoc, div_lt_one positive']
      exact_mod_cast down
    constructor <;> push_cast <;> linarith
  · rename_i up
    have half : (1 : ℚ) ≤ 2 * (((n % d : ℕ) : ℚ) / d) := by
      rw [← mul_div_assoc, one_le_div positive']
      exact_mod_cast not_lt.mp up
    constructor <;> push_cast <;> linarith

theorem numDigits_le_iff {n p : ℕ} (positive : 0 < p) : numDigits n ≤ p ↔ n < 10 ^ p := by
  rw [numDigits, Nat.succ_le_iff]
  exact ⟨Nat.lt_pow_of_log_lt (by decide), Nat.log_lt_of_lt_pow' positive.ne'⟩

theorem log_value {coeff : ℕ} (nonzero : coeff ≠ 0) (neg : Bool) (exp : ℤ) :
    Int.log 10 |sign neg * coeff * (10 : ℚ) ^ exp| = Nat.log 10 coeff + exp := by
  have size : |sign neg * coeff * (10 : ℚ) ^ exp| = coeff * (10 : ℚ) ^ exp := by
    rw [abs_mul, abs_mul, abs_sign, one_mul, Nat.abs_cast, abs_of_pos (by positivity)]
  have lower : (10 : ℚ) ^ Nat.log 10 coeff ≤ coeff := by exact_mod_cast Nat.pow_log_le_self 10 nonzero
  have upper : (coeff : ℚ) < (10 : ℚ) ^ (Nat.log 10 coeff + 1) := by
    exact_mod_cast Nat.lt_pow_succ_log_self (by decide) coeff
  rw [size]
  refine Rounding.log_eq (by decide) ?_ ?_
  · rw [Nat.cast_ofNat, zpow_add₀ (by norm_num), zpow_natCast]
    exact mul_le_mul_of_nonneg_right lower (by positivity)
  · rw [Nat.cast_ofNat, add_right_comm, zpow_add₀ (by norm_num), ← Nat.cast_succ, zpow_natCast]
    exact mul_lt_mul_of_pos_right upper (by positivity)

section Fix

variable {prec : ℕ} {emin emax : ℤ} {neg : Bool} {coeff : ℕ} {exp : ℤ} {d : Decimal}

/-- The exponent that `fix` rounds to is that of the last digit kept. -/
theorem lastDigit_value (nonzero : coeff ≠ 0) :
    Rounding.lastDigit 10 prec (emin - prec + 1) (sign neg * coeff * (10 : ℚ) ^ exp) =
      max (numDigits coeff + exp - prec) (emin - prec + 1) := by
  rw [Rounding.lastDigit, log_value nonzero, numDigits]
  congr 1
  push_cast
  ring

/-- A coefficient that keeps its exponent has few enough digits. -/
theorem digits_kept (some_digit : 0 < prec)
    (kept : max ((numDigits coeff : ℤ) + exp - prec) (emin - prec + 1) ≤ exp) :
    sign neg * coeff * (10 : ℚ) ^ exp ∈ Rounding.Digits ℚ 10 prec (emin - prec + 1) := by
  obtain ⟨short, high⟩ := max_le_iff.mp kept
  have fits : coeff < 10 ^ prec := (numDigits_le_iff some_digit).mp (by omega)
  refine ⟨(if neg then -1 else 1) * coeff, exp, ?_, high, ?_⟩
  · cases neg <;> simp <;> exact_mod_cast fits
  · cases neg <;> simp [sign]

/-- Dropping digits is rounding in units of the last digit kept. -/
theorem halfEven_dropped {target : ℤ} (lower : exp ≤ target) :
    Rounding.halfEven (sign neg * coeff * (10 : ℚ) ^ exp / (10 : ℚ) ^ target) =
      (if neg then -1 else 1) * (divHalfEven coeff (10 ^ (target - exp).toNat) : ℤ) := by
  have scaled : (coeff : ℚ) * (10 : ℚ) ^ exp / (10 : ℚ) ^ target = coeff / (10 ^ (target - exp).toNat : ℕ) := by
    rw [Nat.cast_pow, Nat.cast_ofNat, ← zpow_natCast, Int.toNat_of_nonneg (by omega), zpow_sub₀ (by norm_num)]
    field_simp
  have positive : 0 < 10 ^ (target - exp).toNat := by positivity
  rw [mul_assoc, mul_div_assoc, scaled]
  cases neg
  · simp only [sign, Bool.false_eq_true, if_false, one_mul, halfEven_div coeff positive]
  · simp only [sign, if_true, neg_one_mul, Rounding.halfEven_neg, halfEven_div coeff positive]

/-- The coefficient and exponent after a carry into a digit too many. -/
def carry (prec kept : ℕ) (target : ℤ) : ℕ × ℤ :=
  if numDigits kept > prec then (kept / 10, target + 1) else (kept, target)

theorem carry_value {kept : ℕ} {target : ℤ} (some_digit : 0 < prec) (bound : kept ≤ 10 ^ prec) :
    ((carry prec kept target).1 : ℚ) * 10 ^ (carry prec kept target).2 = kept * 10 ^ target := by
  rw [carry]
  split
  · rename_i long
    have full : kept = 10 ^ prec :=
      le_antisymm bound (not_lt.mp fun short => absurd ((numDigits_le_iff some_digit).mpr short) (by omega))
    obtain ⟨p, rfl⟩ : ∃ p, prec = p + 1 := ⟨prec - 1, by omega⟩
    rw [full, pow_succ, Nat.mul_div_cancel _ (by decide), zpow_add_one₀ (by norm_num)]
    push_cast
    ring
  · rfl

section Dropped

variable {target : ℤ} (nonzero : coeff ≠ 0)
  (last : max ((numDigits coeff : ℤ) + exp - prec) (emin - prec + 1) = target) (dropped : exp ≤ target)
include nonzero last dropped

theorem round_dropped : Rounding.round 10 prec (emin - prec + 1) (sign neg * coeff * (10 : ℚ) ^ exp) =
    sign neg * (divHalfEven coeff (10 ^ (target - exp).toNat) * 10 ^ target) := by
  rw [Rounding.round, lastDigit_value nonzero, last, Nat.cast_ofNat, halfEven_dropped dropped, ← mul_assoc]
  cases neg <;> simp [sign]

theorem dropped_le : divHalfEven coeff (10 ^ (target - exp).toNat) ≤ 10 ^ prec := by
  have bound : |Rounding.halfEven (sign false * coeff * (10 : ℚ) ^ exp / ((10 : ℕ) : ℚ) ^ Rounding.lastDigit 10 prec
      (emin - prec + 1) (sign false * coeff * (10 : ℚ) ^ exp))| ≤ ((10 : ℕ) : ℤ) ^ prec :=
    Rounding.abs_halfEven_le (by decide) _
  rw [lastDigit_value nonzero, last, Nat.cast_ofNat, halfEven_dropped dropped] at bound
  simp only [Bool.false_eq_true, if_false, one_mul, Nat.abs_cast] at bound
  exact_mod_cast bound

end Dropped

/-- A result is finite and has the rounded value. -/
theorem fix_rounded (some_digit : 0 < prec) (fixed : fix (.rounded prec emin emax) neg coeff exp = .ok d) :
    d.IsFinite ∧ d.toRat = Rounding.round 10 prec (emin - prec + 1) (sign neg * coeff * 10 ^ exp) := by
  simp only [fix] at fixed
  split at fixed
  · rename_i zero
    cases fixed
    exact ⟨trivial, by simp [toRat, zero]⟩
  · rename_i nonzero
    split at fixed
    · cases fixed
    · split at fixed
      · rename_i kept
        cases fixed
        exact ⟨trivial, (Rounding.round_eq_self (by decide) some_digit (digits_kept some_digit kept)).symm⟩
      · rename_i dropped
        generalize last : max ((numDigits coeff : ℤ) + exp - prec) (emin - prec + 1) = target at *
        have bound := dropped_le nonzero last (not_le.mp dropped).le
        rw [round_dropped nonzero last (not_le.mp dropped).le]
        generalize divHalfEven coeff (10 ^ (target - exp).toNat) = kept at *
        change (if (carry prec kept target).2 > _ then _ else _) = _ at fixed
        split at fixed
        · cases fixed
        · cases fixed
          refine ⟨trivial, ?_⟩
          change sign neg * ((carry prec kept target).1 : ℚ) * 10 ^ (carry prec kept target).2 = _
          rw [mul_assoc, carry_value some_digit bound]

/-- A result of a size within the exponent range exists. -/
theorem fix_ok (range : emin < emax) (small : numDigits coeff + exp ≤ emax) :
    ∃ d, fix (.rounded prec emin emax) neg coeff exp = .ok d := by
  simp only [fix]
  split
  · exact ⟨_, rfl⟩
  · rw [if_neg (by omega)]
    split
    · exact ⟨_, rfl⟩
    · generalize last : max ((numDigits coeff : ℤ) + exp - prec) (emin - prec + 1) = target
      change ∃ d, (if (carry prec _ target).2 > _ then _ else _) = _
      rw [if_neg]
      · exact ⟨_, rfl⟩
      · rw [carry]
        split <;> dsimp only <;> omega

end Fix

/-! ## Operations -/

section Operations

variable {ctx : DecimalContext} {a b d : Decimal}

/-- What an operation leaves: a number of the context, the rounded exact result. -/
structure Rounds (ctx : DecimalContext) (x : ℚ) (d : Decimal) : Prop where
  settled : d.Settled ctx
  value : d.toRat = ctx.round x

/-- A settled number is its own rounding, so rounding what is exactly more leaves no less. -/
theorem Rounds.le_of_settled (keeps : ctx.Keeps) {before after : Decimal} {x : ℚ} (settled : before.Settled ctx)
    (more : before.toRat ≤ x) (rounds : Rounds ctx x after) : before.toRat ≤ after.toRat := by
  rw [← settled.rounded, rounds.value]
  exact DecimalContext.round_mono keeps more

theorem fix_rounds (keeps : ctx.Keeps) {neg : Bool} {coeff : ℕ} {exp : ℤ} (fixed : fix ctx neg coeff exp = .ok d) :
    Rounds ctx (sign neg * coeff * 10 ^ exp) d := by
  have spec : d.IsFinite ∧ d.toRat = ctx.round (sign neg * coeff * 10 ^ exp) := by
    cases ctx with
    | exact =>
        cases fixed
        exact ⟨trivial, rfl⟩
    | rounded prec emin emax => exact fix_rounded keeps fixed
  obtain ⟨finite, value⟩ := spec
  exact ⟨⟨finite, by rw [value, DecimalContext.round_round keeps]⟩, value⟩

theorem scaled_value (neg : Bool) (coeff : ℕ) {exp unit : ℤ} (lower : unit ≤ exp) :
    (scaled neg coeff exp unit : ℚ) * 10 ^ unit = sign neg * coeff * 10 ^ exp := by
  have split : (10 : ℚ) ^ exp = 10 ^ (exp - unit).toNat * 10 ^ unit := by
    rw [← zpow_natCast, ← zpow_add₀ (by norm_num), Int.toNat_of_nonneg (by omega), sub_add_cancel]
  rw [split, scaled]
  cases neg <;> push_cast <;> simp [sign] <;> ring

/-- A signed integer from its sign and its size. -/
theorem signed_value (sum unit : ℤ) (zeroSign : Bool) :
    sign (if sum = 0 then zeroSign else decide (sum < 0)) * (sum.natAbs : ℚ) * 10 ^ unit = sum * 10 ^ unit := by
  congr 1
  rcases lt_trichotomy sum 0 with negative | rfl | positive
  · rw [if_neg negative.ne, decide_eq_true negative, Nat.cast_natAbs, abs_of_neg negative]
    simp [sign]
  · simp
  · rw [if_neg positive.ne', decide_eq_false positive.not_gt, Nat.cast_natAbs, abs_of_pos positive]
    simp [sign]

theorem product_value (s t : Bool) (c d : ℕ) (e f : ℤ) :
    sign s * c * (10 : ℚ) ^ e * (sign t * d * 10 ^ f) = sign (s != t) * ((c * d : ℕ) : ℚ) * 10 ^ (e + f) := by
  rw [zpow_add₀ (by norm_num)]
  cases s <;> cases t <;> simp [sign] <;> ring

theorem mul_rounds (keeps : ctx.Keeps) (fa : a.IsFinite) (fb : b.IsFinite) (product : a.mul ctx b = .ok d) :
    Rounds ctx (a.toRat * b.toRat) d := by
  obtain ⟨s, c, e, rfl⟩ := fa.parts
  obtain ⟨t, c', f, rfl⟩ := fb.parts
  have rounds := fix_rounds keeps product
  rwa [← product_value] at rounds

theorem add_rounds (keeps : ctx.Keeps) (fa : a.IsFinite) (fb : b.IsFinite) (sum : a.add ctx b = .ok d) :
    Rounds ctx (a.toRat + b.toRat) d := by
  obtain ⟨s, c, e, rfl⟩ := fa.parts
  obtain ⟨t, c', f, rfl⟩ := fb.parts
  have rounds := fix_rounds keeps sum
  rwa [signed_value, Int.cast_add, add_mul, scaled_value _ _ (min_le_left e f),
    scaled_value _ _ (min_le_right e f)] at rounds

/-- An operation on a NaN has no finite result. -/
theorem withoutNan_left {neg signaling : Bool} {payload : ℕ} {op : Except DecimalSignal Decimal}
    (result : withoutNan ctx (.nan neg signaling payload) b op = .ok d) : ¬ d.IsFinite := by
  cases signaling with
  | true => cases result
  | false =>
      obtain _ | _ | ⟨_, quiet, _⟩ := b
      · cases result
        exact id
      · cases result
        exact id
      · cases quiet <;> cases result
        exact id

theorem withoutNan_right {neg signaling : Bool} {payload : ℕ} {op : Except DecimalSignal Decimal}
    (result : withoutNan ctx a (.nan neg signaling payload) op = .ok d) : ¬ d.IsFinite := by
  obtain _ | _ | _ := a
  · cases signaling <;> cases result
    exact id
  · cases signaling <;> cases result
    exact id
  · exact withoutNan_left result

/-- A finite product has finite factors. -/
theorem mul_finite (product : a.mul ctx b = .ok d) (finite : d.IsFinite) : a.IsFinite ∧ b.IsFinite := by
  obtain ⟨s, c, e⟩ | s | _ := a <;> obtain ⟨t, c', f⟩ | t | _ := b
  case finite.finite => exact ⟨trivial, trivial⟩
  case finite.infinity | infinity.finite =>
    simp only [mul, withoutNan] at product
    split at product <;> cases product
    exact finite.elim
  case infinity.infinity =>
    cases product
    exact finite.elim
  case finite.nan | infinity.nan => exact absurd finite (withoutNan_right product)
  all_goals exact absurd finite (withoutNan_left product)

/-- A finite sum has finite terms. -/
theorem add_finite (sum : a.add ctx b = .ok d) (finite : d.IsFinite) : a.IsFinite ∧ b.IsFinite := by
  obtain ⟨s, c, e⟩ | s | _ := a <;> obtain ⟨t, c', f⟩ | t | _ := b
  case finite.finite => exact ⟨trivial, trivial⟩
  case finite.infinity | infinity.finite =>
    cases sum
    exact finite.elim
  case infinity.infinity =>
    simp only [add, withoutNan] at sum
    split at sum <;> cases sum
    exact finite.elim
  case finite.nan | infinity.nan => exact absurd finite (withoutNan_right sum)
  all_goals exact absurd finite (withoutNan_left sum)

theorem mul_spec (keeps : ctx.Keeps) (product : a.mul ctx b = .ok d) (finite : d.IsFinite) :
    a.IsFinite ∧ b.IsFinite ∧ Rounds ctx (a.toRat * b.toRat) d := by
  obtain ⟨fa, fb⟩ := mul_finite product finite
  exact ⟨fa, fb, mul_rounds keeps fa fb product⟩

theorem add_spec (keeps : ctx.Keeps) (sum : a.add ctx b = .ok d) (finite : d.IsFinite) :
    a.IsFinite ∧ b.IsFinite ∧ Rounds ctx (a.toRat + b.toRat) d := by
  obtain ⟨fa, fb⟩ := add_finite sum finite
  exact ⟨fa, fb, add_rounds keeps fa fb sum⟩

/-- The quotient is rounded once, with the sign it is given. -/
theorem divFinite_fix {neg : Bool} {c e : ℕ} {f g : ℤ} (quotient : divFinite ctx neg c f e g = .ok d) :
    ∃ coeff exp, fix ctx neg coeff exp = .ok d := by
  cases ctx with
  | exact =>
      simp only [divFinite] at quotient
      split at quotient
      · exact ⟨_, _, quotient⟩
      · cases quotient
  | rounded prec emin emax =>
      simp only [divFinite] at quotient
      split at quotient
      · exact ⟨_, _, quotient⟩
      · exact ⟨_, _, quotient⟩

theorem fix_nonneg (keeps : ctx.Keeps) {coeff : ℕ} {exp : ℤ} (fixed : fix ctx false coeff exp = .ok d) :
    0 ≤ d.toRat := by
  rw [(fix_rounds keeps fixed).value]
  apply DecimalContext.round_nonneg keeps
  simp only [sign, Bool.false_eq_true, if_false, one_mul]
  positivity

/-- A number that is not negative has no negative part by a positive number. -/
theorem div_nonneg (keeps : ctx.Keeps) {e : ℕ} {f : ℤ} (quotient : a.div ctx (.finite false e f) = .ok d)
    (finite : d.IsFinite) (nonneg : a.IsFinite → 0 ≤ a.toRat) : 0 ≤ d.toRat := by
  obtain ⟨s, c, g⟩ | s | _ := a
  · simp only [div, withoutNan] at quotient
    split at quotient
    · split at quotient <;> cases quotient
    · split at quotient
      · rw [(fix_rounds keeps quotient).value]
        simp
      · rename_i positive
        obtain ⟨coeff, exp, fixed⟩ := divFinite_fix quotient
        cases s with
        | false => exact fix_nonneg keeps fixed
        | true =>
            have value : 0 ≤ -1 * (c : ℚ) * 10 ^ g := nonneg trivial
            have size : 0 < (c : ℚ) * 10 ^ g := by
              have : 0 < c := Nat.pos_of_ne_zero positive
              positivity
            linarith
  · cases quotient
    exact finite.elim
  · exact absurd finite (withoutNan_left quotient)

/-- A finite part by a number is one of a finite number. -/
theorem div_finite {t : Bool} {e : ℕ} {f : ℤ} (quotient : a.div ctx (.finite t e f) = .ok d) (finite : d.IsFinite) :
    a.IsFinite := by
  cases a with
  | finite => trivial
  | infinity s =>
      cases quotient
      exact finite.elim
  | nan => exact absurd finite (withoutNan_left quotient)

theorem lt_value (fa : a.IsFinite) (fb : b.IsFinite) : a.lt b = .ok (decide (a.toRat < b.toRat)) := by
  obtain ⟨s, c, e, rfl⟩ := fa.parts
  obtain ⟨t, c', f, rfl⟩ := fb.parts
  refine congrArg Except.ok (decide_eq_decide.mpr ?_)
  have left := scaled_value s c (min_le_left e f)
  have right := scaled_value t c' (min_le_right e f)
  rw [toRat, toRat, ← left, ← right, mul_lt_mul_iff_left₀ (by positivity), Int.cast_lt]

/-- A comparison that said no, between numbers. -/
theorem le_of_lt_false (fa : a.IsFinite) (fb : b.IsFinite) (less : a.lt b = .ok false) : b.toRat ≤ a.toRat := by
  have value := less.symm.trans (lt_value fa fb)
  rwa [Except.ok.injEq, eq_comm, decide_eq_false_iff_not, not_lt] at value

/-- Only a number is neither below one number nor above another. -/
theorem finite_of_between {low high : Decimal} (finite : low.IsFinite) (finite' : high.IsFinite)
    (above : a.lt low = .ok false) (below : high.lt a = .ok false) : a.IsFinite := by
  cases a with
  | finite => trivial
  | infinity neg =>
      cases low with
      | finite =>
          cases high with
          | finite =>
              cases neg with
              | false => cases below
              | true => cases above
          | infinity | nan => exact finite'.elim
      | infinity | nan => exact finite.elim
  | nan => cases above

theorem lt_false (fa : a.IsFinite) (fb : b.IsFinite) (le : b.toRat ≤ a.toRat) : a.lt b = .ok false := by
  rw [lt_value fa fb, decide_eq_false le.not_gt]

theorem nonneg_of_lt_false (less : a.lt .zero = .ok false) (fa : a.IsFinite) : 0 ≤ a.toRat := by
  have value := le_of_lt_false fa finite_zero less
  rwa [toRat_zero] at value

theorem eq_value (fa : a.IsFinite) (fb : b.IsFinite) : a.eq b = .ok (decide (a.toRat = b.toRat)) := by
  obtain ⟨s, c, e, rfl⟩ := fa.parts
  obtain ⟨t, c', f, rfl⟩ := fb.parts
  refine congrArg Except.ok (decide_eq_decide.mpr ?_)
  have left := scaled_value s c (min_le_left e f)
  have right := scaled_value t c' (min_le_right e f)
  rw [toRat, toRat, ← left, ← right, mul_left_inj' (by positivity), Int.cast_inj]

/-- Only a finite decimal equals one. -/
theorem eq_one (same : a.eq .one = .ok true) : a.IsFinite ∧ a.toRat = 1 := by
  obtain ⟨s, c, e⟩ | s | ⟨_, signaling, _⟩ := a
  · have value := same.symm.trans (eq_value trivial finite_one)
    rw [Except.ok.injEq, eq_comm, decide_eq_true_iff, toRat_one] at value
    exact ⟨trivial, value⟩
  · cases same
  · cases signaling <;> cases same

theorem halfUp_signed (neg : Bool) {size : ℚ} (nonneg : 0 ≤ size) :
    Rounding.halfUp (sign neg * size) = (if neg then -1 else 1) * ⌊size + 1 / 2⌋ := by
  cases neg
  · simp only [sign, Bool.false_eq_true, if_false, one_mul, Rounding.halfUp, if_pos nonneg]
  · rcases nonneg.lt_or_eq with positive | rfl
    · have negative : ¬ 0 ≤ -size := by linarith
      simp only [sign, if_true, Rounding.halfUp, neg_one_mul, if_neg negative, neg_neg]
    · norm_num [sign, Rounding.halfUp]

/-- The whole number that quantizing shows, without its sign. -/
theorem quantized_cast (coeff : ℕ) (exp : ℤ) :
    (((if 0 ≤ exp then coeff * 10 ^ exp.toNat else divHalfUp coeff (10 ^ (-exp).toNat) : ℕ)) : ℤ) =
      ⌊(coeff : ℚ) * 10 ^ exp + 1 / 2⌋ := by
  split
  · rename_i nonneg
    have whole : (coeff : ℚ) * 10 ^ exp = ((coeff * 10 ^ exp.toNat : ℕ) : ℤ) := by
      push_cast
      rw [← zpow_natCast, Int.toNat_of_nonneg nonneg]
    rw [whole, Int.floor_intCast_add]
    norm_num
  · rename_i negative
    have part : (coeff : ℚ) * 10 ^ exp = coeff / (10 ^ (-exp).toNat : ℕ) := by
      rw [Nat.cast_pow, Nat.cast_ofNat, ← zpow_natCast, Int.toNat_of_nonneg (by omega), zpow_neg, div_inv_eq_mul]
    rw [part, floor_div_half coeff (by positivity)]

/-- What is shown as a whole number is finite, and rounded half-up. -/
theorem quantizeUnit_value {shown : Decimal} {n : ℤ} (quantized : a.quantizeUnit ctx = .ok shown)
    (whole : shown.toInt? = some n) : a.IsFinite ∧ n = Rounding.halfUp a.toRat := by
  obtain ⟨neg, coeff, exp⟩ | s | ⟨_, signaling, _⟩ := a
  · refine ⟨trivial, ?_⟩
    rw [toRat, mul_assoc, halfUp_signed neg (by positivity), ← quantized_cast]
    have plain : ∀ kept : ℕ, shown = .finite neg kept 0 → n = (if neg then -1 else 1) * (kept : ℤ) := by
      rintro kept rfl
      simpa [toInt?, scaled] using whole.symm
    cases ctx with
    | exact => exact plain _ (Except.ok.inj quantized).symm
    | rounded prec emin emax =>
        simp only [quantizeUnit] at quantized
        by_cases zero : coeff = 0
        · have nothing : (if 0 ≤ exp then coeff * 10 ^ exp.toNat else divHalfUp coeff (10 ^ (-exp).toNat)) = 0 := by
            rw [zero]
            split <;> simp [divHalfUp]
          rw [if_pos zero] at quantized
          rw [nothing]
          exact plain 0 (Except.ok.inj quantized).symm
        · rw [if_neg zero] at quantized
          generalize (if 0 ≤ exp then coeff * 10 ^ exp.toNat else divHalfUp coeff (10 ^ (-exp).toNat)) = kept at *
          split at quantized
          · cases quantized
          · exact plain _ (Except.ok.inj quantized).symm
  · cases quantized
  · cases signaling
    · cases quantized
      cases whole
    · cases quantized

/-- Only a number with few enough digits before the point is shown. -/
theorem quantizeUnit_lt {prec : ℕ} {emin emax : ℤ} {shown : Decimal}
    (quantized : a.quantizeUnit (.rounded prec emin emax) = .ok shown) : |a.toRat| < 10 ^ prec := by
  have none : (0 : ℚ) < 10 ^ prec := by positivity
  cases a with
  | infinity | nan =>
      rw [toRat, abs_zero]
      exact none
  | finite neg coeff exp =>
      by_cases zero : coeff = 0
      · rw [zero, toRat, Nat.cast_zero, mul_zero, zero_mul, abs_zero]
        exact none
      · simp only [quantizeUnit, if_neg zero] at quantized
        generalize (if 0 ≤ exp then coeff * 10 ^ exp.toNat else divHalfUp coeff (10 ^ (-exp).toNat)) = kept at *
        split at quantized
        · cases quantized
        · rename_i fits
          have positive : 0 < |toRat (.finite neg coeff exp)| := by
            have : 0 < coeff := Nat.pos_of_ne_zero zero
            rw [toRat, abs_mul, abs_mul, abs_sign, one_mul, Nat.abs_cast, abs_of_pos (by positivity)]
            positivity
          have log := (Int.lt_zpow_iff_log_lt (b := 10) (x := prec) (by decide) positive).mpr (by
            rw [toRat, log_value zero]
            simp only [numDigits] at fits
            omega)
          exact_mod_cast log

end Operations

/-! ## Rounding twice -/

section Twice

variable {prec : ℕ} {least e m : ℤ} {x : ℚ}

/-- Half a unit below a whole number is an even number of small enough units. -/
theorem half_units (fine : e ≤ -2) (m : ℤ) : ∃ units : ℤ, units % 2 = 0 ∧ (m : ℚ) - 1 / 2 = units * 10 ^ e := by
  obtain ⟨k, rfl⟩ : ∃ k : ℕ, e = -(k + 2 : ℕ) := ⟨(-e - 2).toNat, by omega⟩
  refine ⟨2 * ((2 * m - 1) * (25 * 10 ^ k)), by omega, ?_⟩
  rw [zpow_neg, zpow_natCast, pow_add]
  push_cast
  field_simp
  ring

/-- Rounding to digits first takes half a unit of the last digit off the bound. -/
theorem le_halfUp_round_iff (some_digit : 0 < prec) (nonneg : 0 ≤ x) (last : Rounding.lastDigit 10 prec least x = e)
    (fine : e ≤ -2) :
    m ≤ Rounding.halfUp (Rounding.round 10 prec least x) ↔ (m : ℚ) - 1 / 2 - 10 ^ e / 2 ≤ x := by
  obtain ⟨units, even, half⟩ := half_units fine m
  have positive : (0 : ℚ) < 10 ^ e := by positivity
  have rounded : 0 ≤ Rounding.round 10 prec least x := by
    have mono : Rounding.round 10 prec least 0 ≤ Rounding.round 10 prec least x :=
      Rounding.round_mono (by decide) some_digit nonneg
    rwa [Rounding.round_zero] at mono
  rw [Rounding.le_halfUp_iff rounded, half, Rounding.round, last, Nat.cast_ofNat, mul_le_mul_iff_left₀ positive,
    Int.cast_le, Rounding.le_halfEven_iff even, le_div_iff₀ positive, sub_mul]
  ring_nf

/-- Rounding to digits and then half-up is rounding half-up, unless the number falls short
    of a half by no more than half a unit of its last digit. -/
theorem halfUp_round_eq_iff (some_digit : 0 < prec) (nonneg : 0 ≤ x)
    (last : Rounding.lastDigit 10 prec least x = e) (fine : e ≤ -2) :
    Rounding.halfUp (Rounding.round 10 prec least x) = Rounding.halfUp x ↔
      ¬ ∃ n : ℤ, (n : ℚ) + 1 / 2 - 10 ^ e / 2 ≤ x ∧ x < n + 1 / 2 := by
  have twice : ∀ m : ℤ, _ := fun m => le_halfUp_round_iff (m := m) some_digit nonneg last fine
  have once : ∀ m : ℤ, _ := fun m => Rounding.le_halfUp_iff (m := m) nonneg
  have positive : (0 : ℚ) < 10 ^ e := by positivity
  constructor
  · rintro same ⟨n, lower, upper⟩
    have reached : n + 1 ≤ Rounding.halfUp x := by
      rw [← same, twice]
      push_cast
      linarith
    have bound := (once (n + 1)).mp reached
    push_cast at bound
    linarith
  · intro clear
    apply le_antisymm
    · by_contra above
      apply clear
      refine ⟨Rounding.halfUp x, ?_, ?_⟩
      · have bound := (twice (Rounding.halfUp x + 1)).mp (by omega)
        push_cast at bound
        linarith
      · by_contra beyond
        have bound := (once (Rounding.halfUp x + 1)).mpr (by push_cast; linarith)
        omega
    · rw [twice]
      have bound := (once _).mp le_rfl
      linarith

end Twice

/-! ## Results that exist -/

section Existence

variable {prec : ℕ} {emin emax : ℤ} (range : emin < emax) {a b : Decimal}

/-- In digits before the point, the size of a number is that of its coefficient. -/
theorem digits_le {neg : Bool} {coeff : ℕ} {exp bound : ℤ} (nonzero : coeff ≠ 0)
    (small : |sign neg * coeff * (10 : ℚ) ^ exp| < 10 ^ bound) : numDigits coeff + exp ≤ bound := by
  have positive : 0 < |sign neg * coeff * (10 : ℚ) ^ exp| := by
    rw [abs_mul, abs_mul, abs_sign, one_mul, Nat.abs_cast, abs_of_pos (by positivity)]
    have : 0 < coeff := Nat.pos_of_ne_zero nonzero
    positivity
  have below := (Int.lt_zpow_iff_log_lt (b := 10) (by decide) positive).mp (by exact_mod_cast small)
  rw [log_value nonzero] at below
  simp only [numDigits]
  omega

include range

theorem fix_exists {neg : Bool} {coeff : ℕ} {exp : ℤ} (small : |sign neg * coeff * (10 : ℚ) ^ exp| < 10 ^ emax) :
    ∃ d, fix (.rounded prec emin emax) neg coeff exp = .ok d := by
  by_cases zero : coeff = 0
  · simp only [fix, zero, ↓reduceIte]
    exact ⟨_, rfl⟩
  · exact fix_ok range (digits_le zero small)

theorem mul_exists (fa : a.IsFinite) (fb : b.IsFinite) (small : |a.toRat * b.toRat| < 10 ^ emax) :
    ∃ d, a.mul (.rounded prec emin emax) b = .ok d := by
  obtain ⟨s, c, e, rfl⟩ := fa.parts
  obtain ⟨t, c', f, rfl⟩ := fb.parts
  apply fix_exists range
  rwa [← product_value]

theorem add_exists (fa : a.IsFinite) (fb : b.IsFinite) (small : |a.toRat + b.toRat| < 10 ^ emax) :
    ∃ d, a.add (.rounded prec emin emax) b = .ok d := by
  obtain ⟨s, c, e, rfl⟩ := fa.parts
  obtain ⟨t, c', f, rfl⟩ := fb.parts
  apply fix_exists range
  rwa [signed_value, Int.cast_add, add_mul, scaled_value _ _ (min_le_left e f),
    scaled_value _ _ (min_le_right e f)]

omit range in
theorem quantizeUnit_exists (positive : 0 < prec) (fa : a.IsFinite) (small : |a.toRat| + 1 / 2 < 10 ^ prec) :
    ∃ shown n, a.quantizeUnit (.rounded prec emin emax) = .ok shown ∧ shown.toInt? = some n := by
  obtain ⟨neg, coeff, exp, rfl⟩ := fa.parts
  by_cases zero : coeff = 0
  · simp only [quantizeUnit, zero, ↓reduceIte]
    exact ⟨_, _, rfl, rfl⟩
  · have digits : numDigits coeff + exp ≤ prec := by
      apply @digits_le neg _ _ _ zero
      rw [zpow_natCast]
      exact lt_of_le_of_lt (le_add_of_nonneg_right (by norm_num)) small
    have whole := quantized_cast coeff exp
    simp only [quantizeUnit, zero, ↓reduceIte]
    generalize (if 0 ≤ exp then coeff * 10 ^ exp.toNat else divHalfUp coeff (10 ^ (-exp).toNat)) = kept at *
    have fits : numDigits kept ≤ prec := by
      rw [numDigits_le_iff positive]
      have cast : ((kept : ℤ) : ℚ) ≤ (coeff : ℚ) * 10 ^ exp + 1 / 2 := by
        rw [whole]
        exact Int.floor_le _
      have size : |toRat (.finite neg coeff exp)| = (coeff : ℚ) * 10 ^ exp := by
        rw [toRat, abs_mul, abs_mul, abs_sign, one_mul, Nat.abs_cast, abs_of_pos (by positivity)]
      rw [size] at small
      have bound : ((kept : ℤ) : ℚ) < 10 ^ prec := cast.trans_lt small
      exact_mod_cast bound
    rw [if_neg (by omega)]
    exact ⟨_, _, rfl, rfl⟩

end Existence

end Decimal
