import Mathlib.Algebra.Order.Floor.Ring
import Mathlib.Data.Int.Log
import Mathlib.Tactic.Linarith
import Mathlib.Tactic.Positivity
import Mathlib.Tactic.Ring

/-! # Rounding to the nearest

Rounding in a linearly ordered field: to a nearest point of any set, to integers
with ties to even, to integers with ties away from zero, and to a number of
significant digits in some base. A nearest point of the larger number is never
below one of the smaller, whatever the ties do, so every such rounding that is a
function is monotone.
-/

namespace Rounding

section Nearest

variable {K : Type*} [Field K] [LinearOrder K] [IsStrictOrderedRing K] {F : Set K} {x x' y y' z : K}

/-- A point of the set which no other is nearer than. -/
structure Nearest (F : Set K) (x y : K) : Prop where
  mem : y ∈ F
  near : ∀ z ∈ F, |x - y| ≤ |x - z|

/-- A number nearer to the smaller of two points is below their middle. -/
theorem le_middle (near : |x - y| ≤ |x - z|) (below : y < z) : 2 * x ≤ y + z := by
  rcases abs_cases (x - y) with ⟨same, _⟩ | ⟨same, _⟩ <;>
    rcases abs_cases (x - z) with ⟨same', _⟩ | ⟨same', _⟩ <;> linarith

theorem middle_le (near : |x - y| ≤ |x - z|) (above : z < y) : y + z ≤ 2 * x := by
  rcases abs_cases (x - y) with ⟨same, _⟩ | ⟨same, _⟩ <;>
    rcases abs_cases (x - z) with ⟨same', _⟩ | ⟨same', _⟩ <;> linarith

namespace Nearest

theorem eq_of_mem (nearest : Nearest F x y) (member : x ∈ F) : y = x := by
  have distance := nearest.near x member
  rw [sub_self, abs_zero] at distance
  exact (sub_eq_zero.mp (abs_nonpos_iff.mp distance)).symm

theorem le_of_lt (nearest : Nearest F x y) (nearest' : Nearest F x' y') (below : x < x') : y ≤ y' := by
  by_contra crossed
  have above := middle_le (nearest.near y' nearest'.mem) (not_le.mp crossed)
  have under := le_middle (nearest'.near y nearest.mem) (not_le.mp crossed)
  linarith

end Nearest

theorem monotone_of_nearest {r : K → K} (nearest : ∀ x, Nearest F x (r x)) : Monotone r := by
  intro x x' below
  rcases below.lt_or_eq with less | rfl
  · exact (nearest x).le_of_lt (nearest x') less
  · exact le_refl _

end Nearest

variable {K : Type*} [Field K] [LinearOrder K] [IsStrictOrderedRing K] [FloorRing K] {x y : K} {m : ℤ}

/-! ## To integers -/

/-- The nearest integer, the even one of two. -/
def halfEven (x : K) : ℤ :=
  if 2 * Int.fract x < 1 ∨ 2 * Int.fract x = 1 ∧ ⌊x⌋ % 2 = 0 then ⌊x⌋ else ⌊x⌋ + 1

/-- The nearest integer, away from zero of two. -/
def halfUp (x : K) : ℤ := if 0 ≤ x then ⌊x + 1 / 2⌋ else -⌊-x + 1 / 2⌋

theorem halfEven_spec (x : K) :
    2 * |x - halfEven x| < 1 ∨ 2 * |x - halfEven x| = 1 ∧ halfEven x % 2 = 0 := by
  have whole : x = ⌊x⌋ + Int.fract x := (Int.floor_add_fract x).symm
  have nonneg := Int.fract_nonneg x
  have less := Int.fract_lt_one x
  simp only [halfEven]
  split
  · rename_i down
    have distance : |x - ⌊x⌋| = Int.fract x := by rw [Int.self_sub_floor, abs_of_nonneg nonneg]
    rwa [distance]
  · rename_i up
    rw [not_or, not_lt, not_and] at up
    obtain ⟨half, tie⟩ := up
    have distance : |x - ((⌊x⌋ + 1 : ℤ) : K)| = 1 - Int.fract x := by
      rw [abs_sub_comm, Int.cast_add, Int.cast_one, abs_of_nonneg] <;> linarith
    rw [distance]
    rcases half.lt_or_eq with beyond | same
    · exact .inl (by linarith)
    · exact .inr ⟨by linarith, by have := tie same.symm; omega⟩

/-- Half-even rounding is known by its distance, and by its parity at a tie. -/
theorem halfEven_eq_iff : halfEven x = m ↔ 2 * |x - m| < 1 ∨ 2 * |x - m| = 1 ∧ m % 2 = 0 := by
  constructor
  · rintro rfl
    exact halfEven_spec x
  · intro spec
    have spec' := halfEven_spec x
    by_contra differ
    have apart : (1 : K) ≤ |((halfEven x : ℤ) : K) - m| := by
      rw [← Int.cast_sub, ← Int.cast_abs]
      exact_mod_cast Int.one_le_abs (sub_ne_zero.mpr differ)
    have within : |((halfEven x : ℤ) : K) - m| ≤ |x - halfEven x| + |x - m| := by
      have split := abs_sub_le ((halfEven x : ℤ) : K) x m
      rwa [abs_sub_comm ((halfEven x : ℤ) : K) x] at split
    -- both are at distance one half, so both are even and one apart
    have tie : 2 * |x - m| = 1 ∧ m % 2 = 0 := spec.resolve_left fun less => by
      rcases spec' with less' | ⟨same, -⟩ <;> linarith
    have tie' : 2 * |x - halfEven x| = 1 ∧ halfEven x % 2 = 0 := spec'.resolve_left fun less => by
      linarith [tie.1]
    have step : |halfEven x - m| ≤ 1 := by
      have bound : |((halfEven x - m : ℤ) : K)| ≤ 1 := by
        rw [Int.cast_sub]
        linarith [tie.1, tie'.1]
      exact_mod_cast bound
    have bounds := abs_le.mp step
    have even := tie.2
    have even' := tie'.2
    omega

@[simp] theorem halfEven_intCast (m : ℤ) : halfEven (m : K) = m :=
  halfEven_eq_iff.mpr (.inl (by simp))

@[simp] theorem halfEven_neg (x : K) : halfEven (-x) = -halfEven x := by
  rw [halfEven_eq_iff]
  have spec := halfEven_spec x
  have same : |-x - ((-halfEven x : ℤ) : K)| = |x - halfEven x| := by
    rw [Int.cast_neg, ← abs_neg]
    congr 1
    ring
  rw [same]
  rcases spec with less | ⟨tie, even⟩
  · exact .inl less
  · exact .inr ⟨tie, by omega⟩

theorem two_mul_abs_sub_halfEven (x : K) : 2 * |x - halfEven x| ≤ 1 := by
  rcases halfEven_spec x with less | ⟨tie, -⟩
  · exact less.le
  · exact tie.le

/-- No integer is nearer. -/
theorem nearest_halfEven (x : K) : Nearest (Set.range ((↑) : ℤ → K)) x (halfEven x) := by
  refine ⟨⟨halfEven x, rfl⟩, ?_⟩
  rintro _ ⟨m, rfl⟩
  by_cases same : halfEven x = m
  · rw [same]
  · have apart : (1 : K) ≤ |((halfEven x : ℤ) : K) - m| := by
      rw [← Int.cast_sub, ← Int.cast_abs]
      exact_mod_cast Int.one_le_abs (sub_ne_zero.mpr same)
    have within := abs_sub_le ((halfEven x : ℤ) : K) x m
    rw [abs_sub_comm ((halfEven x : ℤ) : K) x] at within
    linarith [two_mul_abs_sub_halfEven x]

/-- A tie goes up to an even number. -/
theorem le_halfEven_iff (even : m % 2 = 0) : m ≤ halfEven x ↔ (m : K) - 1 / 2 ≤ x := by
  have bounds := abs_le.mp (show |x - halfEven x| ≤ 1 / 2 by linarith [two_mul_abs_sub_halfEven x])
  constructor
  · intro above
    have cast : (m : K) ≤ halfEven x := by exact_mod_cast above
    linarith
  · intro above
    by_contra below
    have step : halfEven x ≤ m - 1 := by omega
    have cast : ((halfEven x : ℤ) : K) ≤ m - 1 := by exact_mod_cast step
    have same : ((halfEven x : ℤ) : K) = m - 1 := by linarith
    have down : halfEven x = m - 1 := by exact_mod_cast same
    rcases halfEven_spec x with less | ⟨-, even'⟩
    · have distance : |x - halfEven x| = 1 / 2 := by
        rw [abs_of_nonneg] <;> linarith
      linarith
    · omega

theorem le_halfUp_iff (nonneg : 0 ≤ x) : m ≤ halfUp x ↔ (m : K) - 1 / 2 ≤ x := by
  rw [halfUp, if_pos nonneg, Int.le_floor]
  constructor <;> intro <;> linarith

theorem halfUp_mono {x y : K} (below : x ≤ y) : halfUp x ≤ halfUp y := by
  simp only [halfUp]
  split
  · rename_i nonneg
    rw [if_pos (nonneg.trans below)]
    exact Int.floor_mono (by linarith)
  · rename_i negative
    have lower : 0 ≤ ⌊-x + 1 / 2⌋ := Int.floor_nonneg.mpr (by linarith)
    split
    · rename_i nonneg
      exact (neg_nonpos.mpr lower).trans (Int.floor_nonneg.mpr (by linarith))
    · exact neg_le_neg (Int.floor_mono (by linarith))

theorem halfUp_nonneg (nonneg : 0 ≤ x) : 0 ≤ halfUp x := by
  rw [halfUp, if_pos nonneg, Int.floor_nonneg]
  linarith

/-- Rounding does not go beyond a whole number. -/
theorem halfUp_le {n : ℕ} (le : x ≤ n) (nonneg : 0 ≤ x) : halfUp x ≤ n := by
  by_contra above
  have next : (n : ℤ) + 1 ≤ halfUp x := by omega
  rw [le_halfUp_iff nonneg] at next
  push_cast at next
  linarith

theorem abs_halfUp_sub_le (x : K) : |(halfUp x : K) - x| ≤ 1 / 2 := by
  have near : ∀ y : K, |((⌊y + 1 / 2⌋ : ℤ) : K) - y| ≤ 1 / 2 := by
    intro y
    have lower := Int.floor_le (y + 1 / 2)
    have upper := Int.lt_floor_add_one (y + 1 / 2)
    rw [abs_le]
    constructor <;> linarith
  rw [halfUp]
  split
  · exact near x
  · have mirrored := near (-x)
    rw [abs_sub_comm] at mirrored
    push_cast
    convert mirrored using 2
    ring

/-- Whole numbers pass through, as long as nothing is negative. -/
theorem halfUp_add_int (nonneg : 0 ≤ x) {n : ℤ} (nonneg' : 0 ≤ n) : halfUp (x + n) = halfUp x + n := by
  have above : 0 ≤ x + n := add_nonneg nonneg (by exact_mod_cast nonneg')
  rw [halfUp, halfUp, if_pos nonneg, if_pos above, add_right_comm, Int.floor_add_intCast]

/-! ## To significant digits -/

section Digits

variable {base prec : ℕ} {least : ℤ}

/-- The logarithm is known by the powers around a number. -/
theorem log_eq {e : ℤ} (large : 1 < base) (lower : (base : K) ^ e ≤ x) (upper : x < (base : K) ^ (e + 1)) :
    Int.log base x = e := by
  have positive : 0 < x := lt_of_lt_of_le (zpow_pos (by exact_mod_cast (show 0 < base by omega)) e) lower
  have below := (Int.zpow_le_iff_le_log large positive).mp lower
  have above := (Int.lt_zpow_iff_log_lt large positive).mp upper
  omega

/-- The numbers of at most `prec` digits with a last digit no lower than `base ^ least`. -/
def Digits (K : Type*) [Field K] (base prec : ℕ) (least : ℤ) : Set K :=
  { x | ∃ m e : ℤ, |m| < (base : ℤ) ^ prec ∧ least ≤ e ∧ x = m * (base : K) ^ e }

/-- The exponent of the last digit that rounding keeps. -/
def lastDigit (base prec : ℕ) (least : ℤ) (x : K) : ℤ := max (Int.log base |x| + 1 - prec) least

/-- Round to `prec` digits, ties to even. -/
def round (base prec : ℕ) (least : ℤ) (x : K) : K :=
  halfEven (x / (base : K) ^ lastDigit base prec least x) * (base : K) ^ lastDigit base prec least x

@[simp] theorem round_zero : round base prec least (0 : K) = 0 := by
  rw [round, zero_div, show halfEven (0 : K) = 0 from mod_cast halfEven_intCast (K := K) 0, Int.cast_zero, zero_mul]

variable (large : 1 < base)
include large

theorem power_pos (e : ℤ) : 0 < (base : K) ^ e := zpow_pos (by exact_mod_cast (show 0 < base by omega)) e

/-- In units of the last digit a number has at most `prec` digits. -/
theorem abs_div_lt (x : K) : |x / (base : K) ^ lastDigit base prec least x| < (base : K) ^ prec := by
  have positive := power_pos (K := K) large (lastDigit base prec least x)
  rw [abs_div, abs_of_pos positive, div_lt_iff₀ positive, ← zpow_natCast, ← zpow_add₀ (by positivity)]
  refine (Int.lt_zpow_succ_log_self large |x|).trans_le (zpow_le_zpow_right₀ (by exact_mod_cast large.le) ?_)
  have kept := le_max_left (Int.log base |x| + 1 - prec) least
  simp only [lastDigit]
  omega

/-- Rounding leaves at most `prec` digits, or carries to the power of the base. -/
theorem abs_halfEven_le (x : K) :
    |halfEven (x / (base : K) ^ lastDigit base prec least x)| ≤ (base : ℤ) ^ prec := by
  set e := lastDigit base prec least x
  have size : |x / (base : K) ^ e| < (base : K) ^ prec := abs_div_lt large x
  have near := two_mul_abs_sub_halfEven (x / (base : K) ^ e)
  have split := abs_sub_le ((halfEven (x / (base : K) ^ e) : ℤ) : K) (x / (base : K) ^ e) 0
  rw [sub_zero, sub_zero, abs_sub_comm] at split
  have less : |((halfEven (x / (base : K) ^ e) : ℤ) : K)| < (base : K) ^ prec + 1 := by linarith
  have cast : |halfEven (x / (base : K) ^ e)| < (base : ℤ) ^ prec + 1 := by exact_mod_cast less
  omega

variable (some_digit : 0 < prec)
include some_digit

theorem round_mem (x : K) : round base prec least x ∈ Digits K base prec least := by
  set e := lastDigit base prec least x
  have lower : least ≤ e := le_max_right _ _
  rcases (abs_halfEven_le large x).lt_or_eq with fits | carried
  · exact ⟨_, e, fits, lower, rfl⟩
  · -- a carry into a new digit leaves a power of the base
    obtain ⟨p, rfl⟩ : ∃ p, prec = p + 1 := ⟨prec - 1, by omega⟩
    have small : (base : ℤ) ^ p < (base : ℤ) ^ (p + 1) :=
      pow_lt_pow_right₀ (by exact_mod_cast large) (by omega)
    have positive : (0 : ℤ) < (base : ℤ) ^ p := by positivity
    have shifted : (base : K) ^ (e + 1) = base * (base : K) ^ e := by
      rw [zpow_add_one₀ (by positivity), mul_comm]
    rcases abs_eq (by positivity) |>.mp carried with same | same
    · refine ⟨(base : ℤ) ^ p, e + 1, by rwa [abs_of_pos positive], by omega, ?_⟩
      rw [round, same, shifted]
      push_cast
      ring
    · refine ⟨-(base : ℤ) ^ p, e + 1, by rwa [abs_neg, abs_of_pos positive], by omega, ?_⟩
      rw [round, same, shifted]
      push_cast
      ring

omit some_digit in
/-- No multiple of the last digit's unit is nearer. -/
theorem abs_sub_round_le (x : K) (n : ℤ) :
    |x - round base prec least x| ≤ |x - n * (base : K) ^ lastDigit base prec least x| := by
  set e := lastDigit base prec least x
  have positive := power_pos (K := K) large e
  have near := (nearest_halfEven (x / (base : K) ^ e)).near n ⟨n, rfl⟩
  have scaled := mul_le_mul_of_nonneg_right near positive.le
  rw [← abs_of_pos positive, ← abs_mul, ← abs_mul, abs_of_pos positive, sub_mul, sub_mul,
    div_mul_cancel₀ _ positive.ne'] at scaled
  exact scaled

/-- Where the digits end above the least place, the first of them is not zero. -/
theorem power_le_abs {x : K} (nonzero : x ≠ 0) (coarse : least < lastDigit base prec least x) :
    (base : K) ^ (prec - 1) * (base : K) ^ lastDigit base prec least x ≤ |x| := by
  have place : lastDigit base prec least x = Int.log base |x| + 1 - prec := by
    rw [lastDigit] at coarse ⊢
    omega
  rw [← zpow_natCast, ← zpow_add₀ (by positivity), place,
    show ((prec - 1 : ℕ) : ℤ) + (Int.log base |x| + 1 - prec) = Int.log base |x| by omega]
  exact Int.zpow_log_le_self large (abs_pos.mpr nonzero)

/-- Numbers with a finer last digit are below the powers with these. -/
theorem abs_finer_le {m e f : ℤ} (fits : |m| < (base : ℤ) ^ prec) (finer : f < e) :
    |(m : K) * (base : K) ^ f| ≤ (base : K) ^ (prec - 1) * (base : K) ^ e := by
  have digits : |(m : K)| ≤ (base : K) ^ prec := by exact_mod_cast fits.le
  rw [abs_mul, abs_of_pos (power_pos (K := K) large f)]
  refine (mul_le_mul_of_nonneg_right digits (power_pos (K := K) large f).le).trans ?_
  rw [← zpow_natCast, ← zpow_natCast, ← zpow_add₀ (by positivity), ← zpow_add₀ (by positivity)]
  exact zpow_le_zpow_right₀ (by exact_mod_cast large.le) (by omega)

/-- Rounding to digits is rounding to a nearest such number. -/
theorem nearest_round (x : K) : Nearest (Digits K base prec least) x (round base prec least x) := by
  refine ⟨round_mem large some_digit x, ?_⟩
  rintro z ⟨m, f, fits, lower, rfl⟩
  have multiples : ∀ n : ℤ, |x - round base prec least x| ≤ |x - n * (base : K) ^ lastDigit base prec least x| :=
    abs_sub_round_le large x
  set e := lastDigit base prec least x with last
  by_cases coarse : e ≤ f
  · have split : (base : K) ^ f = ((base : ℤ) ^ (f - e).toNat : ℤ) * (base : K) ^ e := by
      rw [Int.cast_pow, Int.cast_natCast, ← zpow_natCast, ← zpow_add₀ (by positivity)]
      congr 1
      omega
    rw [split, ← mul_assoc, ← Int.cast_mul]
    exact multiples _
  · -- finer numbers are all below a power of the base that is such a multiple
    by_cases zero : x = 0
    · have rounded := multiples 0
      simp only [zero, Int.cast_zero, zero_mul, sub_zero, abs_zero] at rounded ⊢
      exact rounded.trans (abs_nonneg _)
    · have power : (base : K) ^ (prec - 1) * (base : K) ^ e ≤ |x| := power_le_abs large some_digit zero (by omega)
      have under : |(m : K) * (base : K) ^ f| ≤ (base : K) ^ (prec - 1) * (base : K) ^ e :=
        abs_finer_le large some_digit fits (by omega)
      have apart := abs_sub_abs_le_abs_sub x ((m : K) * (base : K) ^ f)
      rcases le_total 0 x with nonneg | nonpos
      · have rounded := multiples ((base : ℤ) ^ (prec - 1))
        rw [abs_of_nonneg nonneg] at power apart
        push_cast at rounded
        rw [abs_of_nonneg (sub_nonneg.mpr power)] at rounded
        linarith
      · have rounded := multiples (-(base : ℤ) ^ (prec - 1))
        rw [abs_of_nonpos nonpos] at power apart
        push_cast at rounded
        have distance : |x + (base : K) ^ (prec - 1) * (base : K) ^ e| =
            -(x + (base : K) ^ (prec - 1) * (base : K) ^ e) :=
          abs_of_nonpos (by linarith)
        rw [neg_mul, sub_neg_eq_add, distance] at rounded
        linarith

theorem round_mono : Monotone (round base prec least : K → K) :=
  monotone_of_nearest fun x => nearest_round large some_digit x

theorem round_eq_self {x : K} (representable : x ∈ Digits K base prec least) : round base prec least x = x :=
  (nearest_round large some_digit x).eq_of_mem representable

theorem round_round (x : K) : round base prec least (round base prec least x) = round base prec least x :=
  round_eq_self large some_digit (round_mem large some_digit x)

/-- Rounding at most doubles a number, for zero is no further from it. -/
theorem abs_round_le (x : K) : |round base prec least x| ≤ 2 * |x| := by
  have zero : (0 : K) ∈ Digits K base prec least := ⟨0, least, by simp; positivity, le_refl _, by simp⟩
  have near := (nearest_round large some_digit x).near 0 zero
  have split := abs_sub_abs_le_abs_sub (round base prec least x) x
  rw [sub_zero] at near
  rw [abs_sub_comm] at split
  linarith

omit some_digit in
/-- A number of few digits that is not small has no small last digit. -/
theorem Digits.coarse {low : ℤ} (member : x ∈ Digits K base prec least) (above : (base : K) ^ low ≤ |x|) :
    ∃ k : ℤ, x = k * (base : K) ^ (low - prec) := by
  obtain ⟨m, e, fits, -, rfl⟩ := member
  have grow : (1 : K) < base := by exact_mod_cast large
  have lower : low - prec ≤ e := by
    by_contra fine
    have digits : |(m : K)| < (base : K) ^ (prec : ℤ) := by exact_mod_cast fits
    rw [abs_mul, abs_of_pos (power_pos (K := K) large e)] at above
    have size : |(m : K)| * (base : K) ^ e < (base : K) ^ ((prec : ℤ) + e) := by
      rw [zpow_add₀ (by positivity)]
      exact mul_lt_mul_of_pos_right digits (power_pos large e)
    have power := (zpow_lt_zpow_iff_right₀ grow).mp (above.trans_lt size)
    omega
  refine ⟨m * (base : ℤ) ^ (e - (low - prec)).toNat, ?_⟩
  rw [Int.cast_mul, Int.cast_pow, Int.cast_natCast, ← zpow_natCast, mul_assoc, ← zpow_add₀ (by positivity),
    Int.toNat_of_nonneg (by omega), sub_add_cancel]

omit large some_digit in
theorem halfUp_small (small : |x| < 1 / 2) : halfUp x = 0 := by
  rw [abs_lt] at small
  rw [halfUp]
  split
  · exact Int.floor_eq_zero_iff.mpr ⟨by linarith, by linarith⟩
  · rw [neg_eq_zero]
    exact Int.floor_eq_zero_iff.mpr ⟨by linarith, by linarith⟩

/-- What is added below every digit that can matter is lost. -/
theorem halfUp_round_add {t : K} (member : x ∈ Digits K base prec least)
    (tiny : 2 * |t| < (base : K) ^ (-3 - (prec : ℤ))) : halfUp (round base prec least (x + t)) = halfUp x := by
  have near := (nearest_round large some_digit (x + t)).near x member
  rw [add_sub_cancel_left, abs_sub_comm] at near
  set y := round base prec least (x + t) with rounded
  have member' : y ∈ Digits K base prec least := round_mem large some_digit (x + t)
  have close : |y - x| ≤ 2 * |t| := by
    have split := abs_sub_le y (x + t) x
    rw [add_sub_cancel_left] at split
    linarith
  have eighth : (base : K) ^ (-3 : ℤ) ≤ 1 / 8 := by
    have two : (2 : K) ≤ base := by exact_mod_cast large
    have cube : (2 : K) ^ 3 ≤ (base : K) ^ 3 := pow_le_pow_left₀ (by norm_num) two 3
    rw [zpow_neg, show (3 : ℤ) = (3 : ℕ) from rfl, zpow_natCast, one_div]
    exact inv_anti₀ (by norm_num) (by linarith)
  have below : (base : K) ^ (-3 - (prec : ℤ)) ≤ (base : K) ^ (-3 : ℤ) :=
    zpow_le_zpow_right₀ (by exact_mod_cast large.le) (by omega)
  have apart := abs_sub_abs_le_abs_sub y x
  have apart' := abs_sub_abs_le_abs_sub x y
  rw [abs_sub_comm x y] at apart'
  by_cases small : |x| < 1 / 4
  · rw [halfUp_small (by linarith), halfUp_small (by linarith)]
  · have above : 1 / 4 ≤ |x| := not_lt.mp small
    obtain ⟨k, same⟩ := Digits.coarse large member (eighth.trans (by linarith))
    obtain ⟨k', same'⟩ := Digits.coarse large member' (eighth.trans (by linarith))
    have unit := power_pos (K := K) large (-3 - (prec : ℤ))
    have units : |((k' - k : ℤ) : K)| < 1 := by
      rw [same, same', ← sub_mul, abs_mul, abs_of_pos unit] at close
      push_cast
      exact lt_of_mul_lt_mul_right (by linarith) unit.le
    have equal : k' - k = 0 := Int.abs_lt_one_iff.mp (by exact_mod_cast units)
    rw [same, same', show k' = k by omega]

end Digits

end Rounding
