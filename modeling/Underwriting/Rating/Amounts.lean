import Underwriting.Lib.DecimalValue
import Underwriting.Rating.Stages

/-! # The amounts behind a trail

What the steps of a pricing do to the subtotal as a number: each multiplies or
adds finite numbers and rounds the exact result to the context. A subtotal that
was shown is finite, and so is everything it was made from.
-/

namespace Underwriting.Rating

open Decimal

variable {ctx : DecimalContext} {facts : RatingFacts} {table : RateTableSpec} {flags : Finset String}
  {trail next : Trail} {stage : String}

/-- The subtotal as a number. -/
def Trail.amount (trail : Trail) : ℚ := trail.subtotal.toRat

/-- The subtotal is a number of the context. -/
def Trail.Settled (ctx : DecimalContext) (trail : Trail) : Prop := trail.subtotal.Settled ctx

theorem toMinor_value {amount : Decimal} {minor : ℤ} (shown : toMinor ctx amount = .ok minor) :
    amount.IsFinite ∧ minor = Rounding.halfUp amount.toRat := by
  obtain ⟨whole, quantized, shown⟩ := bind_ok shown
  split at shown
  · rename_i n whole'
    cases shown
    exact quantizeUnit_value (signaled_ok quantized) whole'
  · cases shown

theorem toMinor_mono {amount amount' : Decimal} {minor minor' : ℤ} (shown : toMinor ctx amount = .ok minor)
    (shown' : toMinor ctx amount' = .ok minor') (le : amount.toRat ≤ amount'.toRat) : minor ≤ minor' := by
  rw [(toMinor_value shown).2, (toMinor_value shown').2]
  exact Rounding.halfUp_mono le

theorem Appended.finite (appended : Appended ctx stage trail next) : next.subtotal.IsFinite := by
  obtain ⟨_, -, -, shown⟩ := appended
  exact (toMinor_value shown).1

section Steps

variable (keeps : ctx.Keeps)
include keeps

theorem adjust_amount {adj : Adjustment} (adjusted : adjust ctx flags trail adj = .ok next) :
    applies flags adj.appliesWhen = .ok false ∧ next = trail ∨
    applies flags adj.appliesWhen = .ok true ∧ adj.factor.IsFinite ∧
      Rounds ctx (trail.amount * adj.factor.toRat) next.subtotal := by
  rcases adjust_ok adjusted with same | ⟨gate, product, appended⟩
  · exact .inl same
  · obtain ⟨-, finite, rounds⟩ := mul_spec keeps product appended.finite
    exact .inr ⟨gate, finite, rounds⟩

theorem load_amount {name : String} {pct : Decimal} (loaded : load ctx trail (name, pct) = .ok next) :
    Decimal.zero.lt pct = .ok false ∧ next = trail ∨
    Decimal.zero.lt pct = .ok true ∧ 0 < pct.toRat ∧
      Rounds ctx (trail.amount * ctx.round (1 + pct.toRat)) next.subtotal := by
  rcases load_ok loaded with same | ⟨factor, positive, sum, product, appended⟩
  · exact .inl same
  · obtain ⟨-, finite, rounds⟩ := mul_spec keeps product appended.finite
    obtain ⟨-, finite', rounds'⟩ := add_spec keeps sum finite
    rw [rounds'.value, toRat_one] at rounds
    have above := positive.symm.trans (lt_value trivial finite')
    rw [Except.ok.injEq, eq_comm, decide_eq_true_iff, toRat_zero] at above
    exact .inr ⟨positive, above, rounds⟩

theorem commercial_amount (adjusted : commercial ctx facts table trail = .ok next) :
    facts.commercialAdjustment.eq .one = .ok true ∧ next = trail ∨
    facts.commercialAdjustment.lt table.commercialAdjustmentMin = .ok false ∧
      table.commercialAdjustmentMax.lt facts.commercialAdjustment = .ok false ∧
      facts.commercialAdjustment.IsFinite ∧
      Rounds ctx (trail.amount * facts.commercialAdjustment.toRat) next.subtotal := by
  rcases commercial_ok adjusted with same | ⟨-, low, high, product, appended⟩
  · exact .inl same
  · obtain ⟨-, finite, rounds⟩ := mul_spec keeps product appended.finite
    exact .inr ⟨low, high, finite, rounds⟩

theorem fee_amount (charged : fee ctx table trail = .ok next) :
    table.fixedFeesMinor ≤ 0 ∧ next = trail ∨
    0 < table.fixedFeesMinor ∧ Rounds ctx (trail.amount + table.fixedFeesMinor) next.subtotal := by
  rcases fee_ok charged with same | ⟨positive, sum, appended⟩
  · exact .inl same
  · obtain ⟨-, -, rounds⟩ := add_spec keeps sum appended.finite
    rw [toRat_ofInt] at rounds
    exact .inr ⟨positive, rounds⟩

theorem ipt_amount {precise : Decimal} (taxed : ipt ctx table precise trail = .ok next) :
    Decimal.zero.lt table.iptRate = .ok false ∧ next = trail ∨
    Decimal.zero.lt table.iptRate = .ok true ∧ 0 < table.iptRate.toRat ∧
      Rounds ctx (trail.amount + ctx.round (precise.toRat * table.iptRate.toRat)) next.subtotal := by
  rcases ipt_ok taxed with same | ⟨tax, positive, product, sum, appended⟩
  · exact .inl same
  · obtain ⟨-, finite, rounds⟩ := add_spec keeps sum appended.finite
    obtain ⟨-, finite', rounds'⟩ := mul_spec keeps product finite
    rw [rounds'.value] at rounds
    have above := positive.symm.trans (lt_value trivial finite')
    rw [Except.ok.injEq, eq_comm, decide_eq_true_iff, toRat_zero] at above
    exact .inr ⟨positive, above, rounds⟩

/-- The pure premium before its adjustments. -/
theorem lossCost_amount {occupancyFactor : Decimal} (priced : lossCost ctx facts table occupancyFactor = .ok next) :
    ∃ permille base factored, table.baseRatePermille.div ctx (.ofInt 1000) = .ok permille ∧ permille.IsFinite ∧
      occupancyFactor.IsFinite ∧ Rounds ctx (permille.toRat * facts.tivEur) base ∧
      Rounds ctx (base.toRat * occupancyFactor.toRat) factored.subtotal ∧
      table.adjustments.foldlM (adjust ctx facts.flags) factored = .ok next := by
  obtain ⟨permille, base, factored, quotient, product, -, product', appended, adjusted⟩ := lossCost_ok priced
  obtain ⟨finite, finite', rounds'⟩ := mul_spec keeps product' appended.finite
  obtain ⟨finite'', -, rounds⟩ := mul_spec keeps product finite
  rw [toRat_ofInt] at rounds
  exact ⟨permille, base.subtotal, factored, quotient, finite'', finite', rounds, rounds', adjusted⟩

/-! ## Settled subtotals -/

theorem adjust_settled {adj : Adjustment} (adjusted : adjust ctx flags trail adj = .ok next)
    (settled : trail.Settled ctx) : next.Settled ctx := by
  rcases adjust_amount keeps adjusted with ⟨-, rfl⟩ | ⟨-, -, rounds⟩
  · exact settled
  · exact rounds.settled

theorem load_settled {loading : String × Decimal} (loaded : load ctx trail loading = .ok next)
    (settled : trail.Settled ctx) : next.Settled ctx := by
  rcases load_amount keeps loaded with ⟨-, rfl⟩ | ⟨-, -, rounds⟩
  · exact settled
  · exact rounds.settled

theorem lossCost_settled {occupancyFactor : Decimal} (priced : lossCost ctx facts table occupancyFactor = .ok next) :
    next.Settled ctx := by
  obtain ⟨_, _, factored, -, -, -, -, rounds, adjusted⟩ := lossCost_amount keeps priced
  have kept : factored.Settled ctx → next.Settled ctx :=
    foldlM_ok (R := fun before after => before.Settled ctx → after.Settled ctx) (fun _ => id)
      (fun first second settled => second (first settled)) (fun _ _ => adjust_settled keeps) adjusted
  exact kept rounds.settled

theorem technical_settled (priced : technical ctx table trail = .ok next) (settled : trail.Settled ctx) :
    next.Settled ctx :=
  foldlM_ok (R := fun before after => before.Settled ctx → after.Settled ctx) (fun _ => id)
    (fun first second settled => second (first settled)) (fun _ _ => load_settled keeps) priced settled

/-- Neither the fee nor the tax lowers the subtotal. -/
theorem charges_raise {charged : Trail} (settled : trail.Settled ctx) (nonneg : 0 ≤ trail.amount)
    (fees : fee ctx table trail = .ok charged) (taxed : ipt ctx table trail.subtotal charged = .ok next) :
    trail.amount ≤ next.amount := by
  have first : trail.amount ≤ charged.amount ∧ charged.Settled ctx := by
    rcases fee_amount keeps fees with ⟨-, rfl⟩ | ⟨positive, rounds⟩
    · exact ⟨le_refl _, settled⟩
    · have positive' : (0 : ℚ) < table.fixedFeesMinor := by exact_mod_cast positive
      exact ⟨Rounds.le_of_settled keeps settled (le_add_of_nonneg_right positive'.le) rounds, rounds.settled⟩
  rcases ipt_amount keeps taxed with ⟨-, rfl⟩ | ⟨-, positive, rounds⟩
  · exact first.1
  · have tax := DecimalContext.round_nonneg keeps (mul_nonneg nonneg positive.le)
    exact first.1.trans (Rounds.le_of_settled keeps first.2 (le_add_of_nonneg_right tax) rounds)

end Steps

end Underwriting.Rating
