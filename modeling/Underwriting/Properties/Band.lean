import Underwriting.Failures
import Underwriting.Rating.Ceilings
import Underwriting.Rating.Seeds

/-! # The authority band of the commercial adjustment

A price is returned only for an occupancy with a factor and an adjustment inside
the band, any other request is a rating error, and the commercial amount stays
within the band of the technical one. A neutral adjustment is not compared with
the band, so a band without 1 is escaped by it.
-/

namespace Underwriting.Band

open Rating

variable {ctx : DecimalContext} {facts : RatingFacts} {table : RateTableSpec}

def HasFactor (facts : RatingFacts) (table : RateTableSpec) : Prop :=
  (table.occupancyFactors.lookup facts.occupancy).isSome

/-- The adjustment compares as neither below the minimum nor above the maximum. -/
def InBand (facts : RatingFacts) (table : RateTableSpec) : Prop :=
  facts.commercialAdjustment.lt table.commercialAdjustmentMin = .ok false ∧
    table.commercialAdjustmentMax.lt facts.commercialAdjustment = .ok false

/-- The adjustment compares as below the minimum or above the maximum. -/
def OutOfBand (facts : RatingFacts) (table : RateTableSpec) : Prop :=
  facts.commercialAdjustment.lt table.commercialAdjustmentMin = .ok true ∨
    facts.commercialAdjustment.lt table.commercialAdjustmentMin = .ok false ∧
      table.commercialAdjustmentMax.lt facts.commercialAdjustment = .ok true

/-- What a pricing does before it looks at the adjustment. -/
def beforeGuard (ctx : DecimalContext) (facts : RatingFacts) (table : RateTableSpec) (occupancyFactor : Decimal) :
    Except PyErr Trail := do
  let pure ← lossCost ctx facts table occupancyFactor
  let _ ← toMinor ctx pure.subtotal
  let technical ← technical ctx table pure
  let _ ← toMinor ctx technical.subtotal
  return technical

/-- Nothing raises before the adjustment is looked at. -/
def ReachesGuard (ctx : DecimalContext) (facts : RatingFacts) (table : RateTableSpec) : Prop :=
  ∃ occupancyFactor trail, table.occupancyFactors.lookup facts.occupancy = some occupancyFactor ∧
    beforeGuard ctx facts table occupancyFactor = .ok trail

/-- The commercial amount is between the technical amount times the minimum and times the maximum. -/
structure Between (ctx : DecimalContext) (table : RateTableSpec) (technical commercial : Decimal) : Prop where
  low : ∀ low, table.commercialAdjustmentMin.mul ctx technical = .ok low → commercial.lt low = .ok false
  high : ∀ high, table.commercialAdjustmentMax.mul ctx technical = .ok high → high.lt commercial = .ok false

/-- The band is an authority: nothing else is priced, all else is a rating error, and
    what is charged for a technical amount that is not negative stays within it. -/
structure Authorised (ctx : DecimalContext) (facts : RatingFacts) (table : RateTableSpec) : Prop where
  only : ∀ breakdown, rate ctx facts table = .ok breakdown → HasFactor facts table ∧ InBand facts table
  refused : ¬ (HasFactor facts table ∧ InBand facts table) →
    ∃ message, rate ctx facts table = .error (.rating message)
  bounded : ∀ breakdown (stages : Stages), rate ctx facts table = .ok breakdown →
    stages.Built ctx facts table breakdown → stages.technical.subtotal.lt .zero = .ok false →
    Between ctx table stages.technical.subtotal stages.commercial.subtotal

/-! ## Rating errors -/

/-- No rating error comes of this. -/
structure Plain {α : Type} (op : Except PyErr α) : Prop where
  never : ∀ message, op ≠ .error (.rating message)

theorem Plain.of_foreign {α : Type} {op : Except PyErr α} (foreign : Foreign op) : Plain op := by
  constructor
  intro message raised
  exact absurd (foreign.only _ raised) (by simp [PyErr.foreign])

theorem commercial_error {trail : Trail} {message : String}
    (failed : commercial ctx facts table trail = .error (.rating message)) :
    facts.commercialAdjustment.eq .one = .ok false ∧ OutOfBand facts table := by
  rcases bind_error failed with failed | ⟨neutral, one, failed⟩
  · exact absurd failed ((Plain.of_foreign (.signaled _)).never message)
  cases neutral with
  | true => cases failed
  | false =>
      refine ⟨signaled_ok one, ?_⟩
      rcases bind_error failed with failed | ⟨below, low, failed⟩
      · exact absurd failed ((Plain.of_foreign (.signaled _)).never message)
      cases below with
      | true => exact .inl (signaled_ok low)
      | false =>
          rcases bind_error failed with failed | ⟨above, high, failed⟩
          · exact absurd failed ((Plain.of_foreign (.signaled _)).never message)
          cases above with
          | true => exact .inr ⟨signaled_ok low, signaled_ok high⟩
          | false =>
              have plain : Plain (do
                  let subtotal ← signaled (trail.subtotal.mul ctx facts.commercialAdjustment)
                  let discount ← signaled (facts.commercialAdjustment.lt .one)
                  trail.append ctx "commercial_adjustment" (if discount then "discount" else "loading")
                    ("×" ++ facts.commercialAdjustment.str) subtotal "commercial") :=
                .of_foreign ((Foreign.signaled _).bind fun _ => (Foreign.signaled _).bind fun _ => .append ..)
              exact absurd failed (plain.never message)

theorem beforeGuard_ok {occupancyFactor : Decimal} {pure technical : Trail} {minor minor' : ℤ}
    (priced : lossCost ctx facts table occupancyFactor = .ok pure) (shown : toMinor ctx pure.subtotal = .ok minor)
    (priced' : Rating.technical ctx table pure = .ok technical)
    (shown' : toMinor ctx technical.subtotal = .ok minor') :
    beforeGuard ctx facts table occupancyFactor = .ok technical := by
  simp only [beforeGuard, priced, bind, Except.bind, shown, priced', shown']
  rfl

/-- A rating error for an occupancy that has a factor is the band's. -/
theorem rating_error (factor : HasFactor facts table) {message : String}
    (failed : rate ctx facts table = .error (.rating message)) :
    ReachesGuard ctx facts table ∧ facts.commercialAdjustment.eq .one = .ok false ∧ OutOfBand facts table := by
  simp only [rate] at failed
  split at failed
  · rename_i occupancyFactor found
    rcases bind_error failed with failed | ⟨pure, priced, failed⟩
    · exact absurd failed ((Plain.of_foreign (.lossCost _)).never message)
    rcases bind_error failed with failed | ⟨minor, shown, failed⟩
    · exact absurd failed ((Plain.of_foreign (.toMinor _)).never message)
    rcases bind_error failed with failed | ⟨technical, priced', failed⟩
    · exact absurd failed ((Plain.of_foreign (.technical _)).never message)
    rcases bind_error failed with failed | ⟨minor', shown', failed⟩
    · exact absurd failed ((Plain.of_foreign (.toMinor _)).never message)
    rcases bind_error failed with failed | ⟨commercial, -, failed⟩
    · exact ⟨⟨occupancyFactor, technical, found, beforeGuard_ok priced shown priced' shown'⟩, commercial_error failed⟩
    -- nothing after the guard is a rating error
    · rcases bind_error failed with failed | ⟨_, -, failed⟩
      · exact absurd failed ((Plain.of_foreign (.toMinor _)).never message)
      rcases bind_error failed with failed | ⟨charged, -, failed⟩
      · exact absurd failed ((Plain.of_foreign (.fee _)).never message)
      rcases bind_error failed with failed | ⟨final, -, failed⟩
      · exact absurd failed ((Plain.of_foreign (.ipt _ _)).never message)
      rcases bind_error failed with failed | ⟨_, -, failed⟩
      · exact absurd failed ((Plain.of_foreign (.toMinor _)).never message)
      cases failed
  · rename_i none
    obtain ⟨occupancyFactor, found⟩ := Option.isSome_iff_exists.mp factor
    exact (none occupancyFactor found).elim

theorem rate_unknown (unknown : ¬ HasFactor facts table) :
    ∃ message, rate ctx facts table = .error (.rating message) := by
  have none : table.occupancyFactors.lookup facts.occupancy = none :=
    Option.not_isSome_iff_eq_none.mp unknown
  simp only [rate, none]
  exact ⟨_, rfl⟩

theorem commercial_refused (differs : facts.commercialAdjustment.eq .one = .ok false) (outside : OutOfBand facts table)
    (trail : Trail) :
    commercial ctx facts table trail = .error (outOfBand facts.commercialAdjustment table) := by
  rcases outside with below | ⟨low, above⟩
  · simp only [commercial, differs, below]
    rfl
  · simp only [commercial, differs, low, above]
    rfl

theorem rate_refused (reaches : ReachesGuard ctx facts table)
    (differs : facts.commercialAdjustment.eq .one = .ok false) (outside : OutOfBand facts table) :
    rate ctx facts table = .error (outOfBand facts.commercialAdjustment table) := by
  obtain ⟨occupancyFactor, trail, found, priced⟩ := reaches
  obtain ⟨pure, priced, rest⟩ := bind_ok priced
  obtain ⟨minor, shown, rest⟩ := bind_ok rest
  obtain ⟨technical, priced', rest⟩ := bind_ok rest
  obtain ⟨minor', shown', -⟩ := bind_ok rest
  simp only [rate, found, priced, bind, Except.bind, shown, priced', shown', commercial_refused differs outside]

/-! ## The band of the amount -/

/-- The commercial amount is the technical one times the adjustment, rounded. -/
theorem commercial_value (keeps : ctx.Keeps) {trail next : Trail} (settled : trail.Settled ctx)
    (adjusted : commercial ctx facts table trail = .ok next) :
    facts.commercialAdjustment.IsFinite ∧ next.subtotal.IsFinite ∧
      next.amount = ctx.round (trail.amount * facts.commercialAdjustment.toRat) := by
  rcases commercial_amount keeps adjusted with ⟨one, rfl⟩ | ⟨-, -, finite, rounds⟩
  · obtain ⟨finite, value⟩ := Decimal.eq_one one
    rw [value, mul_one]
    exact ⟨finite, settled.finite, settled.rounded.symm⟩
  · exact ⟨finite, rounds.settled.finite, rounds.value⟩

section Bounds

variable {bound amount adjustment value product : Decimal} (finite : amount.IsFinite) (nonneg : 0 ≤ amount.toRat)
include finite nonneg

/-- An infinite bound times an amount is that bound, as far as the product exists. -/
theorem infinity_mul {neg : Bool} (multiplied : (Decimal.infinity neg).mul ctx amount = .ok product) :
    product = .infinity neg := by
  obtain ⟨s, c, e, rfl⟩ := finite.parts
  simp only [Decimal.mul, Decimal.withoutNan] at multiplied
  split at multiplied
  · cases multiplied
  · rename_i nonzero
    cases multiplied
    cases s with
    | false => simp
    | true =>
        have positive : 0 < (c : ℚ) * 10 ^ e := by
          have : 0 < c := Nat.pos_of_ne_zero nonzero
          positivity
        have value : 0 ≤ -1 * (c : ℚ) * 10 ^ e := nonneg
        linarith

variable (keeps : ctx.Keeps) (finite' : adjustment.IsFinite) (finite'' : value.IsFinite)
  (rounded : value.toRat = ctx.round (amount.toRat * adjustment.toRat))
include keeps finite' finite'' rounded

theorem low_le (above : adjustment.lt bound = .ok false) (multiplied : bound.mul ctx amount = .ok product) :
    value.lt product = .ok false := by
  by_cases number : bound.IsFinite
  · have rounds := Decimal.mul_rounds keeps number finite multiplied
    apply Decimal.lt_false finite'' rounds.settled.finite
    rw [rounds.value, rounded, mul_comm]
    apply DecimalContext.round_mono keeps
    exact mul_le_mul_of_nonneg_left (Decimal.le_of_lt_false finite' number above) nonneg
  · obtain ⟨s, c, e⟩ | _ | _ := adjustment
    · obtain _ | neg | _ := bound
      · exact (number trivial).elim
      · cases infinity_mul finite nonneg multiplied
        cases neg with
        | false => cases above
        | true =>
            obtain _ | _ | _ := value
            · rfl
            · exact finite''.elim
            · exact finite''.elim
      · cases above
    · exact finite'.elim
    · exact finite'.elim

theorem le_high (below : bound.lt adjustment = .ok false) (multiplied : bound.mul ctx amount = .ok product) :
    product.lt value = .ok false := by
  by_cases number : bound.IsFinite
  · have rounds := Decimal.mul_rounds keeps number finite multiplied
    apply Decimal.lt_false rounds.settled.finite finite''
    rw [rounds.value, rounded, mul_comm]
    apply DecimalContext.round_mono keeps
    exact mul_le_mul_of_nonneg_right (Decimal.le_of_lt_false number finite' below) nonneg
  · obtain ⟨s, c, e⟩ | _ | _ := adjustment
    · obtain _ | neg | _ := bound
      · exact (number trivial).elim
      · cases infinity_mul finite nonneg multiplied
        cases neg with
        | true => cases below
        | false =>
            obtain _ | _ | _ := value
            · rfl
            · exact finite''.elim
            · exact finite''.elim
      · cases below
    · exact finite'.elim
    · exact finite'.elim

end Bounds

theorem between (keeps : ctx.Keeps) (band : InBand facts table) {trail next : Trail} (settled : trail.Settled ctx)
    (adjusted : commercial ctx facts table trail = .ok next) (nonneg : trail.subtotal.lt .zero = .ok false) :
    Between ctx table trail.subtotal next.subtotal := by
  obtain ⟨finite, finite', rounded⟩ := commercial_value keeps settled adjusted
  have amount := Decimal.nonneg_of_lt_false nonneg settled.finite
  exact ⟨fun _ => low_le settled.finite amount keeps finite finite' rounded band.1,
    fun _ => le_high settled.finite amount keeps finite finite' rounded band.2⟩

/-- What is refused has no price to be in the band. -/
theorem authorised_of_refused {message : String} (failed : rate ctx facts table = .error (.rating message)) :
    Authorised ctx facts table where
  only _ priced := nomatch failed.symm.trans priced
  refused _ := ⟨message, failed⟩
  bounded _ _ priced := nomatch failed.symm.trans priced

/-- The band is an authority exactly if the adjustment is inside it, or is refused: for
    an occupancy without a factor, or because it is not neutral, compares as outside
    the band and nothing raises before it is compared. -/
theorem authorised_iff (keeps : ctx.Keeps) : Authorised ctx facts table ↔
    HasFactor facts table ∧ InBand facts table ∨ ¬ HasFactor facts table ∨
      facts.commercialAdjustment.eq .one = .ok false ∧ OutOfBand facts table ∧ ReachesGuard ctx facts table := by
  constructor
  · intro authorised
    by_cases factor : HasFactor facts table
    · by_cases band : InBand facts table
      · exact .inl ⟨factor, band⟩
      · obtain ⟨message, failed⟩ := authorised.refused fun both => band both.2
        obtain ⟨reaches, differs, outside⟩ := rating_error factor failed
        exact .inr (.inr ⟨differs, outside, reaches⟩)
    · exact .inr (.inl factor)
  · rintro (⟨factor, band⟩ | unknown | ⟨differs, outside, reaches⟩)
    · refine ⟨fun _ _ => ⟨factor, band⟩, fun outside => absurd ⟨factor, band⟩ outside, ?_⟩
      intro breakdown stages _ built nonneg
      exact between keeps band (technical_settled keeps built.technical (lossCost_settled keeps built.pure))
        built.commercial nonneg
    · obtain ⟨message, failed⟩ := rate_unknown unknown
      exact authorised_of_refused failed
    · exact authorised_of_refused (rate_refused reaches differs outside)

/-! ## Affordable tables -/

/-- Under an affordable table nothing raises before the adjustment is looked at. -/
theorem reachesGuard_affordable (affordable : Affordable table) (nonneg : 0 ≤ facts.tivEur) (range : facts.tivEur < 2 ^ 63)
    (factor : HasFactor facts table) : ReachesGuard .standard facts table := by
  obtain ⟨occupancyFactor, found⟩ := Option.isSome_iff_exists.mp factor
  have member := lookup_mem found
  obtain ⟨pure, technical, -, -⟩ := ceilings_limited affordable member
  obtain ⟨pureTrail, priced, capped⟩ := lossCost_capped affordable member nonneg range pure
  obtain ⟨technicalTrail, priced', capped'⟩ := technical_capped affordable capped technical
  obtain ⟨minor, shown, -⟩ := capped.atMost.shown pure
  obtain ⟨minor', shown', -⟩ := capped'.atMost.shown technical
  exact ⟨occupancyFactor, technicalTrail, found, beforeGuard_ok priced shown priced' shown'⟩

theorem inBand_iff (finite : facts.commercialAdjustment.IsFinite) (finite' : table.commercialAdjustmentMin.IsFinite)
    (finite'' : table.commercialAdjustmentMax.IsFinite) : InBand facts table ↔
      table.commercialAdjustmentMin.toRat ≤ facts.commercialAdjustment.toRat ∧
        facts.commercialAdjustment.toRat ≤ table.commercialAdjustmentMax.toRat := by
  simp [InBand, Decimal.lt_value finite finite', Decimal.lt_value finite'' finite]

theorem outOfBand_of_not (finite : facts.commercialAdjustment.IsFinite) (finite' : table.commercialAdjustmentMin.IsFinite)
    (finite'' : table.commercialAdjustmentMax.IsFinite) (outside : ¬InBand facts table) : OutOfBand facts table := by
  simp only [InBand, OutOfBand, Decimal.lt_value finite finite', Decimal.lt_value finite'' finite, Except.ok.injEq,
    decide_eq_false_iff_not, decide_eq_true_eq] at outside ⊢
  tauto

/-- Under an affordable table the band fails as an authority only where it excludes 1:
    there, for the adjustment 1. -/
theorem authorised_affordable_iff (affordable : Affordable table) (nonneg : 0 ≤ facts.tivEur) (range : facts.tivEur < 2 ^ 63)
    (finite : facts.commercialAdjustment.IsFinite) : Authorised .standard facts table ↔
      (HasFactor facts table → facts.commercialAdjustment.toRat = 1 →
        table.commercialAdjustmentMin.toRat ≤ 1 ∧ 1 ≤ table.commercialAdjustmentMax.toRat) := by
  have one := Decimal.eq_value finite Decimal.finite_one
  rw [Decimal.toRat_one] at one
  have band := inBand_iff finite affordable.minimum.1 affordable.maximum
  rw [authorised_iff DecimalContext.standard_keeps]
  constructor
  · rintro (⟨-, inside⟩ | unknown | ⟨differs, -, -⟩) factor neutral
    · rw [← neutral]
      exact band.mp inside
    · exact absurd factor unknown
    · rw [one, decide_eq_true neutral] at differs
      cases differs
  · intro neutral
    by_cases factor : HasFactor facts table
    · by_cases inside : InBand facts table
      · exact .inl ⟨factor, inside⟩
      · have differs : facts.commercialAdjustment.toRat ≠ 1 := by
          intro same
          refine inside (band.mpr ?_)
          rw [same]
          exact neutral factor same
        rw [decide_eq_false differs] at one
        have outside := outOfBand_of_not finite affordable.minimum.1 affordable.maximum inside
        exact .inr (.inr ⟨one, outside, reachesGuard_affordable affordable nonneg range factor⟩)
    · exact .inr (.inl factor)

/-- An office with the neutral adjustment, under a band of loadings only. -/
def neutralOffice : RatingFacts where
  tivEur := 100000
  occupancy := Occupancy.office.value
  flags := ∅

/-- The same with a loading of ten percent. -/
def loadedOffice : RatingFacts := { neutralOffice with commercialAdjustment := .finite false 110 (-2) }

theorem loaded_authorised : Authorised .standard loadedOffice (v2Spec 2) := by
  have factor : HasFactor loadedOffice (v2Spec 2) := rfl
  have low : loadedOffice.commercialAdjustment.lt (v2Spec 2).commercialAdjustmentMin = .ok false := by decide
  have high : (v2Spec 2).commercialAdjustmentMax.lt loadedOffice.commercialAdjustment = .ok false := by decide
  exact (authorised_iff DecimalContext.standard_keeps).mpr (.inl ⟨factor, low, high⟩)

def loadingsOnly : RateTableSpec := { v2Spec 2 with commercialAdjustmentMin := .finite false 105 (-2) }

/-- The neutral adjustment is below the minimum and still priced. -/
theorem neutral_escapes : ¬ Authorised .standard neutralOffice loadingsOnly := by
  intro authorised
  have shown : (rate .standard neutralOffice loadingsOnly).map (·.commercialPremiumMinor) = .ok 63 := by
    decide +kernel
  obtain ⟨breakdown, priced, -⟩ := map_ok shown
  obtain ⟨-, low, -⟩ := authorised.only breakdown priced
  exact absurd low (by decide)

end Underwriting.Band
