import Underwriting.Rating.Amounts
import Underwriting.Rating.Seeds
import Underwriting.Rating.Service

/-! # The price never falls when the insured value rises

Two pricings of the same risk against the same table, the second with a higher
insured value. Stage by stage the second subtotal is at least the first: every
step multiplies by a factor that is not negative or adds an amount that is no
smaller, rounding is monotone, and the one step that only the second may take is
a loading on an amount that is not negative.
-/

namespace Underwriting.Monotone

open Rating RatingService
open Decimal (Rounds le_of_lt_false nonneg_of_lt_false)

/-- No factor is negative, and what is gated by a high value is a loading. -/
structure Rising (table : RateTableSpec) : Prop where
  base : table.baseRatePermille.lt .zero = .ok false
  occupancies : ∀ entry ∈ table.occupancyFactors, entry.2.lt .zero = .ok false
  adjustments : ∀ adj ∈ table.adjustments, adj.factor.lt .zero = .ok false
  loadings : ∀ adj ∈ table.adjustments, adj.appliesWhen = .str "high_tiv" → adj.factor.lt .one = .ok false

section Pricings

variable {ctx : DecimalContext} {loaded : Prop} {trail next trail' next' : Trail}

/-- The second subtotal is at least the first, and not negative where the second may
    be loaded alone. -/
structure Below (ctx : DecimalContext) (loaded : Prop) (trail trail' : Trail) : Prop where
  settled : trail'.Settled ctx
  le : trail.amount ≤ trail'.amount
  nonneg : loaded → 0 ≤ trail'.amount

namespace Below

variable (keeps : ctx.Keeps) (below : Below ctx loaded trail trail')
include keeps below

theorem mul {factor : ℚ} (nonneg : 0 ≤ factor) (rounds : Rounds ctx (trail.amount * factor) next.subtotal)
    (rounds' : Rounds ctx (trail'.amount * factor) next'.subtotal) : Below ctx loaded next next' where
  settled := rounds'.settled
  le := by
    rw [Trail.amount, Trail.amount, rounds.value, rounds'.value]
    exact DecimalContext.round_mono keeps (mul_le_mul_of_nonneg_right below.le nonneg)
  nonneg high := by
    rw [Trail.amount, rounds'.value]
    exact DecimalContext.round_nonneg keeps (mul_nonneg (below.nonneg high) nonneg)

/-- A loading of the second only: its amount was a number of the context before. -/
theorem mul_second {factor : ℚ} (high : loaded) (loading : 1 ≤ factor)
    (rounds' : Rounds ctx (trail'.amount * factor) next'.subtotal) : Below ctx loaded trail next' := by
  have raised : trail'.amount ≤ trail'.amount * factor := le_mul_of_one_le_right (below.nonneg high) loading
  have rounded : trail'.amount ≤ next'.amount := by
    rw [Trail.amount, ← below.settled.rounded, Trail.amount, rounds'.value]
    exact DecimalContext.round_mono keeps raised
  exact ⟨rounds'.settled, below.le.trans rounded, fun high => (below.nonneg high).trans rounded⟩

theorem add {amount amount' : ℚ} (le : amount ≤ amount') (nonneg : loaded → 0 ≤ amount')
    (rounds : Rounds ctx (trail.amount + amount) next.subtotal)
    (rounds' : Rounds ctx (trail'.amount + amount') next'.subtotal) : Below ctx loaded next next' where
  settled := rounds'.settled
  le := by
    rw [Trail.amount, Trail.amount, rounds.value, rounds'.value]
    exact DecimalContext.round_mono keeps (add_le_add below.le le)
  nonneg high := by
    rw [Trail.amount, rounds'.value]
    exact DecimalContext.round_nonneg keeps (add_nonneg (below.nonneg high) (nonneg high))

end Below

/-! ## Stages -/

/-- The flags of the second pricing are those of the first, and perhaps a high value. -/
structure Raises (loaded : Prop) (flags flags' : Finset String) : Prop where
  kept : flags ⊆ flags'
  high : ∀ flag ∈ flags', flag ∉ flags → flag = "high_tiv" ∧ loaded

theorem applies_iff {flags : Finset String} {gate : Json} :
    applies flags gate = .ok true ↔ gate = .null ∨ ∃ flag ∈ flags, gate = .str flag := by
  cases gate with
  | null => simp [applies]
  | str flag => simp [applies]
  | _ => simp [applies, Json.hashable]

variable {flags flags' : Finset String} {table : RateTableSpec} {facts facts' : RatingFacts}

theorem adjust_below (keeps : ctx.Keeps) (raises : Raises loaded flags flags') {adj : Adjustment}
    (nonneg : adj.factor.lt .zero = .ok false)
    (loading : adj.appliesWhen = .str "high_tiv" → adj.factor.lt .one = .ok false)
    (below : Below ctx loaded trail trail') (adjusted : adjust ctx flags trail adj = .ok next)
    (adjusted' : adjust ctx flags' trail' adj = .ok next') : Below ctx loaded next next' := by
  rcases adjust_amount keeps adjusted with ⟨gate, rfl⟩ | ⟨gate, finite, rounds⟩
  · rcases adjust_amount keeps adjusted' with ⟨-, rfl⟩ | ⟨gate', finite, rounds'⟩
    · exact below
    · -- only the second is adjusted, so the gate is the one flag it may have alone
      rcases applies_iff.mp gate' with ungated | ⟨flag, member, named⟩
      · rw [ungated] at gate
        cases gate
      · have absent : flag ∉ flags := by
          intro member
          rw [applies_iff.mpr (.inr ⟨flag, member, named⟩)] at gate
          cases gate
        obtain ⟨rfl, high⟩ := raises.high flag member absent
        have factor := le_of_lt_false finite Decimal.finite_one (loading named)
        rw [Decimal.toRat_one] at factor
        exact below.mul_second keeps high factor rounds'
  · rcases adjust_amount keeps adjusted' with ⟨gate', -⟩ | ⟨-, -, rounds'⟩
    · rcases applies_iff.mp gate with ungated | ⟨flag, member, named⟩
      · rw [ungated] at gate'
        cases gate'
      · rw [applies_iff.mpr (.inr ⟨flag, raises.kept member, named⟩)] at gate'
        cases gate'
    · exact below.mul keeps (nonneg_of_lt_false nonneg finite) rounds rounds'

theorem load_below (keeps : ctx.Keeps) {loading : String × Decimal} (below : Below ctx loaded trail trail')
    (added : load ctx trail loading = .ok next) (added' : load ctx trail' loading = .ok next') :
    Below ctx loaded next next' := by
  rcases load_amount keeps added with ⟨none, rfl⟩ | ⟨some, positive, rounds⟩
  · rcases load_amount keeps added' with ⟨-, rfl⟩ | ⟨some, -, -⟩
    · exact below
    · cases none.symm.trans some
  · rcases load_amount keeps added' with ⟨none, -⟩ | ⟨-, -, rounds'⟩
    · cases none.symm.trans some
    · exact below.mul keeps (DecimalContext.round_nonneg keeps (by linarith)) rounds rounds'

theorem technical_below (keeps : ctx.Keeps) (below : Below ctx loaded trail trail')
    (priced : technical ctx table trail = .ok next) (priced' : technical ctx table trail' = .ok next') :
    Below ctx loaded next next' :=
  foldlM_ok₂ (f := load ctx) (g := load ctx) (fun _ _ => load_below keeps) below priced priced'

theorem commercial_below (neutral : facts.commercialAdjustment.eq .one = .ok true)
    (neutral' : facts'.commercialAdjustment.eq .one = .ok true) (below : Below ctx loaded trail trail')
    (adjusted : commercial ctx facts table trail = .ok next)
    (adjusted' : commercial ctx facts' table trail' = .ok next') : Below ctx loaded next next' := by
  obtain rfl := Except.ok.inj ((commercial_neutral neutral).symm.trans adjusted)
  obtain rfl := Except.ok.inj ((commercial_neutral neutral').symm.trans adjusted')
  exact below

theorem fee_below (keeps : ctx.Keeps) (below : Below ctx loaded trail trail')
    (charged : fee ctx table trail = .ok next) (charged' : fee ctx table trail' = .ok next') :
    Below ctx loaded next next' := by
  rcases fee_amount keeps charged with ⟨none, rfl⟩ | ⟨some, rounds⟩
  · rcases fee_amount keeps charged' with ⟨-, rfl⟩ | ⟨some, -⟩
    · exact below
    · omega
  · rcases fee_amount keeps charged' with ⟨none, -⟩ | ⟨-, rounds'⟩
    · omega
    · exact below.add keeps le_rfl (fun _ => by exact_mod_cast some.le) rounds rounds'

/-- The tax is on the commercial amounts, which are as far apart as the fees leave them. -/
theorem ipt_below (keeps : ctx.Keeps) {precise precise' : Trail} (commercial : Below ctx loaded precise precise')
    (below : Below ctx loaded trail trail') (taxed : ipt ctx table precise.subtotal trail = .ok next)
    (taxed' : ipt ctx table precise'.subtotal trail' = .ok next') : Below ctx loaded next next' := by
  rcases ipt_amount keeps taxed with ⟨none, rfl⟩ | ⟨some, positive, rounds⟩
  · rcases ipt_amount keeps taxed' with ⟨-, rfl⟩ | ⟨some, -, -⟩
    · exact below
    · cases none.symm.trans some
  · rcases ipt_amount keeps taxed' with ⟨none, -⟩ | ⟨-, -, rounds'⟩
    · cases none.symm.trans some
    · refine below.add keeps ?_ (fun high => ?_) rounds rounds'
      · exact DecimalContext.round_mono keeps (mul_le_mul_of_nonneg_right commercial.le positive.le)
      · exact DecimalContext.round_nonneg keeps (mul_nonneg (commercial.nonneg high) positive.le)

theorem lossCost_below (keeps : ctx.Keeps) (rising : Rising table) (raises : Raises loaded facts.flags facts'.flags)
    (tiv : facts.tivEur ≤ facts'.tivEur) (positive : loaded → 0 ≤ facts'.tivEur) {factor : Decimal}
    (nonneg : factor.lt .zero = .ok false)
    (priced : lossCost ctx facts table factor = .ok next) (priced' : lossCost ctx facts' table factor = .ok next') :
    Below ctx loaded next next' := by
  obtain ⟨permille, base, factored, quotient, finite, finiteFactor, rounds, rounds₁, adjusted⟩ :=
    lossCost_amount keeps priced
  obtain ⟨permille', base', factored', quotient', -, -, rounds', rounds₁', adjusted'⟩ := lossCost_amount keeps priced'
  obtain rfl : permille = permille' := Except.ok.inj (quotient.symm.trans quotient')
  have rate : 0 ≤ permille.toRat := Decimal.div_nonneg keeps quotient finite fun finite =>
    nonneg_of_lt_false rising.base finite
  have start : Below ctx loaded ⟨base, []⟩ ⟨base', []⟩ := by
    refine ⟨rounds'.settled, ?_, fun high => ?_⟩
    · rw [Trail.amount, Trail.amount, rounds.value, rounds'.value]
      exact DecimalContext.round_mono keeps (mul_le_mul_of_nonneg_left (by exact_mod_cast tiv) rate)
    · rw [Trail.amount, rounds'.value]
      exact DecimalContext.round_nonneg keeps (mul_nonneg rate (by exact_mod_cast positive high))
  have occupied := start.mul keeps (nonneg_of_lt_false nonneg finiteFactor) rounds₁ rounds₁'
  refine foldlM_ok₂ ?_ occupied adjusted adjusted'
  intro adj member _ _ _ _ below first first'
  exact adjust_below keeps raises (rising.adjustments adj member) (rising.loadings adj member) below first first'

end Pricings

/-- A higher insured value keeps the flags and may set the one for a high value. -/
theorem raises_factsOf {submission submission' : Submission} (tiv : submission.tivEur ≤ submission'.tivEur)
    (cover : submission.requestedCover = submission'.requestedCover) :
    Raises (highTivThresholdEur < submission'.tivEur) (factsOf submission).flags (factsOf submission').flags := by
  constructor
  · apply Finset.union_subset_union
    · split
      · rename_i high
        rw [if_pos (lt_of_lt_of_le high tiv)]
      · exact Finset.empty_subset _
    · rw [cover]
  · intro flag member absent
    simp only [factsOf, Finset.mem_union, not_or] at member absent
    rcases member with high | sprinklered
    · split at high
      · rename_i above
        exact ⟨Finset.mem_singleton.mp high, above⟩
      · exact absurd high (Finset.notMem_empty _)
    · exact absurd (cover ▸ sprinklered) absent.2

/-- Each premium of the higher insured value is at least that of the lower. -/
theorem premiums_monotone {table : RateTableSpec} (rising : Rising table) {submission submission' : Submission}
    (occupancy : submission.occupancy = submission'.occupancy)
    (cover : submission.requestedCover = submission'.requestedCover)
    (tiv : submission.tivEur ≤ submission'.tivEur) {breakdown breakdown' : QuoteBreakdown}
    (priced : rate .standard (factsOf submission) table = .ok breakdown)
    (priced' : rate .standard (factsOf submission') table = .ok breakdown') :
    breakdown.purePremiumMinor ≤ breakdown'.purePremiumMinor ∧
    breakdown.technicalPremiumMinor ≤ breakdown'.technicalPremiumMinor ∧
    breakdown.commercialPremiumMinor ≤ breakdown'.commercialPremiumMinor ∧
    breakdown.premiumMinor ≤ breakdown'.premiumMinor := by
  have keeps := DecimalContext.standard_keeps
  obtain ⟨stages, built⟩ := rate_built priced
  obtain ⟨stages', built'⟩ := rate_built priced'
  have same : stages.occupancyFactor = stages'.occupancyFactor := by
    have factor := built.factor
    have factor' := built'.factor
    simp only [factsOf, occupancy] at factor factor'
    exact Option.some.inj (factor.symm.trans factor')
  have nonneg : stages.occupancyFactor.lt .zero = .ok false := by
    apply rising.occupancies (submission.occupancy, stages.occupancyFactor)
    exact lookup_mem built.factor
  have positive : highTivThresholdEur < submission'.tivEur → 0 ≤ submission'.tivEur := by
    intro high
    exact ((by decide : (0 : ℤ) ≤ highTivThresholdEur).trans_lt high).le
  have pure := lossCost_below keeps rising (raises_factsOf tiv cover) tiv positive nonneg built.pure
    (same ▸ built'.pure)
  have technical := technical_below keeps pure built.technical built'.technical
  have commercial := commercial_below (factsOf_neutral _) (factsOf_neutral _) technical
    built.commercial built'.commercial
  have charged := fee_below keeps commercial built.charged built'.charged
  have final := ipt_below keeps commercial charged built.final built'.final
  exact ⟨toMinor_mono built.purePremium built'.purePremium pure.le,
    toMinor_mono built.technicalPremium built'.technicalPremium technical.le,
    toMinor_mono built.commercialPremium built'.commercialPremium commercial.le,
    toMinor_mono built.premium built'.premium final.le⟩

theorem rising_v2 : Rising (v2Spec 2) where
  base := by decide
  occupancies := by decide
  adjustments := by decide
  loadings adj member gate := by
    simp only [v2Spec, List.mem_cons, List.not_mem_nil, or_false] at member
    rcases member with rfl | rfl
    · decide
    · exact absurd (Json.str.inj gate) (by decide)

/-- A sprinklered shop, insured for so many cents. -/
def shop (tivEur : ℤ) : Submission where
  counterpartyId := "c"
  lineOfBusiness := LineOfBusiness.commercialProperty.value
  tivEur
  occupancy := Occupancy.retail.value
  country := "FR"
  postcode := "75001"
  requestedCover := "fire, with a Sprinkler"
  brokerRef := none
  id := "s"
  time := 0

def amounts (breakdown : QuoteBreakdown) : List ℤ :=
  [breakdown.purePremiumMinor, breakdown.technicalPremiumMinor, breakdown.commercialPremiumMinor,
    breakdown.premiumMinor]

/-- The threshold and the first cent above it. -/
theorem premiums_monotone_threshold : ∃ breakdown breakdown',
    rate .standard (factsOf (shop 500000000)) (v2Spec 2) = .ok breakdown ∧
    rate .standard (factsOf (shop 500000001)) (v2Spec 2) = .ok breakdown' ∧
    amounts breakdown = [261250, 331202, 331202, 366011] ∧
    amounts breakdown' = [287375, 364323, 364323, 402112] ∧
    breakdown.purePremiumMinor ≤ breakdown'.purePremiumMinor ∧
    breakdown.technicalPremiumMinor ≤ breakdown'.technicalPremiumMinor ∧
    breakdown.commercialPremiumMinor ≤ breakdown'.commercialPremiumMinor ∧
    breakdown.premiumMinor ≤ breakdown'.premiumMinor := by
  have shown : (rate .standard (factsOf (shop 500000000)) (v2Spec 2)).map amounts =
      .ok [261250, 331202, 331202, 366011] := by decide +kernel
  have shown' : (rate .standard (factsOf (shop 500000001)) (v2Spec 2)).map amounts =
      .ok [287375, 364323, 364323, 402112] := by decide +kernel
  obtain ⟨breakdown, priced, same⟩ := map_ok shown
  obtain ⟨breakdown', priced', same'⟩ := map_ok shown'
  have occupancy : (shop 500000000).occupancy = (shop 500000001).occupancy := rfl
  have cover : (shop 500000000).requestedCover = (shop 500000001).requestedCover := rfl
  have tiv : (shop 500000000).tivEur ≤ (shop 500000001).tivEur := by decide
  exact ⟨breakdown, breakdown', priced, priced', same, same',
    premiums_monotone rising_v2 occupancy cover tiv priced priced'⟩

end Underwriting.Monotone
