import Underwriting.Bind.Service
import Underwriting.Rating.Service

/-! # What the pure parts of a request may raise

Reading a ruleset, a rate table or a response raises what Python raises below it.
The parts have two exceptions of their own: a rating error, for an occupancy without
a factor or an adjustment outside the band, and an error of the policy service, for
a status that the client does not handle.
-/

namespace Underwriting

open Rating

variable {ctx : DecimalContext} {facts : RatingFacts} {table : RateTableSpec} {α : Type}

namespace Foreign

/-! ## Assessing -/

theorem frozenset (value : Json) : Foreign (Appetite.frozenset value) := by
  apply (iterate value).bind
  intro members
  split
  · exact ok _
  · exact error rfl

theorem upperable (value : Json) : Foreign (Appetite.upperable value) := by
  apply (iterate value).bind
  intro members
  split
  · exact ok _
  · exact error rfl

theorem assessed (submission : Submission) (ruleset : AppetiteRuleset) :
    Foreign (SubmissionService.assessed submission ruleset) := by
  have spec : Foreign (Appetite.RulesetSpec.fromRules ruleset.version ruleset.rules) := by
    apply (get _ _ _).bind
    intro lobs
    apply (frozenset lobs).bind
    intro allowedLobs
    apply (item _ _).bind
    intro tiv
    apply (intOf tiv).bind
    intro maxTivEur
    apply (get _ _ _).bind
    intro occupancies
    apply (frozenset occupancies).bind
    intro excludedOccupancies
    apply (get _ _ _).bind
    intro sanctioned
    apply (frozenset sanctioned).bind
    intro sanctionedCountries
    exact (upperable sanctioned).bind fun _ => ok _
  exact spec.bind fun _ => ok _

/-! ## Pricing -/

theorem signaled (op : Except DecimalSignal α) : Foreign (signaled op) := by
  cases op with
  | ok value => exact ok value
  | error signal => exact error rfl

theorem toMinor (amount : Decimal) : Foreign (toMinor ctx amount) := by
  apply (signaled _).bind
  intro value
  split
  · exact ok _
  · exact error rfl

theorem append (trail : Trail) (label kind : Json) (value : String) (subtotal : Decimal) (stage : String) :
    Foreign (trail.append ctx label kind value subtotal stage) :=
  (toMinor subtotal).bind fun _ => ok _

theorem applies (flags : Finset String) (gate : Json) : Foreign (applies flags gate) := by
  cases gate with
  | null => exact ok _
  | str flag => exact ok _
  | _ =>
      simp only [Rating.applies]
      split
      · exact ok _
      · exact error rfl

theorem adjust (flags : Finset String) (trail : Trail) (adj : Adjustment) : Foreign (adjust ctx flags trail adj) := by
  apply (applies flags adj.appliesWhen).bind
  intro gated
  split
  · exact (signaled _).bind fun _ => append ..
  · exact ok trail

theorem lossCost (occupancyFactor : Decimal) : Foreign (lossCost ctx facts table occupancyFactor) := by
  apply (signaled _).bind
  intro permille
  apply (signaled _).bind
  intro base
  apply (append ..).bind
  intro trail
  apply (signaled _).bind
  intro subtotal
  apply (append ..).bind
  intro trail
  exact foldlM (adjust facts.flags) table.adjustments trail

theorem load (trail : Trail) (loading : String × Decimal) : Foreign (load ctx trail loading) := by
  apply (signaled _).bind
  intro positive
  split
  · exact (signaled _).bind fun _ => (signaled _).bind fun _ => append ..
  · exact ok trail

theorem technical (trail : Trail) : Foreign (technical ctx table trail) := foldlM load _ trail

theorem fee (trail : Trail) : Foreign (fee ctx table trail) := by
  simp only [Rating.fee]
  split
  · exact (signaled _).bind fun _ => append ..
  · exact ok trail

theorem ipt (precise : Decimal) (trail : Trail) : Foreign (ipt ctx table precise trail) := by
  apply (signaled _).bind
  intro positive
  split
  · exact (signaled _).bind fun _ => (signaled _).bind fun _ => (signaled _).bind fun _ => append ..
  · exact ok trail

/-- A neutral adjustment is not compared with the band. -/
theorem commercial (neutral : facts.commercialAdjustment.eq .one = .ok true) (trail : Trail) :
    Foreign (commercial ctx facts table trail) := by
  simp only [Rating.commercial, neutral]
  exact ok trail

/-- With a factor for the occupancy and a neutral adjustment a pricing raises nothing of its own. -/
theorem rate (factor : (table.occupancyFactors.lookup facts.occupancy).isSome)
    (neutral : facts.commercialAdjustment.eq .one = .ok true) : Foreign (rate ctx facts table) := by
  obtain ⟨occupancyFactor, found⟩ := Option.isSome_iff_exists.mp factor
  simp only [Rating.rate, found]
  apply (lossCost occupancyFactor).bind
  intro pure
  apply (toMinor _).bind
  intro purePremiumMinor
  apply (technical pure).bind
  intro technical
  apply (toMinor _).bind
  intro technicalPremiumMinor
  apply (commercial neutral technical).bind
  intro commercial
  apply (toMinor _).bind
  intro commercialPremiumMinor
  apply (fee commercial).bind
  intro charged
  apply (ipt _ charged).bind
  intro final
  exact (toMinor _).bind fun _ => ok _

theorem factorsOf (value : Json) : Foreign (factorsOf value) := by
  cases value with
  | obj fields => exact mapM (fun (_, factor) => (decimalOf factor).bind fun _ => ok _) fields
  | _ => exact error rfl

theorem adjustmentOf (value : Json) : Foreign (adjustmentOf value) :=
  (item value _).bind fun _ => (item value _).bind fun _ => (item value _).bind fun factor =>
    (decimalOf factor).bind fun _ => (get value _ _).bind fun _ => ok _

/-- A key that is read as a decimal. -/
theorem decimalAt (rules : Json) (key : String) (fallback : Json) :
    Foreign (Underwriting.get rules key fallback >>= Underwriting.decimalOf) :=
  (get rules key fallback).bind decimalOf

theorem fromRules (version : ℤ) (rules : Json) : Foreign (RateTableSpec.fromRules version rules) := by
  simp only [RateTableSpec.fromRules]
  apply (item rules _).bind
  intro base
  apply (decimalOf base).bind
  intro baseRatePermille
  apply (item rules _).bind
  intro factors
  apply (factorsOf factors).bind
  intro occupancyFactors
  apply (get rules _ _).bind
  intro adjustments
  apply (iterate adjustments).bind
  intro items
  apply (mapM adjustmentOf items).bind
  intro adjustments
  apply (decimalAt rules _ _).bind
  intro expenseLoading
  apply (decimalAt rules _ _).bind
  intro riskMargin
  apply (decimalAt rules _ _).bind
  intro catProvision
  apply (decimalAt rules _ _).bind
  intro commercialAdjustmentMin
  apply (decimalAt rules _ _).bind
  intro commercialAdjustmentMax
  apply (decimalAt rules _ _).bind
  intro iptRate
  apply (get rules _ _).bind
  intro fixedFees
  exact (intOf fixedFees).bind fun _ => ok _

/-! ## Binding -/

theorem createRequest (submission : Submission) (counterpartyName policyNumber : String) (now : ℕ) :
    Foreign (BindService.createRequest submission counterpartyName policyNumber now) := by
  have dates : Foreign (BindService.coverDates now) := by
    simp only [BindService.coverDates]
    split
    · exact ok _
    · exact error rfl
  exact dates.bind fun _ => ok _

theorem json (resp : PasResponse) : Foreign (PolicyClient.json resp) := by
  rw [PolicyClient.json]
  split
  · exact ok _
  · exact error rfl

theorem policyRef (body : Json) : Foreign (PolicyClient.PolicyRef.ofBody body) :=
  (item body _).bind fun _ => (get body _ _).bind fun _ => ok _

theorem readCreated {resp : PasResponse} (usual : resp.statusCode ∈ [201, 409]) :
    Foreign (PolicyClient.readCreated resp) := by
  rw [PolicyClient.readCreated]
  split
  · exact (json resp).bind fun body => (policyRef body).bind fun _ => ok _
  · rename_i other
    have conflict : resp.statusCode = 409 := by simpa [other] using usual
    rw [if_pos conflict]
    exact ok _

theorem findPolicy (policyNumber : String) (items : List Json) :
    Foreign (PolicyClient.findPolicy policyNumber items) := by
  induction items with
  | nil => exact ok _
  | cons policy rest ih =>
      apply (get policy _ _).bind
      intro number
      split
      · exact (policyRef policy).bind fun _ => ok _
      · exact ih

theorem readListed (policyNumber : String) (resp : PasResponse) :
    Foreign (PolicyClient.readListed policyNumber resp) := by
  rw [PolicyClient.readListed]
  split
  · exact ok _
  · apply (json resp).bind
    intro body
    split
    · exact findPolicy policyNumber _
    · exact (get body _ _).bind fun _ => (iterate _).bind (findPolicy policyNumber)

theorem readTransition {policyId action : String} {resp : PasResponse} (usual : resp.statusCode ∈ [200, 201, 409]) :
    Foreign (PolicyClient.readTransition policyId action resp) := by
  rw [PolicyClient.readTransition, if_pos usual]
  exact ok _

end Foreign

/-- A status that the client does not handle is an error of the policy service. -/
theorem created_unexpected {resp : PasResponse} (unusual : resp.statusCode ∉ [201, 409]) :
    ∃ message, PolicyClient.readCreated resp = .error (.policyService message) := by
  simp only [List.mem_cons, List.not_mem_nil, or_false, not_or] at unusual
  rw [PolicyClient.readCreated, if_neg unusual.1, if_neg unusual.2]
  exact ⟨_, rfl⟩

theorem transition_unexpected (policyId action : String) {resp : PasResponse}
    (unusual : resp.statusCode ∉ [200, 201, 409]) :
    ∃ message, PolicyClient.readTransition policyId action resp = .error (.policyService message) := by
  rw [PolicyClient.readTransition, if_neg unusual]
  exact ⟨_, rfl⟩

open RatingService in
/-- Where every occupancy that comes up has a factor, quoting raises nothing of its own. -/
theorem priced_foreign {submission : Submission} {rateTable : RateTable}
    (factor : ∀ spec, specOf rateTable = .ok spec → (spec.occupancyFactors.lookup submission.occupancy).isSome) :
    Foreign (priced submission rateTable) := by
  cases built : specOf rateTable with
  | error err =>
      have foreign := (Foreign.fromRules rateTable.version rateTable.rules).only err built
      rw [priced, built]
      exact .error foreign
  | ok spec =>
      rw [priced, built]
      exact .rate (factor spec built) (factsOf_neutral submission)

open RatingService in
/-- An occupancy without a factor is a rating error. -/
theorem priced_unknown {submission : Submission} {rateTable : RateTable} {spec : RateTableSpec}
    (built : specOf rateTable = .ok spec) (unknown : spec.occupancyFactors.lookup submission.occupancy = none) :
    ∃ message, priced submission rateTable = .error (.rating message) := by
  have none : spec.occupancyFactors.lookup (factsOf submission).occupancy = none := unknown
  simp only [priced, built, bind, Except.bind, Rating.rate, none]
  exact ⟨_, rfl⟩

end Underwriting
