import Mathlib.Data.Finset.Image
import Underwriting.Enums
import Underwriting.Errors
import Underwriting.Lib.Text

/-! # The appetite engine

`app/appetite/rules.py`: the typed view of a ruleset's payload and the
assessment of a submission against it. Declines come first, then the referral
conditions, else the risk is accepted.
-/

namespace Underwriting.Appetite

/-- The payload of a ruleset as a typed value. Amounts are eurocents. -/
structure RulesetSpec where
  version : ℤ
  allowedLobs : Finset String
  maxTivEur : ℤ
  excludedOccupancies : Finset String
  sanctionedCountries : Finset String

/-- `frozenset(value)`. Members that are not texts are left out: no submission
    field equals one. -/
def frozenset (value : Json) : Except PyErr (Finset String) := do
  let members ← iterate value
  if members.all Json.hashable then .ok (members.filterMap Json.text?).toFinset else .error .type

/-- Every member has an `upper`, that is, is a text. `assess` asks this first, right
    after the spec is built. -/
def upperable (value : Json) : Except PyErr Unit := do
  let members ← iterate value
  if members.all fun m => m.text?.isSome then .ok () else .error .attribute

def RulesetSpec.fromRules (version : ℤ) (rules : Json) : Except PyErr RulesetSpec := do
  let allowedLobs ← frozenset (← get rules "allowed_lobs" (.arr []))
  let maxTivEur ← intOf (← item rules "max_tiv_eur")
  let excludedOccupancies ← frozenset (← get rules "excluded_occupancies" (.arr []))
  let sanctioned ← get rules "sanctioned_countries" (.arr [])
  let sanctionedCountries ← frozenset sanctioned
  upperable sanctioned
  return { version, allowedLobs, maxTivEur, excludedOccupancies, sanctionedCountries }

/-- The facts the engine needs from a submission. -/
structure SubmissionFacts where
  lineOfBusiness : String
  tivEur : ℤ
  occupancy : String
  country : String

def declineReasons (submission : SubmissionFacts) (ruleset : RulesetSpec) : List ReasonCode :=
  (if Unicode.upper submission.country ∈ ruleset.sanctionedCountries.image Unicode.upper then
    [.sanctionedCountry] else []) ++
  (if submission.occupancy ∈ ruleset.excludedOccupancies then [.excludedOccupancy] else [])

def referReasons (submission : SubmissionFacts) (ruleset : RulesetSpec) : List ReasonCode :=
  (if submission.lineOfBusiness ∉ ruleset.allowedLobs then [.lobOutOfAppetite] else []) ++
  (if submission.tivEur > ruleset.maxTivEur then [.tivAboveAuthority] else [])

/-- Hard declines short-circuit; referrals come before an accept. -/
def assess (submission : SubmissionFacts) (ruleset : RulesetSpec) : Outcome × List ReasonCode :=
  if declineReasons submission ruleset ≠ [] then (.decline, declineReasons submission ruleset)
  else if referReasons submission ruleset ≠ [] then (.refer, referReasons submission ruleset)
  else (.accept, [.withinAppetite])

/-- Every rule of the appetite holds. -/
structure Within (submission : SubmissionFacts) (ruleset : RulesetSpec) : Prop where
  notSanctioned : ∀ c ∈ ruleset.sanctionedCountries, Unicode.upper submission.country ≠ Unicode.upper c
  notExcluded : submission.occupancy ∉ ruleset.excludedOccupancies
  allowed : submission.lineOfBusiness ∈ ruleset.allowedLobs
  affordable : submission.tivEur ≤ ruleset.maxTivEur

theorem declineReasons_eq_nil {submission ruleset} : declineReasons submission ruleset = [] ↔
    (∀ c ∈ ruleset.sanctionedCountries, Unicode.upper submission.country ≠ Unicode.upper c) ∧
      submission.occupancy ∉ ruleset.excludedOccupancies := by
  simp only [declineReasons, List.append_eq_nil_iff, ite_eq_right_iff, reduceCtorEq, imp_false,
    Finset.mem_image, not_exists, not_and, ne_comm, ne_eq]

theorem referReasons_eq_nil {submission ruleset} : referReasons submission ruleset = [] ↔
    submission.lineOfBusiness ∈ ruleset.allowedLobs ∧ submission.tivEur ≤ ruleset.maxTivEur := by
  simp only [referReasons, List.append_eq_nil_iff, ite_eq_right_iff, reduceCtorEq, imp_false,
    not_not, not_lt, gt_iff_lt]

/-- The engine accepts exactly the risks within the appetite. -/
theorem assess_accept {submission ruleset} :
    (assess submission ruleset).1 = .accept ↔ Within submission ruleset := by
  simp only [assess]
  split
  · rename_i declined
    simp only [reduceCtorEq, false_iff]
    exact fun within => declined (declineReasons_eq_nil.mpr ⟨within.notSanctioned, within.notExcluded⟩)
  · rename_i clean
    split
    · rename_i referred
      simp only [reduceCtorEq, false_iff]
      exact fun within => referred (referReasons_eq_nil.mpr ⟨within.allowed, within.affordable⟩)
    · rename_i authorised
      obtain ⟨notSanctioned, notExcluded⟩ := declineReasons_eq_nil.mp (not_not.mp clean)
      obtain ⟨allowed, affordable⟩ := referReasons_eq_nil.mp (not_not.mp authorised)
      exact iff_of_true rfl ⟨notSanctioned, notExcluded, allowed, affordable⟩

/-- The seed ruleset; 1 000 000 000 eurocents are ten million euros. -/
def v1Rules : Json := .obj [
  ("allowed_lobs", .arr [.str LineOfBusiness.commercialProperty.value]),
  ("max_tiv_eur", .int 1000000000),
  ("excluded_occupancies", .arr [.str Occupancy.fireworksManufacturing.value]),
  ("sanctioned_countries", .arr [.str "KP", .str "IR", .str "SY", .str "RU"])]

end Underwriting.Appetite
