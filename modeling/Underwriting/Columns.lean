import Mathlib.Algebra.Group.Int.Defs
import Underwriting.Db
import Underwriting.Enums

/-! # The columns

The column types of the models under `app/*/models.py`. PostgreSQL refuses a row with a
text that is too long for its column or has a U+0000, and one with a number out of
range. Ids are uuids and versions are copied from stored rows, so both fit; a JSON
column takes every value.
-/

namespace Underwriting

/-- `String(n)` -/
def Varchar (n : ℕ) (value : String) : Prop := value.length ≤ n ∧ '\x00' ∉ value.toList

/-- `BigInteger` -/
def Bigint (value : ℤ) : Prop := -2 ^ 63 ≤ value ∧ value < 2 ^ 63

instance (n : ℕ) (value : String) : Decidable (Varchar n value) := inferInstanceAs (Decidable (_ ∧ _))

instance (value : ℤ) : Decidable (Bigint value) := inferInstanceAs (Decidable (_ ∧ _))

structure NewCounterparty.Fits (row : NewCounterparty) : Prop where
  name : Varchar 255 row.name
  country : Varchar 2 row.country

structure NewSubmission.Fits (row : NewSubmission) : Prop where
  lineOfBusiness : Varchar 64 row.lineOfBusiness
  tivEur : Bigint row.tivEur
  occupancy : Varchar 64 row.occupancy
  country : Varchar 2 row.country
  postcode : Varchar 16 row.postcode
  requestedCover : Varchar 255 row.requestedCover
  brokerRef : ∀ ref ∈ row.brokerRef, Varchar 64 ref

structure NewDecision.Fits (row : NewDecision) : Prop where
  outcome : Varchar 16 row.outcome
  decidedBy : Varchar 128 row.decidedBy

structure NewQuote.Fits (row : NewQuote) : Prop where
  premiumMinor : Bigint row.premiumMinor
  currency : Varchar 3 row.currency
  purePremiumMinor : ∀ amount ∈ row.purePremiumMinor, Bigint amount
  technicalPremiumMinor : ∀ amount ∈ row.technicalPremiumMinor, Bigint amount
  commercialPremiumMinor : ∀ amount ∈ row.commercialPremiumMinor, Bigint amount
  taxesMinor : ∀ amount ∈ row.taxesMinor, Bigint amount
  createdBy : Varchar 128 row.createdBy

structure NewBinding.Fits (row : NewBinding) : Prop where
  policyNumber : Varchar 64 row.policyNumber
  pasPolicyId : Varchar 64 row.pasPolicyId
  status : Varchar 16 row.status
  boundBy : Varchar 128 row.boundBy

structure NewAuditEntry.Fits (row : NewAuditEntry) : Prop where
  action : Varchar 64 row.action
  actor : Varchar 128 row.actor
  outcome : ∀ outcome ∈ row.outcome, Varchar 16 outcome

instance (row : NewCounterparty) : Decidable row.Fits :=
  decidable_of_iff (Varchar 255 row.name ∧ Varchar 2 row.country) ⟨fun ⟨a, b⟩ => ⟨a, b⟩, fun ⟨a, b⟩ => ⟨a, b⟩⟩

instance (row : NewSubmission) : Decidable row.Fits :=
  decidable_of_iff
    (Varchar 64 row.lineOfBusiness ∧ Bigint row.tivEur ∧ Varchar 64 row.occupancy ∧ Varchar 2 row.country ∧
      Varchar 16 row.postcode ∧ Varchar 255 row.requestedCover ∧ ∀ ref ∈ row.brokerRef, Varchar 64 ref)
    ⟨fun ⟨a, b, c, d, e, f, g⟩ => ⟨a, b, c, d, e, f, g⟩, fun ⟨a, b, c, d, e, f, g⟩ => ⟨a, b, c, d, e, f, g⟩⟩

instance (row : NewDecision) : Decidable row.Fits :=
  decidable_of_iff (Varchar 16 row.outcome ∧ Varchar 128 row.decidedBy) ⟨fun ⟨a, b⟩ => ⟨a, b⟩, fun ⟨a, b⟩ => ⟨a, b⟩⟩

instance (row : NewQuote) : Decidable row.Fits :=
  decidable_of_iff
    (Bigint row.premiumMinor ∧ Varchar 3 row.currency ∧ (∀ amount ∈ row.purePremiumMinor, Bigint amount) ∧
      (∀ amount ∈ row.technicalPremiumMinor, Bigint amount) ∧
      (∀ amount ∈ row.commercialPremiumMinor, Bigint amount) ∧ (∀ amount ∈ row.taxesMinor, Bigint amount) ∧
      Varchar 128 row.createdBy)
    ⟨fun ⟨a, b, c, d, e, f, g⟩ => ⟨a, b, c, d, e, f, g⟩, fun ⟨a, b, c, d, e, f, g⟩ => ⟨a, b, c, d, e, f, g⟩⟩

instance (row : NewBinding) : Decidable row.Fits :=
  decidable_of_iff
    (Varchar 64 row.policyNumber ∧ Varchar 64 row.pasPolicyId ∧ Varchar 16 row.status ∧ Varchar 128 row.boundBy)
    ⟨fun ⟨a, b, c, d⟩ => ⟨a, b, c, d⟩, fun ⟨a, b, c, d⟩ => ⟨a, b, c, d⟩⟩

instance (row : NewAuditEntry) : Decidable row.Fits :=
  decidable_of_iff
    (Varchar 64 row.action ∧ Varchar 128 row.actor ∧ ∀ outcome ∈ row.outcome, Varchar 16 outcome)
    ⟨fun ⟨a, b, c⟩ => ⟨a, b, c⟩, fun ⟨a, b, c⟩ => ⟨a, b, c⟩⟩

/-! ## Values of the enumerations -/

theorem LineOfBusiness.value_fits (line : LineOfBusiness) : Varchar 64 line.value := by
  cases line <;> decide

theorem Occupancy.value_fits (occupancy : Occupancy) : Varchar 64 occupancy.value := by
  cases occupancy <;> decide

theorem Outcome.value_fits (outcome : Outcome) : Varchar 16 outcome.value := by
  cases outcome <;> decide

end Underwriting
