import Underwriting.Bind.HttpClient
import Underwriting.Bind.Payload
import Underwriting.Bind.Service
import Underwriting.Lib.Schema

/-! # The contract of the policy service

`CreatePolicyRequest` of `tests/contract/policy_service_openapi.yaml`, checked with its
formats as `tests/contract/test_policy_service_contract.py` checks it, and the cover that
the dates of a request are read as.
-/

namespace Underwriting.Contract

open HttpPolicyServiceClient (createJson)
open Payload (textAt)

def createPolicyRequest : Schema := .object
  ["policy_number", "holder_name", "product_code", "effective_date", "expiry_date"]
  [("policy_number", .string), ("holder_name", .string), ("product_code", .string), ("effective_date", .dateTime),
    ("expiry_date", .dateTime)]

/-- The cover that was bound at a time: from the midnight before it, for the default term. -/
structure Covers (now : ℕ) (starts ends : Rfc3339.DateTime) : Prop where
  midnight : 86400 ∣ starts.seconds
  today : 1000000 * starts.seconds ≤ now ∧ now < 1000000 * (starts.seconds + 86400)
  term : ends.seconds = starts.seconds + 86400 * BindService.defaultTermDays

/-- The dates in a body, as the policy service reads them. -/
def ReadsCover (body : Json) (now : ℕ) : Prop :=
  ∃ effective expiry starts ends, textAt body "effective_date" = some effective ∧
    textAt body "expiry_date" = some expiry ∧ Rfc3339.parse effective = some starts ∧
    Rfc3339.parse expiry = some ends ∧ Covers now starts ends

theorem coverDates_read {now : ℕ} {effective expiry : String} (dated : BindService.coverDates now = .ok (effective, expiry)) :
    ∃ starts ends, Rfc3339.parse effective = some starts ∧ Rfc3339.parse expiry = some ends ∧ Covers now starts ends := by
  simp only [BindService.coverDates] at dated
  split at dated
  · rename_i early
    obtain ⟨rfl, rfl⟩ := Prod.mk.inj (Except.ok.inj dated)
    obtain ⟨starts, read, day⟩ := Rfc3339.parse_midnightText (Nat.le_trans (Nat.le_add_right ..) early)
    obtain ⟨ends, read', day'⟩ := Rfc3339.parse_midnightText early
    refine ⟨starts, ends, read, read', ⟨_, day⟩, ?_, ?_⟩
    · rw [day]
      simp only [Calendar.microsPerDay]
      omega
    · rw [day, day']
      push_cast
      ring
  · cases dated

/-- A body whose dates are date-times keeps the contract. -/
theorem createJson_accepted {req : CreatePolicyRequest} {starts ends : Rfc3339.DateTime}
    (effective : Rfc3339.parse req.effectiveDate = some starts) (expiry : Rfc3339.parse req.expiryDate = some ends) :
    createPolicyRequest.accepts (createJson req) := by
  rw [createPolicyRequest, createJson, Schema.accepts_object_iff]
  constructor
  · simp [List.lookup_cons]
  · intro property member value found
    simp only [List.mem_cons, List.not_mem_nil, or_false] at member
    rcases member with rfl | rfl | rfl | rfl | rfl <;> cases found <;> simp [Schema.accepts, effective, expiry]

/-- A bare date breaks it. -/
example : createPolicyRequest.accepts (createJson ⟨"UW-1", "Acme", "MARINE", "2026-09-27", "2027-09-27T00:00:00Z"⟩) =
    false := by decide

end Underwriting.Contract
