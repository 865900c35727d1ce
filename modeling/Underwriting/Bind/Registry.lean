import Underwriting.Bind.PolicyStore

/-! # Policy services as registries

What a bind relies on of any policy service: policies keep their numbers, numbers
are unique, and a reference that the client reads off a create or a lookup is of
the policy with the number it asked for. The lifecycle service with an exact
lookup is one.
-/

namespace Underwriting

open PolicyClient

/-- A policy service that numbers its policies. `Valid` is what its own states keep. -/
structure Registry {σ φ υ : Type} (P : PasModel σ φ υ) where
  Valid : σ → Prop
  /-- The number of the policy with an id. -/
  number : σ → String → Option String
  unique : ∀ {pas id id' n}, Valid pas → number pas id = some n → number pas id' = some n → id = id'
  served : ∀ {pas request choice answer after}, P.serve pas request choice = some (answer, after) → Valid pas →
    Valid after ∧ ∀ id n, number pas id = some n → number after id = some n
  acted : ∀ {pas} (a : υ), Valid pas →
    Valid (P.act pas a) ∧ ∀ id n, number pas id = some n → number (P.act pas a) id = some n
  created : ∀ {pas req choice resp after ref}, Valid pas →
    P.serve pas (.create req) choice = some (.ok resp, after) → readCreated resp = .ok (some ref) →
      number after ref.id = some req.policyNumber
  listed : ∀ {pas n choice resp after ref}, Valid pas →
    P.serve pas (.list n) choice = some (.ok resp, after) → readListed n resp = .ok (some ref) →
      number after ref.id = some n

namespace Lifecycle

/-- The number of the policy with an id. -/
def numberOf (store : List Policy) (id : String) : Option String :=
  (store.find? (·.id = id)).map (·.policyNumber)

variable {store after : List Policy}

theorem numberOf_member (unique : Unique store) {p : Policy} (member : p ∈ store) :
    numberOf store p.id = some p.policyNumber := by
  rw [numberOf, Db.find?_key unique.id member]
  rfl

theorem numberOf_eq_some {id n : String} (found : numberOf store id = some n) :
    ∃ p ∈ store, p.id = id ∧ p.policyNumber = n := by
  obtain ⟨p, listed, rfl⟩ := Option.map_eq_some_iff.mp found
  exact ⟨p, List.mem_of_find?_eq_some listed, by simpa using List.find?_some listed, rfl⟩

/-- A policy that stays keeps its number. -/
theorem numberOf_stays (unique : Unique after) (kept : store.map Policy.outline <+: after.map Policy.outline)
    {id n : String} (found : numberOf store id = some n) : numberOf after id = some n := by
  obtain ⟨p, member, rfl, rfl⟩ := numberOf_eq_some found
  obtain ⟨p', member', same⟩ := outline_stays kept member
  rw [← outline_id same, ← outline_number same]
  exact numberOf_member unique member'

theorem numberOf_unique (unique : Unique store) {id id' n : String} (found : numberOf store id = some n)
    (found' : numberOf store id' = some n) : id = id' := by
  obtain ⟨p, member, rfl, number⟩ := numberOf_eq_some found
  obtain ⟨p', member', rfl, number'⟩ := numberOf_eq_some found'
  exact congrArg Policy.id (unique.number_eq member member' (number.trans number'.symm))

/-- The lifecycle service with an exact lookup is a registry. -/
def registry {paging : Paging} (exact_paging : Exact paging) : Registry (model paging) where
  Valid := Unique
  number := numberOf
  unique := fun unique found found' => numberOf_unique unique found found'
  served := by
    intro store request reaction answer after served unique
    have effect := serve_effect served
    exact ⟨unique.effect effect, fun id n found => numberOf_stays (unique.effect effect) effect.outlines found⟩
  acted := by
    intro store a unique
    have same := act_outlines store a
    refine ⟨unique_congr unique same, fun id n found => numberOf_stays (unique_congr unique same) ?_ found⟩
    exact same ▸ List.prefix_rfl
  created := by
    intro store req reaction resp after ref unique served read
    have unique := unique.effect (serve_effect served)
    obtain ⟨newId, rfl, rfl⟩ := created_ref served read
    exact numberOf_member unique (List.mem_append_right _ (List.mem_singleton_self _))
  listed := by
    intro store n reaction resp after ref unique served read
    obtain ⟨p, member, rfl, rfl⟩ := listed_ref exact_paging served read
    have effect := serve_effect served
    exact numberOf_stays (unique.effect effect) effect.outlines (numberOf_member unique member)

end Lifecycle

end Underwriting
