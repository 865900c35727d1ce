import Underwriting.Bind.PolicyStore

/-! # How far a policy has come

Requests only ever move a policy forward, from draft over submitted to active. A
transition that the client takes for done has left the policy past it, whether
it was served now or had been before.
-/

namespace Underwriting.Lifecycle

open PolicyClient

/-- The place of a status on the way to active; 0 is off the way. -/
def Status.stage : Status → ℕ
  | .draft => 1
  | .submitted => 2
  | .active => 3
  | .suspended | .terminated => 0

theorem active_of_stage {status : Status} (last : 3 ≤ status.stage) : status = .active := by
  cases status <;> simp [Status.stage] at last ⊢

/-- A legal transition is one step forward. -/
theorem next_stage {status status' : Status} {action : String} (legal : status.next action = some status') :
    status.stage + 1 = status'.stage := by
  simp only [Status.next] at legal
  split at legal
  · rename_i draft
    cases legal
    rw [draft.1]
    rfl
  · split at legal
    · rename_i submitted
      cases legal
      rw [submitted.1]
      rfl
    · cases legal

/-- The action takes policies of stage `k` on; further ones refuse it. -/
def Lifts (action : String) (k : ℕ) : Prop :=
  ∀ status : Status, k ≤ status.stage → status.next action = none → k + 1 ≤ status.stage

theorem lifts_submit : Lifts "submit" 1 := by
  intro status reached refused
  cases status with
  | draft => cases refused
  | submitted | active => decide
  | suspended | terminated => cases reached

theorem lifts_activate : Lifts "activate" 2 := by
  intro status reached refused
  cases status with
  | submitted => cases refused
  | active => decide
  | draft | suspended | terminated => simp [Status.stage] at reached

/-- There is a policy with the id and the number, and it has come so far. -/
def Reached (store : List Policy) (id n : String) (k : ℕ) : Prop :=
  ∃ p ∈ store, p.id = id ∧ p.policyNumber = n ∧ k ≤ p.status.stage

theorem Reached.weaken {store : List Policy} {id n : String} {k k' : ℕ} (reached : Reached store id n k)
    (below : k' ≤ k) : Reached store id n k' := by
  obtain ⟨p, member, id, number, far⟩ := reached
  exact ⟨p, member, id, number, Nat.le_trans below far⟩

/-- Policies of the number stay on their way, and new policies are on it. -/
def Onward (n : String) (store after : List Policy) : Prop :=
  ∃ f added, after = restatus f store ++ added ∧ (∀ p ∈ store, p.policyNumber = n → p.status.stage ≤ (f p).stage) ∧
    ∀ p ∈ added, 1 ≤ p.status.stage

namespace Onward

variable {n : String} {store after : List Policy}

theorem refl (n : String) (store : List Policy) : Onward n store store :=
  ⟨(·.status), [], by simp [restatus], fun _ _ _ => Nat.le_refl _, List.forall_mem_nil _⟩

theorem reached {id : String} {k : ℕ} (onward : Onward n store after) (reached : Reached store id n k) :
    Reached after id n k := by
  obtain ⟨f, added, rfl, forward, -⟩ := onward
  obtain ⟨p, member, id, number, far⟩ := reached
  refine ⟨{ p with status := f p }, List.mem_append_left _ (List.mem_map_of_mem member), id, number, ?_⟩
  exact Nat.le_trans far (forward p member number)

/-- All policies of the number are still on their way. -/
theorem live (onward : Onward n store after) (live : ∀ p ∈ store, p.policyNumber = n → 1 ≤ p.status.stage) :
    ∀ p ∈ after, p.policyNumber = n → 1 ≤ p.status.stage := by
  obtain ⟨f, added, rfl, forward, fresh⟩ := onward
  intro p' member number
  rcases List.mem_append.mp member with old | new
  · obtain ⟨p, known, rfl⟩ := mem_restatus old
    exact Nat.le_trans (live p known number) (forward p known number)
  · exact fresh p' new

end Onward

theorem Effect.onward {store after : List Policy} {request : PasRequest} (unique : Unique store)
    (effect : Effect store request after) (n : String) : Onward n store after := by
  cases effect with
  | unchanged => exact .refl n store
  | @created req newId free fresh =>
      refine ⟨(·.status), [.ofRequest req newId], by simp [restatus], fun _ _ _ => Nat.le_refl _, ?_⟩
      intro p member
      rw [List.mem_singleton.mp member]
      exact Nat.le_refl 1
  | @moved id action p status found legal =>
      refine ⟨Lifecycle.moved id status, [], (List.append_nil _).symm, fun q member _ => ?_, List.forall_mem_nil _⟩
      have named : p.id = id := by simpa using List.find?_some found
      by_cases same : q.id = id
      · have is_p : q = p := unique.id_eq member (List.mem_of_find?_eq_some found) (same.trans named.symm)
        have forward := next_stage legal
        rw [Lifecycle.moved, if_pos same, is_p]
        omega
      · rw [Lifecycle.moved, if_neg same]

/-- Users who work on other policies leave those of the number where they are. -/
theorem act_onward {store : List Policy} {a : UserAct} {n : String}
    (elsewhere : ∀ p ∈ store, p.policyNumber = n → p.id ≠ a.policyId) : Onward n store (act store a) := by
  cases a with
  | cancel id =>
      refine ⟨cancelled id, [], (List.append_nil _).symm, fun p member number => ?_, List.forall_mem_nil _⟩
      have other : p.id ≠ id := elsewhere p member number
      rw [cancelled, if_neg other]
  | suspend id =>
      refine ⟨suspended id, [], (List.append_nil _).symm, fun p member number => ?_, List.forall_mem_nil _⟩
      rw [suspended, if_neg fun both => elsewhere p member number both.1]

/-- After a transition that the client takes for done, the policy is past it. -/
theorem lifted {paging : Paging} {store after : List Policy} {id n action : String} {reaction : Reaction}
    {resp : PasResponse} {k : ℕ} (unique : Unique store) (lifts : Lifts action k) (reached : Reached store id n k)
    (served : serve paging store (.transition id action) reaction = some (.ok resp, after))
    (taken : resp.statusCode ∈ [200, 201, 409]) : Reached after id n (k + 1) := by
  obtain ⟨p, member, rfl, number, far⟩ := reached
  cases reaction with
  | fail newId applied response => exact absurd taken (failed_untaken served)
  | serve newId =>
      simp only [serve, respond, Db.find?_key unique.id member] at served
      cases legal : p.status.next action with
      | none =>
          simp only [legal, Option.map_some] at served
          cases served
          exact ⟨p, member, rfl, number, lifts p.status far legal⟩
      | some status =>
          simp only [legal, Option.map_some] at served
          cases served
          refine ⟨{ p with status := moved p.id status p }, List.mem_map_of_mem member, rfl, number, ?_⟩
          have forward := next_stage legal
          simp only [moved, ↓reduceIte]
          omega

/-- A transition of a stored policy that is served counts as done. -/
theorem transition_served {paging : Paging} {store after : List Policy} {id n action newId : String}
    {resp : PasResponse} {k : ℕ} (unique : Unique store) (reached : Reached store id n k)
    (served : serve paging store (.transition id action) (.serve newId) = some (.ok resp, after)) :
    readTransition id action resp = .ok () := by
  obtain ⟨p, member, rfl, -, -⟩ := reached
  simp only [serve, respond, Db.find?_key unique.id member] at served
  cases legal : p.status.next action <;> simp only [legal, Option.map_some] at served <;> cases served <;> rfl

end Underwriting.Lifecycle
