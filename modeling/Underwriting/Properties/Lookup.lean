import Mathlib.Data.List.Perm.Subperm
import Underwriting.Bind.Lifecycle
import Underwriting.Lib.Sequential

/-! # What a conflicting create resolves to

The list endpoint knows no `policy_number` parameter and answers with its first
page, of at most twenty policies. The client reads that page only, so a create that
conflicts finds the policy with its number exactly when the policy is on that page.
-/

namespace Underwriting.Lookup

open Interleaving
open Lifecycle PolicyClient

/-- The service answers; no request is lost or fails. -/
def served (_ : World (List Policy)) (_ : Call) (fate : Fate Reaction) : Prop := ∃ newId, fate = .pas (.serve newId)

/-- The service with the lifecycle, and with a listing of its own. -/
def listing (paging : Paging) : Backend Reply PyErr (World (List Policy)) Db (Fate Reaction) (Env UserAct) :=
  backend (Lifecycle.model paging)

/-- `create_policy` returns a reference to the policy. -/
def Resolves (paging : Paging) (world : World (List Policy)) (session : Db) (req : CreatePolicyRequest)
    (p : Policy) : Prop :=
  (createPolicy req).Succeeds (listing paging) served (fun policyRef _ => policyRef.id = p.id) world session

variable {paging : Paging} {world : World (List Policy)} {session : Db} {req : CreatePolicyRequest} {p : Policy}
  {newId : String}

theorem create_conflicts (member : p ∈ world.pas) (named : p.policyNumber = req.policyNumber)
    (fate : Fate Reaction) (answers : served world (.policyService (.create req)) fate) :
    (listing paging).handle world session (.policyService (.create req)) fate =
      some (.ok (problem 409 "Conflict"), world, session) := by
  obtain ⟨newId, rfl⟩ := answers
  have taken : ∃ p ∈ world.pas, p.policyNumber = req.policyNumber := ⟨p, member, named⟩
  simp only [listing, backend, handle, Lifecycle.model, serve, respond, taken, ↓reduceIte, Option.map_some]
  rfl

theorem list_answers (n : String) (fate : Fate Reaction) (answers : served world (.policyService (.list n)) fate) :
    (listing paging).handle world session (.policyService (.list n)) fate =
      some (.ok ⟨200, some (listJson (paging world.pas n)), ""⟩, world, session) := by
  obtain ⟨newId, rfl⟩ := answers
  rfl

/-- After the 409 the outcome is what the first page holds. -/
theorem resolves_iff_listed (member : p ∈ world.pas) (named : p.policyNumber = req.policyNumber) :
    Resolves paging world session req p ↔ ∃ found,
      (paging world.pas req.policyNumber).1.find? (·.policyNumber = req.policyNumber) = some found ∧
        found.id = p.id := by
  refine (Prog.succeeds_call_iff ⟨"", rfl⟩ (create_conflicts member named)).trans ?_
  refine (Prog.succeeds_call_iff ⟨"", rfl⟩ (list_answers req.policyNumber)).trans ?_
  change Prog.Succeeds (listing paging) served _ ((Prog.ofExcept (readListed req.policyNumber
    ⟨200, some (listJson (paging world.pas req.policyNumber)), ""⟩)).bind _) world session ↔ _
  rw [readListed_listing]
  change Prog.Succeeds (listing paging) served _ (Prog.bind (.ret _) _) world session ↔ _
  rw [Prog.ret_bind]
  cases (paging world.pas req.policyNumber).1.find? (·.policyNumber = req.policyNumber) with
  | none => exact iff_of_false id (by simp)
  | some found => exact ⟨fun same => ⟨found, rfl, same⟩, fun ⟨_, same, id⟩ => by cases same; exact id⟩

theorem listed_of_resolves (documented : Documented paging) (member : p ∈ world.pas)
    (only : ∀ q ∈ world.pas, q.policyNumber = p.policyNumber → q = p) (named : p.policyNumber = req.policyNumber)
    (resolves : Resolves paging world session req p) : p ∈ (paging world.pas req.policyNumber).1 := by
  obtain ⟨found, listed, -⟩ := (resolves_iff_listed member named).mp resolves
  have onPage := List.mem_of_find?_eq_some listed
  have same := only found (documented.stored _ _ found onPage) (by simpa [named] using List.find?_some listed)
  exact same ▸ onPage

/-- A create for the number of an existing policy returns exactly that policy if
    and only if the policy is on the first page of the listing. -/
theorem create_resolves_iff_first_page (documented : Documented paging) (member : p ∈ world.pas)
    (only : ∀ q ∈ world.pas, q.policyNumber = p.policyNumber → q = p) (named : p.policyNumber = req.policyNumber) :
    Resolves paging world session req p ↔ p ∈ (paging world.pas req.policyNumber).1 := by
  refine ⟨listed_of_resolves documented member only named, fun onPage => ?_⟩
  rw [resolves_iff_listed member named]
  cases listed : (paging world.pas req.policyNumber).1.find? (·.policyNumber = req.policyNumber) with
  | none => exact absurd (List.find?_eq_none.mp listed p onPage) (by simp [named])
  | some found =>
      have same := only found (documented.stored _ _ found (List.mem_of_find?_eq_some listed))
        (by simpa [named] using List.find?_some listed)
      exact ⟨found, rfl, congrArg Policy.id same⟩

/-- In a store that outgrows a page there is a policy that no create for its number returns. -/
theorem create_misses_some (documented : Documented paging)
    (distinct : (world.pas.map Policy.policyNumber).Nodup) (many : 20 < world.pas.length) :
    ∃ p ∈ world.pas, ∀ session req, p.policyNumber = req.policyNumber → ¬ Resolves paging world session req p := by
  by_contra none
  have within : world.pas ⊆ (paging world.pas "").1 := by
    intro p member
    by_contra missing
    refine none ⟨p, member, fun session req named resolves => missing ?_⟩
    rw [documented.unfiltered world.pas "" req.policyNumber]
    exact listed_of_resolves documented member (fun q there => List.inj_on_of_nodup_map distinct there member) named resolves
  have fits := (distinct.of_map.subperm within).length_le
  exact absurd (fits.trans (documented.bounded world.pas "")) (Nat.not_le.mpr many)

/-- A policy service that holds twenty-one drafts, numbered by tallies. -/
def crowded : World (List Policy) := .initial ((List.range 21).map draft)
where
  tally (n : ℕ) : String := String.ofList (List.replicate n 'I')
  asking (n : ℕ) : CreatePolicyRequest :=
    ⟨tally n, "Acme", "COMM_PROP", "2026-01-01T00:00:00Z", "2027-01-01T00:00:00Z"⟩
  draft (n : ℕ) : Policy := .ofRequest (asking n) ("id" ++ tally n)

theorem create_resolves_seventh : Resolves (pagesOf 10) crowded .empty (crowded.asking 7) (crowded.draft 7) ↔
    crowded.draft 7 ∈ (pagesOf 10 crowded.pas (crowded.asking 7).policyNumber).1 :=
  create_resolves_iff_first_page (pagesOf_documented (by decide)) (by decide) (by decide) rfl

/-- The last of the twenty-one is there and is not found. -/
theorem create_misses_twenty_first : Documented (pagesOf 20) ∧ crowded.draft 20 ∈ crowded.pas ∧
    (∀ q ∈ crowded.pas, q.policyNumber = (crowded.draft 20).policyNumber → q = crowded.draft 20) ∧
    ¬ Resolves (pagesOf 20) crowded .empty (crowded.asking 20) (crowded.draft 20) := by
  refine ⟨pagesOf_documented (by decide), by decide, by decide, ?_⟩
  rw [resolves_iff_listed (by decide) rfl]
  rintro ⟨found, listed, -⟩
  have missing : (crowded.pas.take 20).find? (·.policyNumber = (crowded.asking 20).policyNumber) = none := by decide
  cases missing.symm.trans listed

end Underwriting.Lookup
