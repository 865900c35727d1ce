import Underwriting.Bind.Registry
import Underwriting.Machine.Policies
import Underwriting.Machine.Rows
import Underwriting.Machine.Scenario

/-! # Binding integrity

A Binding links a quote, a policy number and a policy of the policy service. The
policy service is any registry. A bind holds a reference only to the policy with
its quote's number, and a registry keeps numbers for good, so the link holds from
the moment the reference is found.
-/

namespace Underwriting.Integrity

open Interleaving
open BindService (policyNumberFor)

/-- The Binding's quote is stored for its submission, its number is that of the
    quote, and its policy is the one policy with that number. -/
structure Intact {σ φ υ : Type} {P : PasModel σ φ υ} (registry : Registry P) (w : World σ) (b : Binding) : Prop where
  quote : ∃ q ∈ w.db.quotes, q.id = b.quoteId ∧ q.submissionId = b.submissionId
  policyNumber : b.policyNumber = policyNumberFor b.quoteId
  policy : ∀ id, registry.number w.pas id = some b.policyNumber ↔ id = b.pasPolicyId

variable {σ φ υ : Type} {P : PasModel σ φ υ} {registry : Registry P} {s s' : PointSys σ}
  {choice : Choice Request (Fate φ) (Env υ)}

/-- Every step keeps the numbers that policies have. -/
theorem numbers_step (valid : registry.Valid s.world.pas) (stepped : step (backend P) points s choice = some s') :
    registry.Valid s'.world.pas ∧
      ∀ id n, registry.number s.world.pas id = some n → registry.number s'.world.pas id = some n := by
  cases step_cases stepped with
  | start | crash => exact ⟨valid, fun _ _ found => found⟩
  | @run i fate t c rest answer world session at_i next handled =>
      rcases (handle_cases handled).policies with same | ⟨request, choice, given, -, -, served, -⟩
      · rw [same]
        exact ⟨valid, fun _ _ found => found⟩
      · exact registry.served served valid
  | env e =>
      rcases disturb_cases P s.world e with ⟨_, _, same⟩ | ⟨a, -, same⟩
      · change registry.Valid (disturb P s.world e).pas ∧ ∀ id n, _ → registry.number (disturb P s.world e).pas id = _
        rw [same]
        exact ⟨valid, fun _ _ found => found⟩
      · change registry.Valid (disturb P s.world e).pas ∧ ∀ id n, _ → registry.number (disturb P s.world e).pas id = _
        rw [same]
        exact registry.acted a valid

/-- Every bind that holds a reference holds that of the policy with its number. -/
def AllNumbered (registry : Registry P) (s : PointSys σ) : Prop :=
  ∀ t ∈ s.threads, ∀ hold, t.ctl.held = some hold →
    registry.number s.world.pas hold.policy.id = some hold.request.policyNumber

theorem numbered_found {w w' : World σ} {pending pending' : Db} {ph : Phase} {hold : Holding} {c : Call}
    {fate : Fate φ} {answer : Except PyErr (Reply c)} (valid : registry.Valid w.pas)
    (finds : Phase.Finds hold ph c answer) (handled : Handled P w pending c fate answer w' pending') :
    registry.number w'.pas hold.policy.id = some hold.request.policyNumber := by
  cases finds with
  | created read =>
      rcases handled.served with ⟨failed, -, -⟩ | ⟨choice, pas, -, served, rfl, -⟩
      · cases failed
      · exact registry.created valid served read
  | listed read =>
      rcases handled.served with ⟨failed, -, -⟩ | ⟨choice, pas, -, served, rfl, -⟩
      · cases failed
      · exact registry.listed valid served read

theorem numbered_step (valid : registry.Valid s.world.pas) (numbered : AllNumbered registry s)
    (stepped : step (backend P) points s choice = some s') : AllNumbered registry s' := by
  obtain ⟨-, kept⟩ := numbers_step valid stepped
  refine threads_step stepped ?others ?start (fun _ _ _ known => nomatch known) ?moved
  case others =>
    intro t member hold held
    exact kept _ _ (numbered t member hold held)
  case start =>
    intro req _ hold known
    cases req <;> cases known
  case moved =>
    intro i fate t c rest answer session _ at_i next handled hold held
    rcases Phase.held_next (Phase.leads_next next answer) held with before | finds
    · exact kept _ _ (numbered t (List.mem_of_getElem? at_i) hold before)
    · exact numbered_found valid finds (handle_cases handled)

/-- The stored Bindings name the policies with their numbers. -/
def Linked (registry : Registry P) (w : World σ) : Prop :=
  ∀ b ∈ w.db.bindings, registry.number w.pas b.pasPolicyId = some b.policyNumber

theorem linked_step (sound : AllSound s) (valid : registry.Valid s.world.pas) (numbered : AllNumbered registry s)
    (linked : Linked registry s.world) (stepped : step (backend P) points s choice = some s') :
    Linked registry s'.world := by
  obtain ⟨-, kept⟩ := numbers_step valid stepped
  intro b member
  cases db_step sound stepped with
  | same unchanged => exact kept _ _ (linked b (unchanged ▸ member))
  | rules rulesets rateTables chosen world =>
      rw [world] at member
      exact kept _ _ (linked b ((List.mem_append.mp member).resolve_right List.not_mem_nil))
  | @commit i t rest chosen at_i next world =>
      rw [world] at member
      rcases List.mem_append.mp member with old | new
      · exact kept _ _ (linked b old)
      · have running := List.mem_of_getElem? at_i
        have fits := (sound t running).kept.1
        obtain ⟨file, request, policy, published, entry, phase⟩ := Phase.commits_binding next new
        have held : t.ctl.held = some ⟨file, request, policy⟩ := by rw [phase]; rfl
        have number := numbered t running _ held
        rw [phase] at fits
        obtain ⟨⟨-, made⟩, written, -⟩ := fits
        rw [congrArg NewBinding.pasPolicyId written, congrArg NewBinding.policyNumber written]
        exact kept _ _ (number.trans (congrArg some made.number))

theorem linked_run {pas : σ} {ok} (valid : registry.Valid pas)
    (run : Run (backend P) points ok (idle (.initial pas)) s) :
    registry.Valid s.world.pas ∧ AllNumbered registry s ∧ Linked registry s.world := by
  refine points_invariant run keyed_empty
    (I := fun s => registry.Valid s.world.pas ∧ AllNumbered registry s ∧ Linked registry s.world) ?initial ?preserved
  case initial => exact ⟨valid, (fun _ member => nomatch member), fun _ member => nomatch member⟩
  case preserved =>
    intro s choice s' sound _ held _ stepped
    obtain ⟨valid, numbered, linked⟩ := held
    exact ⟨(numbers_step valid stepped).1, numbered_step valid numbered stepped,
      linked_step sound valid numbered linked stepped⟩

/-- A sourced Binding names a stored quote of its submission and has its number. -/
theorem quote_recorded {db : Db} {b : Binding} (recorded : db.Recorded b) :
    (∃ q ∈ db.quotes, q.id = b.quoteId ∧ q.submissionId = b.submissionId) ∧
      b.policyNumber = policyNumberFor b.quoteId := by
  obtain ⟨file, policy, published, read, written⟩ := recorded
  obtain ⟨stored, owner⟩ := Db.mem_quotesOf.mp read.quote
  have quoteId : b.quoteId = file.quote.id := congrArg NewBinding.quoteId written
  refine ⟨⟨file.quote, stored, quoteId.symm, owner.trans (read.owner written).symm⟩, ?_⟩
  rw [quoteId]
  exact congrArg NewBinding.policyNumber written

/-- For any registry, in every state of every interleaving: all Bindings are intact,
    and no two share a submission, a quote, a number or a policy. -/
theorem bindings_intact (registry : Registry P) {pas : σ} (valid : registry.Valid pas) {s : ProgSys σ}
    (run : Run (backend P) requests anyStep (idle (.initial pas)) s) :
    (∀ b ∈ s.world.db.bindings, Intact registry s.world b) ∧
      ∀ b ∈ s.world.db.bindings, ∀ b' ∈ s.world.db.bindings,
        b.submissionId = b'.submissionId ∨ b.quoteId = b'.quoteId ∨ b.policyNumber = b'.policyNumber ∨
          b.pasPolicyId = b'.pasPolicyId → b = b' := by
  obtain ⟨s, lifted, rfl⟩ := lift_idle run
  obtain ⟨valid, -, linked⟩ := linked_run valid lifted
  have keyed := keyed_initial lifted
  have recorded := (sourced_run lifted).bindings
  have same_number : ∀ b ∈ s.world.db.bindings, ∀ b' ∈ s.world.db.bindings,
      b.policyNumber = b'.policyNumber → b = b' := fun b member b' member' =>
    List.inj_on_of_nodup_map keyed.policyNumber member member'
  constructor
  · intro b member
    obtain ⟨quote, number⟩ := quote_recorded (recorded b member)
    refine ⟨quote, number, fun id => ⟨fun found => ?_, fun same => same ▸ linked b member⟩⟩
    exact registry.unique valid found (linked b member)
  · rintro b member b' member' (submission | quote | number | policy)
    · exact List.inj_on_of_nodup_map keyed.boundOnce member member' submission
    · refine same_number b member b' member' ?_
      rw [(quote_recorded (recorded b member)).2, (quote_recorded (recorded b' member')).2, quote]
    · exact same_number b member b' member' number
    · have found := linked b member
      rw [policy] at found
      exact same_number b member b' member' (Option.some.inj (found.symm.trans (linked b' member')))

theorem bound_intact : ∃ s, Run Scenario.service requests anyStep Scenario.empty s ∧
    s.world.db.bindings.map (·.pasPolicyId) = ["p"] ∧
    (∀ b ∈ s.world.db.bindings, Intact (Lifecycle.registry Lifecycle.byNumber_exact) s.world b) ∧
      ∀ b ∈ s.world.db.bindings, ∀ b' ∈ s.world.db.bindings,
        b.submissionId = b'.submissionId ∨ b.quoteId = b'.quoteId ∨ b.policyNumber = b'.policyNumber ∨
          b.pasPolicyId = b'.pasPolicyId → b = b' := by
  obtain ⟨s, run, policies⟩ := exists_run Scenario.service requests anyStep Scenario.empty Scenario.bound
    (fun s => s.world.db.bindings.map (·.pasPolicyId) == ["p"]) (by decide +kernel)
  exact ⟨s, run, by simpa using policies, bindings_intact (Lifecycle.registry Lifecycle.byNumber_exact) .nil run⟩

end Underwriting.Integrity
