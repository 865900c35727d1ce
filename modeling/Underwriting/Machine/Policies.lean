import Underwriting.Bind.PolicyStore
import Underwriting.Machine.Steps

/-! # The policies of a run

How the store of the lifecycle service moves along the runs of the routes, and
what a bind knows of the policy it holds a reference to: the policy is there and
has the number of the bind's quote, whoever created it.
-/

namespace Underwriting

open Interleaving Lifecycle
open PolicyClient (PolicyRef)

/-- The policy was created during the run. -/
def Created (initial : List Policy) (p : Policy) : Prop := p.id ∉ initial.map (·.id)

instance (initial : List Policy) (p : Policy) : Decidable (Created initial p) :=
  inferInstanceAs (Decidable (p.id ∉ initial.map (·.id)))

/-- What a bind works on from its create on. -/
structure Holding where
  file : BindFile
  request : CreatePolicyRequest
  policy : PolicyRef

def Phase.held : Phase → Option Holding
  | .bindSubmit file request policy | .bindActivate file request policy | .bindPublish file request policy
  | .bindInsert file request policy _ | .bindAudit file request policy _ _
  | .bindCommit file request policy _ _ _ => some ⟨file, request, policy⟩
  | _ => none

/-- The answers that give a bind its reference. -/
inductive Phase.Finds (hold : Holding) : Phase → (c : Call) → Except PyErr (Reply c) → Prop where
  | created {resp} (read : PolicyClient.readCreated resp = .ok (some hold.policy)) :
      Finds hold (.bindCreate hold.file hold.request) (.policyService (.create hold.request)) (.ok resp)
  | listed {resp} (read : PolicyClient.readListed hold.request.policyNumber resp = .ok (some hold.policy)) :
      Finds hold (.bindResolve hold.file hold.request) (.policyService (.list hold.request.policyNumber)) (.ok resp)

namespace Phase

variable {ph ph' : Phase} {c : Call} {answer : Except PyErr (Reply c)} {rest : Except PyErr (Reply c) → Phase}
  {hold : Holding}

theorem held_next (leads : Leads ph c answer ph') (held : ph'.held = some hold) :
    ph.held = some hold ∨ Finds hold ph c answer := by
  cases leads with
  | bindCreate read =>
      cases held
      exact .inr (.created read)
  | bindResolve read =>
      cases held
      exact .inr (.listed read)
  | ended | bindCommit => cases held
  | _ => exact .inl held

/-- The point that creates. -/
theorem creates {request} {rest : Except PyErr PasResponse → Phase}
    (found : ph.next = some ⟨.policyService (.create request), rest⟩) : ∃ file, ph = .bindCreate file request := by
  cases ph
  case bindCreate file made =>
    cases found
    exact ⟨file, rfl⟩
  all_goals
    have call := congrArg (Option.map Sigma.fst) found
    simp [Phase.next, calling] at call

/-- The point that activates. -/
theorem activates {id} {rest : Except PyErr PasResponse → Phase}
    (found : ph.next = some ⟨.policyService (.transition id "activate"), rest⟩) :
    ∃ file request policy, ph = .bindActivate file request policy ∧ policy.id = id := by
  cases ph
  case bindActivate file request policy =>
    cases found
    exact ⟨file, request, policy, rfl, rfl⟩
  all_goals
    have call := congrArg (Option.map Sigma.fst) found
    simp [Phase.next, calling] at call

/-- The point that publishes. -/
theorem publishes {event} {rest : Except PyErr (Reply (.publish event)) → Phase}
    (found : ph.next = some ⟨.publish event, rest⟩) : ∃ file request policy,
      ph = .bindPublish file request policy ∧ event = BindService.eventOf file.submission file.quote request := by
  cases ph
  case bindPublish file request policy =>
    cases found
    exact ⟨file, request, policy, rfl, rfl⟩
  all_goals
    have call := congrArg (Option.map Sigma.fst) found
    simp [Phase.next, calling] at call

theorem held_fits {db : Db} (fits : ph.Fits db) (held : ph.held = some hold) :
    hold.file.Read db ∧ hold.file.Requested hold.request := by
  cases ph <;> cases held
  case bindSubmit | bindActivate | bindPublish | bindInsert => exact fits
  case bindAudit | bindCommit => exact fits.1

end Phase

/-- A request asks for the number of the quote. -/
theorem BindFile.Requested.number {file : BindFile} {request : CreatePolicyRequest} (made : file.Requested request) :
    request.policyNumber = BindService.policyNumberFor file.quote.id := by
  obtain ⟨holder, now, created⟩ := made
  obtain ⟨dates, -, built⟩ := bind_ok created
  cases built
  rfl

section Runs

variable {paging : Paging} {s s' : PointSys (List Policy)} {choice : Choice Request (Fate Reaction) (Env UserAct)}

/-- What a step does to the policies. -/
inductive PasStep (s : PointSys (List Policy)) (choice : Choice Request (Fate Reaction) (Env UserAct))
    (s' : PointSys (List Policy)) : Prop where
  | same (kept : s'.world.pas = s.world.pas)
  | user (a) (chosen : choice = .env (.pas a)) (pas : s'.world.pas = act s.world.pas a)
      (db : s'.world.db = s.world.db)
  | served {i t request rest reaction} (chosen : choice = .run i (.pas reaction)) (at_i : s.threads[i]? = some t)
      (next : t.ctl.next = some ⟨.policyService request, rest⟩) (effect : Effect s.world.pas request s'.world.pas)
      (db : s'.world.db = s.world.db)

theorem pas_step (stepped : step (backend (model paging)) points s choice = some s') : PasStep s choice s' := by
  cases step_cases stepped with
  | start | crash => exact .same rfl
  | run at_i next handled =>
      rcases (handle_cases handled).policies with same | ⟨request, reaction, given, rfl, rfl, served, db⟩
      · exact .same same
      · exact .served rfl at_i next (serve_effect served) db
  | env e =>
      rcases disturb_cases (model paging) s.world e with ⟨_, _, same⟩ | ⟨a, rfl, same⟩
      · exact .same (show (disturb (model paging) s.world e).pas = _ by rw [same])
      · exact .user a rfl (show (disturb (model paging) s.world _).pas = _ by rw [same]; rfl)
          (show (disturb (model paging) s.world _).db = _ by rw [same])

theorem pas_outlines (stepped : step (backend (model paging)) points s choice = some s') :
    s.world.pas.map Policy.outline <+: s'.world.pas.map Policy.outline := by
  cases pas_step stepped with
  | same kept => rw [kept]
  | user a chosen pas db => rw [pas, act_outlines]
  | served chosen at_i next effect db => exact effect.outlines

/-- A policy was there before, but for its status, or a create has just stored it. -/
theorem policy_step (stepped : step (backend (model paging)) points s choice = some s') {p' : Policy}
    (member : p' ∈ s'.world.pas) : (∃ p ∈ s.world.pas, p.outline = p'.outline) ∨
      ∃ t ∈ s.threads, ∃ request newId, ∃ rest : Except PyErr PasResponse → Phase,
        t.ctl.next = some ⟨.policyService (.create request), rest⟩ ∧ p' = .ofRequest request newId := by
  cases pas_step stepped with
  | same kept => exact .inl ⟨p', kept ▸ member, rfl⟩
  | user a chosen pas db =>
      rw [pas] at member
      have outlined := List.mem_map_of_mem (f := Policy.outline) member
      rw [act_outlines] at outlined
      exact .inl (List.mem_map.mp outlined)
  | @served i t request rest reaction chosen at_i next effect db =>
      generalize s'.world.pas = after at effect member
      cases effect with
      | unchanged => exact .inl ⟨p', member, rfl⟩
      | moved found legal =>
          obtain ⟨p, old, rfl⟩ := mem_restatus member
          exact .inl ⟨p, old, rfl⟩
      | @created req newId free fresh =>
          rcases List.mem_append.mp member with old | new
          · exact .inl ⟨p', old, rfl⟩
          · exact .inr ⟨t, List.mem_of_getElem? at_i, req, newId, rest, next, List.mem_singleton.mp new⟩

theorem unique_step (unique : Unique s.world.pas)
    (stepped : step (backend (model paging)) points s choice = some s') : Unique s'.world.pas := by
  cases pas_step stepped with
  | same kept => exact kept ▸ unique
  | user a chosen pas db => exact pas ▸ unique_congr unique (act_outlines _ _)
  | served chosen at_i next effect db => exact unique.effect effect

/-- The policy of a reference is in the store, with the number that was asked for. -/
def Stored (store : List Policy) (hold : Holding) : Prop :=
  ∃ p ∈ store, p.id = hold.policy.id ∧ p.policyNumber = hold.request.policyNumber

theorem Stored.stays {store after : List Policy} {hold : Holding} (stored : Stored store hold)
    (kept : store.map Policy.outline <+: after.map Policy.outline) : Stored after hold := by
  obtain ⟨p, member, id, number⟩ := stored
  obtain ⟨p', member', same⟩ := outline_stays kept member
  exact ⟨p', member', (outline_id same).trans id, (outline_number same).trans number⟩

/-- A reference is found for a stored policy. -/
theorem stored_found (exact_paging : Exact paging) {w w' : World (List Policy)} {pending pending' : Db}
    {ph : Phase} {hold : Holding} {c : Call} {fate : Fate Reaction} {answer : Except PyErr (Reply c)}
    (finds : Phase.Finds hold ph c answer)
    (handled : Handled (model paging) w pending c fate answer w' pending') : Stored w'.pas hold := by
  cases finds with
  | created read =>
      rcases handled.served with ⟨failed, -, -⟩ | ⟨reaction, pas, -, served, rfl, -⟩
      · cases failed
      · obtain ⟨newId, rfl, ref⟩ := created_ref served read
        exact ⟨.ofRequest hold.request newId, List.mem_append_right _ (List.mem_singleton_self _),
          (congrArg PolicyRef.id ref).symm, rfl⟩
  | listed read =>
      rcases handled.served with ⟨failed, -, -⟩ | ⟨reaction, pas, -, served, rfl, -⟩
      · cases failed
      · obtain ⟨p, member, number, ref⟩ := listed_ref exact_paging served read
        have found : Stored w.pas hold := ⟨p, member, (congrArg PolicyRef.id ref).symm, number⟩
        exact found.stays (serve_effect served).outlines

/-- Every reference held by a bind is of a stored policy with its number. -/
def AllStored (s : PointSys (List Policy)) : Prop :=
  ∀ t ∈ s.threads, ∀ hold, t.ctl.held = some hold → Stored s.world.pas hold

theorem stored_step (exact_paging : Exact paging) (stored : AllStored s)
    (stepped : step (backend (model paging)) points s choice = some s') : AllStored s' := by
  have kept := pas_outlines stepped
  refine threads_step stepped ?others ?start (fun _ _ _ known => nomatch known) ?moved
  case others => exact fun t member hold held => (stored t member hold held).stays kept
  case start => exact fun req _ hold known => by cases req <;> cases known
  case moved =>
    intro i fate t c rest answer session _ at_i next handled hold held
    rcases Phase.held_next (Phase.leads_next next answer) held with before | finds
    · exact (stored t (List.mem_of_getElem? at_i) hold before).stays kept
    · exact stored_found exact_paging finds (handle_cases handled)

end Runs

end Underwriting
