import Underwriting.Bind.Lifecycle

/-! # The store of the policy service

What requests and users can do to the policies. A policy keeps everything but its
status for good, ids and numbers stay unique, and a status moves along the
lifecycle only.
-/

namespace Underwriting.Lifecycle

open PolicyClient

/-- A policy without its status; nothing ever changes it. -/
def Policy.outline (p : Policy) : Policy := { p with status := .draft }

theorem outline_id {p p' : Policy} (same : p.outline = p'.outline) : p.id = p'.id :=
  show p.outline.id = p'.outline.id by rw [same]

theorem outline_number {p p' : Policy} (same : p.outline = p'.outline) : p.policyNumber = p'.policyNumber :=
  show p.outline.policyNumber = p'.outline.policyNumber by rw [same]

/-- Ids and numbers are unique. -/
structure Unique (store : List Policy) : Prop where
  id : (store.map (·.id)).Nodup
  policyNumber : (store.map (·.policyNumber)).Nodup

/-- The effects a request can have. -/
inductive Effect (store : List Policy) : PasRequest → List Policy → Prop where
  | unchanged {request} : Effect store request store
  | created {req newId} (free : ∀ p ∈ store, p.policyNumber ≠ req.policyNumber) (fresh : ∀ p ∈ store, p.id ≠ newId) :
      Effect store (.create req) (store ++ [.ofRequest req newId])
  | moved {id action p status} (found : store.find? (·.id = id) = some p) (legal : p.status.next action = some status) :
      Effect store (.transition id action) (restatus (moved id status) store)

theorem Unique.nil : Unique [] := ⟨List.nodup_nil, List.nodup_nil⟩

theorem respond_effect {paging : Paging} {store after : List Policy} {newId : String} {request : PasRequest}
    {resp : PasResponse} (answered : respond paging store newId request = some (resp, after)) :
    Effect store request after := by
  cases request with
  | create req =>
      simp only [respond] at answered
      split at answered
      · cases answered
        exact .unchanged
      · rename_i free
        split at answered
        · cases answered
        · rename_i fresh
          cases answered
          exact .created (fun p member same => free ⟨p, member, same⟩) fun p member same => fresh ⟨p, member, same⟩
  | list n =>
      cases answered
      exact .unchanged
  | transition id action =>
      simp only [respond] at answered
      split at answered
      · cases answered
        exact .unchanged
      · rename_i p found
        split at answered
        · cases answered
          exact .unchanged
        · rename_i status legal
          cases answered
          exact .moved found legal

theorem serve_effect {paging : Paging} {store after : List Policy} {request : PasRequest} {reaction : Reaction}
    {answer : Except PyErr PasResponse} (served : serve paging store request reaction = some (answer, after)) :
    Effect store request after := by
  cases reaction with
  | serve newId =>
      obtain ⟨⟨resp, stored⟩, answered, same⟩ := Option.map_eq_some_iff.mp served
      cases same
      exact respond_effect answered
  | fail newId applied response =>
      simp only [serve] at served
      split at served
      · obtain ⟨⟨resp, stored⟩, answered, same⟩ := Option.map_eq_some_iff.mp served
        cases applied <;> cases same
        · exact .unchanged
        · exact respond_effect answered
      · cases served

@[simp] theorem outline_restatus (f : Policy → Status) (store : List Policy) :
    (restatus f store).map Policy.outline = store.map Policy.outline := by
  simp only [restatus, List.map_map]
  rfl

/-- Policies stay, in order, with all but their status; a create adds one. -/
theorem Effect.outlines {store after : List Policy} {request : PasRequest} (effect : Effect store request after) :
    store.map Policy.outline <+: after.map Policy.outline := by
  cases effect with
  | unchanged => exact List.prefix_rfl
  | created => simp only [List.map_append]; exact List.prefix_append _ _
  | moved => simp only [outline_restatus, List.prefix_rfl]

theorem mem_restatus {f : Policy → Status} {store : List Policy} {p' : Policy} (member : p' ∈ restatus f store) :
    ∃ p ∈ store, p' = { p with status := f p } := by
  obtain ⟨p, known, rfl⟩ := List.mem_map.mp member
  exact ⟨p, known, rfl⟩

theorem act_outlines (store : List Policy) (a : UserAct) :
    (act store a).map Policy.outline = store.map Policy.outline := by
  cases a <;> exact outline_restatus _ _

/-- A policy of an earlier store is still there, but for its status. -/
theorem outline_stays {store after : List Policy} (kept : store.map Policy.outline <+: after.map Policy.outline)
    {p : Policy} (member : p ∈ store) : ∃ p' ∈ after, p'.outline = p.outline :=
  List.mem_map.mp (kept.subset (List.mem_map_of_mem member))

theorem unique_congr {store after : List Policy} (unique : Unique store)
    (same : after.map Policy.outline = store.map Policy.outline) : Unique after := by
  have ids : after.map (·.id) = store.map (·.id) := by
    simpa only [List.map_map, Function.comp_def, Policy.outline] using congrArg (List.map (·.id)) same
  have numbers : after.map (·.policyNumber) = store.map (·.policyNumber) := by
    simpa only [List.map_map, Function.comp_def, Policy.outline] using congrArg (List.map (·.policyNumber)) same
  exact ⟨ids ▸ unique.id, numbers ▸ unique.policyNumber⟩

theorem Unique.effect {store after : List Policy} {request : PasRequest} (unique : Unique store)
    (effect : Effect store request after) : Unique after := by
  cases effect with
  | unchanged => exact unique
  | moved => exact unique_congr unique (outline_restatus _ _)
  | @created req newId free fresh =>
      refine ⟨Db.nodup_snoc unique.id fun known => ?_, Db.nodup_snoc unique.policyNumber fun known => ?_⟩
      · obtain ⟨p, member, same⟩ := List.mem_map.mp known
        exact fresh p member same
      · obtain ⟨p, member, same⟩ := List.mem_map.mp known
        exact free p member same

theorem Unique.id_eq {store : List Policy} (unique : Unique store) {p p' : Policy} (member : p ∈ store)
    (member' : p' ∈ store) (same : p.id = p'.id) : p = p' :=
  List.inj_on_of_nodup_map unique.id member member' same

theorem Unique.number_eq {store : List Policy} (unique : Unique store) {p p' : Policy} (member : p ∈ store)
    (member' : p' ∈ store) (same : p.policyNumber = p'.policyNumber) : p = p' :=
  List.inj_on_of_nodup_map unique.policyNumber member member' same

def statusOf (store : List Policy) (id : String) : Option Status := (store.find? (·.id = id)).map (·.status)

theorem find?_restatus (f : Policy → Status) (store : List Policy) (id : String) :
    (restatus f store).find? (·.id = id) = (store.find? (·.id = id)).map fun p => { p with status := f p } := by
  rw [restatus, List.find?_map]
  rfl

theorem statusOf_moved (status : Status) {store : List Policy} {id : String} {p : Policy}
    (found : store.find? (·.id = id) = some p) : statusOf (restatus (moved id status) store) id = some status := by
  have same : p.id = id := by simpa using List.find?_some found
  simp only [statusOf, find?_restatus, found, Option.map_some, moved, same, ↓reduceIte]

/-- Nothing but an activate makes a policy active. -/
theorem next_active {status : Status} {action : String} (legal : status.next action = some .active) :
    action = "activate" := by
  simp only [Status.next] at legal
  split at legal
  · cases legal
  · split at legal
    · rename_i submitted
      exact submitted.2
    · cases legal

theorem Effect.active {store after : List Policy} {request : PasRequest} (effect : Effect store request after)
    {p' : Policy} (member : p' ∈ after) (active : p'.status = .active) :
    ∃ p ∈ store, p.outline = p'.outline ∧ (p.status = .active ∨ request = .transition p'.id "activate") := by
  cases effect with
  | unchanged => exact ⟨p', member, rfl, .inl active⟩
  | created =>
      rcases List.mem_append.mp member with old | new
      · exact ⟨p', old, rfl, .inl active⟩
      · rw [List.mem_singleton.mp new] at active
        cases active
  | @moved id action p status found legal =>
      obtain ⟨q, known, rfl⟩ := mem_restatus member
      refine ⟨q, known, rfl, ?_⟩
      by_cases same : q.id = id
      · have now : status = .active := by simpa only [Lifecycle.moved, same, ↓reduceIte] using active
        rw [now] at legal
        rw [next_active legal, ← same]
        exact .inr rfl
      · exact .inl (by simpa only [Lifecycle.moved, same, ↓reduceIte] using active)

theorem act_active {store : List Policy} {a : UserAct} {p' : Policy} (member : p' ∈ act store a)
    (active : p'.status = .active) : ∃ p ∈ store, p.outline = p'.outline ∧ p.status = .active := by
  cases a with
  | cancel id =>
      obtain ⟨q, known, rfl⟩ := mem_restatus member
      refine ⟨q, known, rfl, ?_⟩
      simp only [cancelled] at active
      split at active
      · cases active
      · exact active
  | suspend id =>
      obtain ⟨q, known, rfl⟩ := mem_restatus member
      refine ⟨q, known, rfl, ?_⟩
      simp only [suspended] at active
      split at active
      · cases active
      · exact active

/-- Only a submitted policy can be activated. -/
theorem next_activate (status : Status) :
    status.next "activate" = if status = .submitted then some .active else none := by
  cases status <;> rfl

/-- An error of the service is neither a success nor a 409. -/
theorem failed_untaken {paging : Paging} {store after : List Policy} {request : PasRequest} {newId : String}
    {applied : Bool} {response : Option PasResponse} {resp : PasResponse}
    (served : serve paging store request (.fail newId applied response) = some (.ok resp, after)) :
    resp.statusCode ∉ [200, 201, 409] := by
  simp only [serve] at served
  split at served
  · rename_i honest
    obtain ⟨x, -, same⟩ := Option.map_eq_some_iff.mp served
    cases response with
    | none => cases same
    | some error =>
        obtain rfl : error = resp := Except.ok.inj (Prod.ext_iff.mp same).1
        exact of_decide_eq_true honest
  · cases served

/-- An activate that the client takes for done has left the policy active exactly if
    it was submitted, or active already. -/
theorem activated_iff {paging : Paging} {store after : List Policy} {reaction : Reaction} {id : String}
    {resp : PasResponse} (served : serve paging store (.transition id "activate") reaction = some (.ok resp, after))
    (taken : resp.statusCode ∈ [200, 201, 409]) :
    statusOf after id = some .active ↔ statusOf store id = some .submitted ∨ statusOf store id = some .active := by
  cases reaction with
  | fail newId applied response => exact absurd taken (failed_untaken served)
  | serve newId =>
      simp only [serve, respond] at served
      cases found : store.find? (·.id = id) with
      | none =>
          simp only [found, Option.map_some] at served
          cases served
          simp [problem] at taken
      | some p =>
          have before : statusOf store id = some p.status := by rw [statusOf, found]; rfl
          simp only [found, next_activate] at served
          by_cases submitted : p.status = .submitted
          · simp only [submitted, ↓reduceIte, Option.map_some] at served
            cases served
            exact iff_of_true (statusOf_moved .active found) (.inl (before.trans (congrArg some submitted)))
          · simp only [submitted, ↓reduceIte, Option.map_some] at served
            cases served
            simp only [before, Option.some.injEq, submitted, false_or]

/-! ## The status of one policy -/

/-- One step along the lifecycle, the creation included. -/
inductive Advances : Option Status → Option Status → Prop where
  | created : Advances none (some .draft)
  | submitted : Advances (some .draft) (some .submitted)
  | activated : Advances (some .submitted) (some .active)

theorem next_advances {status status' : Status} {action : String} (legal : status.next action = some status') :
    Advances (some status) (some status') := by
  simp only [Status.next] at legal
  split at legal
  · rename_i draft
    cases legal
    rw [draft.1]
    exact .submitted
  · split at legal
    · rename_i submitted
      cases legal
      rw [submitted.1]
      exact .activated
    · cases legal

theorem statusOf_restatus (f : Policy → Status) (store : List Policy) (id : String) :
    statusOf (restatus f store) id = (store.find? (·.id = id)).map f := by
  rw [statusOf, find?_restatus, Option.map_map]
  rfl

/-- A request leaves the status of a policy alone or moves it one step along the lifecycle. -/
theorem Effect.status {store after : List Policy} {request : PasRequest} (effect : Effect store request after)
    (id : String) : statusOf after id = statusOf store id ∨ Advances (statusOf store id) (statusOf after id) := by
  cases effect with
  | unchanged => exact .inl rfl
  | @created req newId free fresh =>
      cases found : store.find? (·.id = id) with
      | some p => exact .inl (by simp only [statusOf, List.find?_append, found, Option.some_or])
      | none =>
          by_cases same : newId = id
          · subst same
            refine .inr ?_
            simp [statusOf, List.find?_append, found, Policy.ofRequest, Advances.created]
          · exact .inl (by simp [statusOf, List.find?_append, found, Policy.ofRequest, same])
  | @moved target action p status found legal =>
      by_cases same : target = id
      · subst same
        refine .inr ?_
        rw [statusOf_moved status found, statusOf, found]
        exact next_advances legal
      · refine .inl ?_
        rw [statusOf_restatus, statusOf]
        cases known : store.find? (·.id = id) with
        | none => rfl
        | some q =>
            have other : q.id ≠ target := by
              have named : q.id = id := by simpa using List.find?_some known
              exact fun eq => same (eq.symm.trans named)
            simp only [Option.map_some, Lifecycle.moved, if_neg other]

/-- The user cancels the policy, or suspends it while it is active. -/
def UserAct.Strikes (store : List Policy) (id : String) : UserAct → Prop
  | .cancel policyId => policyId = id ∧ statusOf store id ≠ none
  | .suspend policyId => policyId = id ∧ statusOf store id = some .active

/-- A policy that a user strikes is out of the lifecycle; any other keeps its status. -/
theorem act_status (store : List Policy) (a : UserAct) (id : String) :
    ¬a.Strikes store id ∧ statusOf (act store a) id = statusOf store id ∨
      a.Strikes store id ∧ statusOf (act store a) id ∈ [some .suspended, some .terminated] := by
  cases known : store.find? (·.id = id) with
  | none =>
      have before : statusOf store id = none := by rw [statusOf, known]; rfl
      refine .inl ⟨?_, ?_⟩
      · cases a <;> simp [UserAct.Strikes, before]
      · cases a <;> simp [act, statusOf_restatus, known, before]
  | some p =>
      have named : p.id = id := by simpa using List.find?_some known
      have before : statusOf store id = some p.status := by rw [statusOf, known]; rfl
      cases a with
      | cancel policyId =>
          by_cases same : id = policyId
          · subst same
            exact .inr ⟨⟨rfl, by simp [before]⟩, by simp [act, statusOf_restatus, known, cancelled, named]⟩
          · exact .inl ⟨fun struck => same struck.1.symm,
              by simp [act, statusOf_restatus, known, cancelled, named, same, before]⟩
      | suspend policyId =>
          by_cases struck : policyId = id ∧ p.status = .active
          · obtain ⟨rfl, active⟩ := struck
            exact .inr ⟨⟨rfl, by rw [before, active]⟩, by simp [act, statusOf_restatus, known, suspended, named, active]⟩
          · refine .inl ⟨fun strikes => struck ⟨strikes.1, Option.some.inj (before.symm.trans strikes.2)⟩, ?_⟩
            have kept : suspended policyId p = p.status := if_neg fun both => struck ⟨both.1.symm.trans named, both.2⟩
            rw [act, statusOf_restatus, known, Option.map_some, kept, before]

/-- A submit that the client takes for done has found the policy, and it is no draft any more. -/
theorem submit_taken {paging : Paging} {store after : List Policy} {reaction : Reaction} {id : String}
    {resp : PasResponse} (served : serve paging store (.transition id "submit") reaction = some (.ok resp, after))
    (taken : resp.statusCode ∈ [200, 201, 409]) : statusOf after id ∉ [none, some .draft] := by
  cases reaction with
  | fail newId applied response => exact absurd taken (failed_untaken served)
  | serve newId =>
      simp only [serve, respond] at served
      cases found : store.find? (·.id = id) with
      | none =>
          simp only [found, Option.map_some] at served
          cases served
          simp [problem] at taken
      | some p =>
          have before : statusOf store id = some p.status := by rw [statusOf, found]; rfl
          simp only [found] at served
          by_cases draft : p.status = .draft
          · simp only [draft, Status.next, and_self, ↓reduceIte, Option.map_some] at served
            cases served
            simp [statusOf_moved .submitted found]
          · have illegal : p.status.next "submit" = none := by simp [Status.next, draft]
            simp only [illegal, Option.map_some] at served
            cases served
            simp [before, draft]

/-- A policy that is past its draft stays past it. -/
theorem past_draft {status status' : Option Status} (fares : status' = status ∨ Advances status status')
    (past : status ∉ [none, some .draft]) : status' ∉ [none, some .draft] := by
  rcases fares with rfl | advances
  · exact past
  · cases advances with
    | created | submitted => simp at past
    | activated => simp

/-- Nothing in the lifecycle leads out of it or back into it. -/
theorem struck_iff {status status' : Option Status} (fares : status' = status ∨ Advances status status') :
    status' ∈ [some .suspended, some .terminated] ↔ status ∈ [some .suspended, some .terminated] := by
  rcases fares with rfl | advances
  · rfl
  · cases advances <;> simp

/-! ## What the client learns -/

theorem failed_unread {paging : Paging} {store after : List Policy} {request : PasRequest} {newId : String}
    {applied : Bool} {response : Option PasResponse} {resp : PasResponse}
    (served : serve paging store request (.fail newId applied response) = some (.ok resp, after)) :
    readCreated resp = .error (unexpected "create_policy" resp) := by
  have untaken := failed_untaken served
  rw [readCreated, if_neg, if_neg] <;> exact fun same => untaken (by simp [same])

/-- A create that is served stores the policy and returns it, or meets the number. -/
theorem create_served {paging : Paging} {store after : List Policy} {req : CreatePolicyRequest} {newId : String}
    {resp : PasResponse} (served : serve paging store (.create req) (.serve newId) = some (.ok resp, after)) :
    (readCreated resp = .ok (some (Policy.ofRequest req newId).ref) ∧ after = store ++ [.ofRequest req newId]) ∨
      readCreated resp = .ok none ∧ after = store ∧ ∃ p ∈ store, p.policyNumber = req.policyNumber := by
  simp only [serve, respond] at served
  split at served
  · rename_i taken
    cases served
    exact .inr ⟨rfl, rfl, taken⟩
  · split at served
    · cases served
    · cases served
      exact .inl ⟨rfl, rfl⟩

/-- A reference that a create returned is of the policy it has stored. -/
theorem created_ref {paging : Paging} {store after : List Policy} {req : CreatePolicyRequest} {reaction : Reaction}
    {resp : PasResponse} {ref : PolicyRef} (served : serve paging store (.create req) reaction = some (.ok resp, after))
    (read : readCreated resp = .ok (some ref)) :
    ∃ newId, after = store ++ [.ofRequest req newId] ∧ ref = (Policy.ofRequest req newId).ref := by
  cases reaction with
  | fail newId applied response => cases (failed_unread served).symm.trans read
  | serve newId =>
      rcases create_served served with ⟨created, stored⟩ | ⟨conflict, -⟩
      · cases created.symm.trans read
        exact ⟨newId, stored, rfl⟩
      · cases conflict.symm.trans read

/-- A policy that a create returned is a draft. -/
theorem created_status {paging : Paging} {store after : List Policy} {req : CreatePolicyRequest} {reaction : Reaction}
    {resp : PasResponse} {ref : PolicyRef} (served : serve paging store (.create req) reaction = some (.ok resp, after))
    (read : readCreated resp = .ok (some ref)) : statusOf after ref.id = some .draft := by
  obtain ⟨newId, grown, rfl⟩ := created_ref served read
  have effect := serve_effect served
  cases effect with
  | unchanged => simp at grown
  | @created _ newId' free fresh =>
      obtain rfl : newId' = newId := congrArg Policy.id (List.append_singleton_inj.mp grown).2
      have absent : store.find? (·.id = newId') = none := by
        simpa only [List.find?_eq_none, decide_eq_true_eq] using fresh
      change statusOf _ newId' = _
      rw [statusOf, List.find?_append, absent]
      simp [Policy.ofRequest]

/-- A create that the client takes for a repeat met a stored policy with the number. -/
theorem conflict_taken {paging : Paging} {store after : List Policy} {req : CreatePolicyRequest} {reaction : Reaction}
    {resp : PasResponse} (served : serve paging store (.create req) reaction = some (.ok resp, after))
    (read : readCreated resp = .ok none) : ∃ p ∈ store, p.policyNumber = req.policyNumber := by
  cases reaction with
  | fail newId applied response => cases (failed_unread served).symm.trans read
  | serve newId =>
      rcases create_served served with ⟨created, -⟩ | ⟨-, -, taken⟩
      · cases created.symm.trans read
      · exact taken

/-- An exact lookup that is served finds the policy with the number, if there is one. -/
theorem list_served {paging : Paging} (exact_paging : Exact paging) {store after : List Policy} {n newId : String}
    {resp : PasResponse} (served : serve paging store (.list n) (.serve newId) = some (.ok resp, after)) :
    readListed n resp = .ok ((store.find? (·.policyNumber = n)).map Policy.ref) ∧ after = store := by
  cases served
  rw [readListed_listing, exact_paging]
  exact ⟨rfl, rfl⟩

/-- A reference that an exact lookup returned is of the policy with the number. -/
theorem listed_ref {paging : Paging} (exact_paging : Exact paging) {store after : List Policy} {n : String}
    {reaction : Reaction} {resp : PasResponse} {ref : PolicyRef}
    (served : serve paging store (.list n) reaction = some (.ok resp, after))
    (read : readListed n resp = .ok (some ref)) : ∃ p ∈ store, p.policyNumber = n ∧ ref = p.ref := by
  cases reaction with
  | fail newId applied response =>
      have untaken := failed_untaken served
      have unread : readListed n resp = .ok none := by
        rw [readListed, if_pos]
        exact fun same => untaken (by simp [same])
      cases unread.symm.trans read
  | serve newId =>
      have found := Except.ok.inj ((list_served exact_paging served).1.symm.trans read)
      obtain ⟨p, listed, rfl⟩ := Option.map_eq_some_iff.mp found
      exact ⟨p, List.mem_of_find?_eq_some listed, by simpa using List.find?_some listed, rfl⟩

end Underwriting.Lifecycle
