import Underwriting.Lib.History
import Underwriting.Machine.Policies
import Underwriting.Machine.Scenario

/-! # A Binding and its policy

A bind finds its policy by a create or by the lookup after a 409, submits it and
activates it; any 409 counts as a success. Whether the policy is active when the
activate call returns is settled by the status it was found with and by what the
users of the policy service do to it up to that call.
-/

namespace Underwriting.Activation

open Interleaving Lifecycle

/-- The calls that find a bind its policy. -/
inductive Finding : Call → Prop where
  | create (request) : Finding (.policyService (.create request))
  | list (policyNumber) : Finding (.policyService (.list policyNumber))

/-- The submit call for a policy. -/
def submit (policyId : String) : Call := .policyService (.transition policyId "submit")

/-- The activate call for a policy. -/
def activate (policyId : String) : Call := .policyService (.transition policyId "activate")

/-- The policy that a bind under way has found and not activated yet. -/
def pursued : Phase → Option String
  | .bindSubmit _ _ policy | .bindActivate _ _ policy => some policy.id
  | _ => none

/-- The policy that a bind under way has submitted and not activated yet. -/
def submitted : Phase → Option String
  | .bindActivate _ _ policy => some policy.id
  | _ => none

/-- The policy whose activation a bind under way counts on. -/
def activated : Phase → Option String
  | .bindPublish _ _ policy | .bindInsert _ _ policy _ | .bindAudit _ _ policy _ _
  | .bindCommit _ _ policy _ _ _ => some policy.id
  | _ => none

section Points

variable {ph ph' : Phase} {c : Call} {answer : Except PyErr (Reply c)} {id : String}

theorem pursued_next (leads : Phase.Leads ph c answer ph') (known : pursued ph' = some id) :
    pursued ph = some id ∨ Finding c ∧ ∃ file request policy, ph' = .bindSubmit file request policy ∧ policy.id = id := by
  cases leads with
  | bindCreate => exact .inr ⟨.create _, _, _, _, rfl, Option.some.inj known⟩
  | bindResolve => exact .inr ⟨.list _, _, _, _, rfl, Option.some.inj known⟩
  | bindSubmit => exact .inl known
  | _ => cases known

theorem activated_next (leads : Phase.Leads ph c answer ph') (known : activated ph' = some id) :
    activated ph = some id ∨ pursued ph = some id ∧ c = activate id := by
  cases leads with
  | bindActivate =>
      cases known
      exact .inr ⟨rfl, rfl⟩
  | ended | bindCommit => cases known
  | _ => exact .inl known

/-- A bind goes on to its activate only after a submit that was taken for done. -/
theorem submitted_next {paging : Paging} {w w' : World (List Policy)} {pending pending' : Db} {fate : Fate Reaction}
    (leads : Phase.Leads ph c answer ph') (known : submitted ph' = some id)
    (handled : Handled (model paging) w pending c fate answer w' pending') :
    statusOf w'.pas id ∉ [none, some .draft] := by
  cases leads with
  | bindSubmit read =>
      cases known
      rcases handled.served with ⟨failed, -, -⟩ | ⟨reaction, pas, -, served, rfl, -⟩
      · cases failed
      · exact submit_taken served (PolicyClient.transition_taken read)
  | _ => cases known

/-- Past its activate a request runs on only after a success or a 409. -/
theorem activate_taken {rest : Except PyErr PasResponse → Phase} (found : ph.next = some ⟨activate id, rest⟩)
    {answer : Except PyErr PasResponse} (live : (rest answer).next.isSome) :
    ∃ resp, answer = .ok resp ∧ resp.statusCode ∈ [200, 201, 409] := by
  obtain ⟨file, request, policy, rfl, rfl⟩ := Phase.activates found
  have leads := Phase.leads_next found answer
  generalize rest answer = ph' at leads live
  cases leads with
  | ended => cases live
  | bindActivate read => exact ⟨_, rfl, PolicyClient.transition_taken read⟩

end Points

/-- The Binding in a transaction is of the policy its bind has activated. -/
theorem inserted_binding {db : Db} {t : PointThread} (sound : Sound db t) (live : t.Live points) {row : Binding}
    (inserted : row ∈ t.session.bindings) : row.status = "bound" ∧ activated t.ctl = some row.pasPolicyId := by
  obtain ⟨n, next⟩ := Option.isSome_iff_exists.mp live
  have fits := sound.kept.1
  rw [sound.session next] at inserted
  cases phase : t.ctl <;> rw [phase] at inserted fits
  case bindAudit file request policy published written =>
    obtain rfl := List.mem_singleton.mp inserted
    exact ⟨congrArg NewBinding.status fits.2, congrArg some (congrArg NewBinding.pasPolicyId fits.2).symm⟩
  case bindCommit file request policy published written entry =>
    obtain rfl := List.mem_singleton.mp inserted
    exact ⟨congrArg NewBinding.status fits.2.1, congrArg some (congrArg NewBinding.pasPolicyId fits.2.1).symm⟩
  all_goals cases inserted

/-! ## Users of the policy service -/

/-- No user cancels the policy, or suspends it while it is active. -/
def Spares {K : Type} (policyId : String) (s : Sys Reply Request (World (List Policy)) Db K) :
    Choice Request (Fate Reaction) (Env UserAct) → Prop
  | .env (.pas a) => ¬a.Strikes s.world.pas policyId
  | _ => True

section Statuses

variable {paging : Paging} {K : Type} {C : Control Reply PyErr Request K}
  {s s' : Sys Reply Request (World (List Policy)) Db K} {id : String}

/-- A step that spares a policy keeps its status or moves it on; any other takes it out
    of the lifecycle. -/
theorem status_step {choice} (stepped : step (backend (model paging)) C s choice = some s') (id : String) :
    Spares id s choice ∧ (statusOf s'.world.pas id = statusOf s.world.pas id ∨
        Advances (statusOf s.world.pas id) (statusOf s'.world.pas id)) ∨
      ¬Spares id s choice ∧ statusOf s'.world.pas id ∈ [some .suspended, some .terminated] := by
  cases step_cases stepped with
  | start | crash => exact .inl ⟨trivial, .inl rfl⟩
  | run at_i next handled =>
      rcases (handle_cases handled).policies with same | ⟨request, reaction, given, rfl, rfl, served, -⟩
      · exact .inl ⟨trivial, .inl (by rw [same])⟩
      · exact .inl ⟨trivial, (serve_effect served).status id⟩
  | env e =>
      have disturbed := disturb_cases (model paging) s.world e
      cases e with
      | pas a =>
          rcases act_status s.world.pas a id with ⟨spared, kept⟩ | ⟨struck, fallen⟩
          · exact .inl ⟨spared, .inl kept⟩
          · exact .inr ⟨fun spares => spares struck, fallen⟩
      | ruleset new stamp | rateTable new stamp =>
          refine .inl ⟨trivial, .inl ?_⟩
          rcases disturbed with ⟨_, _, same⟩ | ⟨a, given, -⟩
          · exact show statusOf (disturb (model paging) s.world _).pas id = _ by rw [same]
          · cases given

/-- What no user touches stays in the lifecycle. -/
theorem spared_run (run : Run (backend (model paging)) C (Spares id) s s')
    (found : statusOf s.world.pas id ∉ [some .suspended, some .terminated]) :
    statusOf s'.world.pas id ∉ [some .suspended, some .terminated] := by
  refine run.invariant (I := fun s => statusOf s.world.pas id ∉ [some .suspended, some .terminated]) found ?_
  intro s choice s' _ within spares stepped
  rcases status_step stepped id with ⟨-, fares⟩ | ⟨struck, -⟩
  · exact fun fallen => within ((struck_iff fares).mp fallen)
  · exact absurd spares struck

/-- A policy that is in the lifecycle has never been taken out of it. -/
theorem run_spares (run : Run (backend (model paging)) C anyStep s s')
    (within : statusOf s'.world.pas id ∉ [some .suspended, some .terminated]) :
    statusOf s.world.pas id ∉ [some .suspended, some .terminated] ∧
      Run (backend (model paging)) C (Spares id) s s' := by
  induction run with
  | refl => exact ⟨within, .refl⟩
  | tail _ _ stepped ih =>
      rcases status_step stepped id with ⟨spares, fares⟩ | ⟨-, fallen⟩
      · obtain ⟨found, spared⟩ := ih fun fallen => within ((struck_iff fares).mpr fallen)
        exact ⟨found, spared.tail spares stepped⟩
      · exact absurd fallen within

end Statuses

section Submitted

variable {paging : Paging} {s s' : PointSys (List Policy)} {choice : Choice Request (Fate Reaction) (Env UserAct)}

/-- What a bind has submitted is stored, and no draft any more. -/
def Past (s : PointSys (List Policy)) (t : PointThread) : Prop :=
  ∀ id, submitted t.ctl = some id → statusOf s.world.pas id ∉ [none, some .draft]

theorem past_step (past : ∀ t ∈ s.threads, Past s t)
    (stepped : step (backend (model paging)) points s choice = some s') : ∀ t ∈ s'.threads, Past s' t := by
  refine threads_step stepped ?others ?start (fun _ _ _ known => nomatch known) ?moved
  case others =>
    intro t member id known
    rcases status_step stepped id with ⟨-, fares⟩ | ⟨-, fallen⟩
    · exact past_draft fares (past t member id known)
    · revert fallen
      cases statusOf s'.world.pas id with
      | none => simp
      | some status => cases status <;> simp
  case start => exact fun req _ id known => by cases req <;> cases known
  case moved =>
    intro i fate t c rest answer session _ at_i next handled id known
    exact submitted_next (Phase.leads_next next answer) known (handle_cases handled)

theorem past_run {ok} {w : World (List Policy)} (run : Run (backend (model paging)) points ok (idle w) s) :
    ∀ t ∈ s.threads, Past s t :=
  run.invariant (I := fun s => ∀ t ∈ s.threads, Past s t) (fun _ member => nomatch member)
    fun _ _ _ _ past _ stepped => past_step past stepped

/-- At a bind's activate call its policy is stored, and no draft any more. -/
theorem activating_past {store : List Policy} {s : ProgSys (List Policy)} {i : ℕ} {id : String}
    {t : Thread Reply Request Db (Program Answer)}
    (run : Run (backend (model paging)) requests anyStep (idle (.initial store)) s) (at_i : s.threads[i]? = some t)
    (awaits : t.awaits requests = some (activate id)) : statusOf s.world.pas id ∉ [none, some .draft] := by
  obtain ⟨p, lifted, rfl⟩ := lift_idle run
  obtain ⟨u, at_u, rfl⟩ := Sys.thread_of_map routes.map at_i
  rw [Thread.awaits_map routes] at awaits
  obtain ⟨⟨c, rest⟩, next, rfl⟩ := Option.map_eq_some_iff.mp awaits
  obtain ⟨file, request, policy, phase, named⟩ := Phase.activates next
  refine past_run lifted u (List.mem_of_getElem? at_u) id ?_
  rw [phase]
  exact congrArg some named

end Submitted

/-! ## The course of a bind -/

section Courses

variable {K : Type}

/-- The call that got thread `i` its policy is answered from `s₁` to `s₂`. -/
structure Found (paging : Paging) (store : List Policy) (C : Control Reply PyErr Request K) (i : ℕ)
    (policyId : String) (s₁ s₂ s : Sys Reply Request (World (List Policy)) Db K) : Prop where
  found : ∃ c, Finding c ∧ Moment (backend (model paging)) C (idle (.initial store)) i c s₁ s₂ s
  submitting : ∃ t, s₂.threads[i]? = some t ∧ t.awaits C = some (submit policyId)

/-- Thread `i` finds its policy from `s₁` to `s₂`, then submits it, and makes its activate call
    from `s₃` to `s₄`. -/
structure Course (paging : Paging) (store : List Policy) (C : Control Reply PyErr Request K) (i : ℕ)
    (policyId : String) (s₁ s₂ s₃ s₄ s : Sys Reply Request (World (List Policy)) Db K) : Prop where
  found : Found paging store C i policyId s₁ s₂ s
  activated : Moment (backend (model paging)) C s₂ i (activate policyId) s₃ s₄ s

/-- What is known of a bind's place in a run. -/
structure Traced (paging : Paging) (store : List Policy) (i : ℕ) (ph : Phase) (s : PointSys (List Policy)) :
    Prop where
  pursued : ∀ id, pursued ph = some id → ∃ s₁ s₂, Found paging store points i id s₁ s₂ s
  activated : ∀ id, activated ph = some id → ∃ s₁ s₂ s₃ s₄, Course paging store points i id s₁ s₂ s₃ s₄ s

variable {paging : Paging} {store : List Policy} {i : ℕ} {id : String}

theorem Found.later {C : Control Reply PyErr Request K} {s₁ s₂ s s' choice} (found : Found paging store C i id s₁ s₂ s)
    (stepped : step (backend (model paging)) C s choice = some s') : Found paging store C i id s₁ s₂ s' := by
  obtain ⟨⟨c, finding, moment⟩, submitting⟩ := found
  exact ⟨⟨c, finding, moment.later stepped⟩, submitting⟩

theorem Found.reached {C : Control Reply PyErr Request K} {s₁ s₂ s} (found : Found paging store C i id s₁ s₂ s) :
    Run (backend (model paging)) C anyStep (idle (.initial store)) s₂ ∧
      Run (backend (model paging)) C anyStep s₂ s := by
  obtain ⟨⟨c, -, moment⟩, -⟩ := found
  obtain ⟨fate, moved⟩ := moment.moved
  exact ⟨moment.before.tail trivial moved, moment.after⟩

theorem Traced.later {ph : Phase} {s s' : PointSys (List Policy)} {choice} (traced : Traced paging store i ph s)
    (stepped : step (backend (model paging)) points s choice = some s') : Traced paging store i ph s' := by
  refine ⟨fun id known => ?_, fun id known => ?_⟩
  · obtain ⟨s₁, s₂, found⟩ := traced.pursued id known
    exact ⟨s₁, s₂, found.later stepped⟩
  · obtain ⟨s₁, s₂, s₃, s₄, course⟩ := traced.activated id known
    exact ⟨s₁, s₂, s₃, s₄, course.found.later stepped, course.activated.later stepped⟩

/-- An answer that moves a bind on is the moment its place tells of. -/
theorem Traced.next {s s' : PointSys (List Policy)} {t : PointThread} {c : Call}
    {rest : Except PyErr (Reply c) → Phase} {answer : Except PyErr (Reply c)} {session : Db} {fate : Fate Reaction}
    (run : Run (backend (model paging)) points anyStep (idle (.initial store)) s)
    (traced : Traced paging store i t.ctl s) (at_i : s.threads[i]? = some t)
    (next : points.next t.ctl = some ⟨c, rest⟩)
    (stepped : step (backend (model paging)) points s (.run i fate) = some s')
    (placed : s'.threads[i]? = some (t.answered c rest answer session)) :
    Traced paging store i (rest answer) s' := by
  have leads := Phase.leads_next next answer
  have awaits : ∃ t, s.threads[i]? = some t ∧ t.awaits points = some c :=
    ⟨t, at_i, by rw [Thread.awaits, next, Option.map_some]⟩
  have later := traced.later stepped
  refine ⟨fun id known => ?_, fun id known => ?_⟩
  · rcases pursued_next leads known with before | ⟨finding, file, request, policy, submitting, rfl⟩
    · exact later.pursued id before
    · refine ⟨s, s', ⟨c, finding, run, awaits, ⟨fate, stepped⟩, .refl⟩, _, placed, ?_⟩
      change (rest answer).next.map Sigma.fst = _
      rw [submitting]
      rfl
  · rcases activated_next leads known with before | ⟨before, rfl⟩
    · exact later.activated id before
    · obtain ⟨s₁, s₂, found⟩ := traced.pursued id before
      exact ⟨s₁, s₂, s, s', found.later stepped, found.reached.2, awaits, ⟨fate, stepped⟩, .refl⟩

/-- Every bind's place in a run has its moments. -/
theorem traced_run {s : PointSys (List Policy)}
    (run : Run (backend (model paging)) points anyStep (idle (.initial store)) s) :
    ∀ i t, s.threads[i]? = some t → Traced paging store i t.ctl s := by
  induction run with
  | refl => exact fun i t at_i => nomatch at_i
  | @tail s s' choice before _ stepped ih =>
      intro i t at_i
      cases step_cases stepped with
      | start req =>
          rcases at_snoc at_i with old | ⟨-, rfl⟩
          · exact (ih i t old).later stepped
          · refine ⟨fun _ known => ?_, fun _ known => ?_⟩ <;> cases req <;> cases known
      | run at_j next handled =>
          rcases at_set at_i with ⟨rfl, rfl⟩ | ⟨-, old⟩
          · exact (ih _ _ at_j).next before at_j next stepped at_i
          · exact (ih i t old).later stepped
      | crash at_j live =>
          rcases at_set at_i with ⟨rfl, rfl⟩ | ⟨-, old⟩
          · refine ⟨fun _ known => ?_, fun _ known => ?_⟩ <;> cases known
          · exact (ih i t old).later stepped
      | env e => exact (ih i t at_i).later stepped

theorem Course.map {s₁ s₂ s₃ s₄ s : PointSys (List Policy)} (course : Course paging store points i id s₁ s₂ s₃ s₄ s) :
    Course paging store requests i id (s₁.map routes.map) (s₂.map routes.map) (s₃.map routes.map)
      (s₄.map routes.map) (s.map routes.map) := by
  obtain ⟨⟨⟨c, finding, moment⟩, t, at_i, awaits⟩, activated⟩ := course
  refine ⟨⟨⟨c, finding, moment.map routes⟩, _, Sys.thread_map routes.map at_i, ?_⟩, activated.map routes⟩
  rw [Thread.awaits_map routes, awaits]

end Courses

section Lifecycle

variable {paging : Paging} {store : List Policy} {i : ℕ} {s : ProgSys (List Policy)}
  {t : Thread Reply Request Db (Program Answer)}

/-- The run splits at the step in which thread `i` makes its activate call. -/
abbrev Activates (paging : Paging) (store : List Policy) (i : ℕ) (policyId : String)
    (s₁ s₂ s : ProgSys (List Policy)) : Prop :=
  Moment (backend (model paging)) requests (idle (.initial store)) i (activate policyId) s₁ s₂ s

/-- What one activate call does, of a thread that goes on. -/
theorem activate_step {p₁ p₂ p : PointSys (List Policy)} {u t : PointThread} {fate : Fate Reaction}
    {id : String} {ok} (at_u : p₁.threads[i]? = some u) (awaits : u.awaits points = some (activate id))
    (moved : step (backend (model paging)) points p₁ (.run i fate) = some p₂)
    (after : Run (backend (model paging)) points ok p₂ p) (at_t : p.threads[i]? = some t) (live : t.Live points) :
    statusOf p₂.world.pas id = some .active ↔
      statusOf p₁.world.pas id = some .submitted ∨ statusOf p₁.world.pas id = some .active := by
  cases step_cases moved with
  | @run _ _ v c rest answer world session at_v next handled =>
      obtain rfl := Option.some.inj (at_u.symm.trans at_v)
      obtain rfl : c = activate id := by
        rw [Thread.awaits, next] at awaits
        exact Option.some.inj awaits
      have onward : (rest answer).next.isSome := by
        by_contra ended
        have stuck := ended_stays after (set_at at_u _) ended
        obtain rfl := Option.some.inj (stuck.symm.trans at_t)
        exact ended live
      obtain ⟨resp, rfl, taken⟩ := activate_taken next onward
      have given : Handled (model paging) p₁.world u.session (activate id) fate (.ok resp) world session :=
        handle_cases handled
      rcases given.served with ⟨failed, -, -⟩ | ⟨reaction, pas, -, served, rfl, -⟩
      · cases failed
      · exact activated_iff served taken

/-- The same of the routes. -/
theorem activates_iff {s₃ s₄ : ProgSys (List Policy)} {id : String} (moment : Activates paging store i id s₃ s₄ s)
    (at_i : s.threads[i]? = some t) (live : t.Live requests) :
    statusOf s₄.world.pas id = some .active ↔
      statusOf s₃.world.pas id = some .submitted ∨ statusOf s₃.world.pas id = some .active := by
  obtain ⟨before, ⟨t₃, at₃, awaits⟩, ⟨fate, moved⟩, after⟩ := moment
  obtain ⟨p₃, -, rfl⟩ := lift_idle before
  obtain ⟨p₄, stepped, rfl⟩ := Option.map_eq_some_iff.mp ((step_map routes p₃ _).symm.trans moved)
  obtain ⟨p, lifted, rfl⟩ := Run.lift routes after
  obtain ⟨u, at_u, rfl⟩ := Sys.thread_of_map routes.map at₃
  obtain ⟨v, at_v, rfl⟩ := Sys.thread_of_map routes.map at_i
  exact activate_step at_u ((Thread.awaits_map routes u).symm.trans awaits) stepped lifted at_v
    ((Thread.live_map routes v).mp live)

/-- A Binding that a request has inserted is bound, and the request has activated its policy. -/
theorem inserted_made {row : Binding} (run : Run (backend (model paging)) requests anyStep (idle (.initial store)) s)
    (at_i : s.threads[i]? = some t) (live : t.Live requests) (inserted : row ∈ t.session.bindings) :
    row.status = "bound" ∧ ∃ s₁ s₂ s₃ s₄, Course paging store requests i row.pasPolicyId s₁ s₂ s₃ s₄ s := by
  obtain ⟨p, lifted, rfl⟩ := lift_idle run
  obtain ⟨u, at_u, rfl⟩ := Sys.thread_of_map routes.map at_i
  obtain ⟨bound, policy⟩ := inserted_binding (AllSound.run lifted (.idle _) u (List.mem_of_getElem? at_u))
    ((Thread.live_map routes u).mp live) inserted
  obtain ⟨s₁, s₂, s₃, s₄, course⟩ := (traced_run lifted i u at_u).activated _ policy
  exact ⟨bound, _, _, _, _, course.map⟩

/-- A bind that goes on has an active policy exactly if it found the policy in the
    lifecycle and no user has taken it out of there before the activate call. -/
theorem course_active_iff {s₁ s₂ s₃ s₄ : ProgSys (List Policy)} {id : String}
    (course : Course paging store requests i id s₁ s₂ s₃ s₄ s) (at_i : s.threads[i]? = some t)
    (live : t.Live requests) :
    statusOf s₄.world.pas id = some .active ↔
      statusOf s₂.world.pas id ∉ [some .suspended, some .terminated] ∧
        Run (backend (model paging)) requests (Spares id) s₂ s₃ := by
  obtain ⟨found, before, awaited, moved, after⟩ := course
  have reached := found.reached.1.trans before
  obtain ⟨t₃, at₃, awaits⟩ := awaited
  have past := activating_past reached at₃ awaits
  have within : (statusOf s₃.world.pas id = some .submitted ∨ statusOf s₃.world.pas id = some .active) ↔
      statusOf s₃.world.pas id ∉ [some .suspended, some .terminated] := by
    revert past
    cases statusOf s₃.world.pas id with
    | none => simp
    | some status => cases status <;> simp
  rw [activates_iff ⟨reached, ⟨t₃, at₃, awaits⟩, moved, after⟩ at_i live, within]
  constructor
  · exact run_spares before
  · rintro ⟨known, spared⟩
    exact spared_run spared known

/-- A policy that the bind's own create has made is found as a draft. -/
theorem created_found {p₁ p₂ : PointSys (List Policy)} {u v : PointThread} {fate : Fate Reaction}
    {request : CreatePolicyRequest} {id : String} (at_u : p₁.threads[i]? = some u)
    (awaits : u.awaits points = some (.policyService (.create request)))
    (moved : step (backend (model paging)) points p₁ (.run i fate) = some p₂) (at_v : p₂.threads[i]? = some v)
    (submitting : v.awaits points = some (submit id)) : statusOf p₂.world.pas id = some .draft := by
  cases step_cases moved with
  | @run _ _ w c rest answer world session at_w next handled =>
      obtain rfl := Option.some.inj (at_u.symm.trans at_w)
      obtain rfl : c = .policyService (.create request) := by
        rw [Thread.awaits, next] at awaits
        exact Option.some.inj awaits
      obtain rfl := Option.some.inj (at_v.symm.trans (set_at at_u _))
      obtain ⟨file, phase⟩ := Phase.creates next
      have leads := Phase.leads_next next answer
      change (rest answer).next.map Sigma.fst = _ at submitting
      rw [phase] at leads
      generalize rest answer = ph' at leads submitting
      cases leads with
      | ended | bindConflict => cases submitting
      | bindCreate read =>
          cases submitting
          rcases (handle_cases handled).served with ⟨failed, -, -⟩ | ⟨reaction, pas, -, served, rfl, -⟩
          · cases failed
          · exact created_status served read

/-- Where a bind's own create has made the policy, only a user can keep it from being active. -/
theorem created_active_iff {s₁ s₂ s₃ s₄ : ProgSys (List Policy)} {id : String} {request : CreatePolicyRequest}
    {t₁ : Thread Reply Request Db (Program Answer)} (course : Course paging store requests i id s₁ s₂ s₃ s₄ s)
    (at₁ : s₁.threads[i]? = some t₁) (creating : t₁.awaits requests = some (.policyService (.create request)))
    (at_i : s.threads[i]? = some t) (live : t.Live requests) :
    statusOf s₄.world.pas id = some .active ↔ Run (backend (model paging)) requests (Spares id) s₂ s₃ := by
  have draft : statusOf s₂.world.pas id = some .draft := by
    obtain ⟨⟨c, -, moment⟩, t₂, at₂, submitting⟩ := course.found
    obtain ⟨fate, moved⟩ := moment.moved
    obtain ⟨p₁, -, rfl⟩ := lift_idle moment.before
    obtain ⟨p₂, stepped, rfl⟩ := Option.map_eq_some_iff.mp ((step_map routes p₁ _).symm.trans moved)
    obtain ⟨u, at_u, rfl⟩ := Sys.thread_of_map routes.map at₁
    obtain ⟨v, at_v, rfl⟩ := Sys.thread_of_map routes.map at₂
    rw [Thread.awaits_map routes] at creating submitting
    exact created_found at_u creating stepped at_v submitting
  rw [course_active_iff course at_i live, draft]
  simp

/-- Whoever inserts a Binding has found its policy, submitted it and made one activate
    call; when that call returned the policy was active if and only if it was neither
    suspended nor terminated when it was found, and no user of the policy service cancelled
    it, or suspended it while active, before the call. -/
theorem binding_active_iff {row : Binding}
    (run : Run (backend (model paging)) requests anyStep (idle (.initial store)) s)
    (at_i : s.threads[i]? = some t) (live : t.Live requests) (inserted : row ∈ t.session.bindings) :
    row.status = "bound" ∧ (∃ s₁ s₂ s₃ s₄, Course paging store requests i row.pasPolicyId s₁ s₂ s₃ s₄ s) ∧
      ∀ s₁ s₂ s₃ s₄, Course paging store requests i row.pasPolicyId s₁ s₂ s₃ s₄ s →
        (statusOf s₄.world.pas row.pasPolicyId = some .active ↔
          statusOf s₂.world.pas row.pasPolicyId ∉ [some .suspended, some .terminated] ∧
            Run (backend (model paging)) requests (Spares row.pasPolicyId) s₂ s₃) := by
  obtain ⟨bound, made⟩ := inserted_made run at_i live inserted
  exact ⟨bound, made, fun _ _ _ _ course => course_active_iff course at_i live⟩

/-- A bind up to its commit. -/
def recorded : Scenario.Script :=
  Scenario.quoted ++ [.start Scenario.bind] ++ Scenario.opening 3 30 ++ Scenario.effects 3 "p" ++
    Scenario.recording 3 "b" 31

/-- Thread `i` has inserted a Binding for the policy. -/
def inserts (i : ℕ) (policyId : String) (s : ProgSys (List Policy)) : Bool :=
  s.threads[i]?.any fun t => decide (t.Live requests) && t.session.bindings.any (·.pasPolicyId = policyId)

theorem inserts_spec {i : ℕ} {policyId : String} {s : ProgSys (List Policy)} (found : inserts i policyId s = true) :
    ∃ t row, s.threads[i]? = some t ∧ t.Live requests ∧ row ∈ t.session.bindings ∧ row.pasPolicyId = policyId := by
  obtain ⟨t, at_i, found⟩ := (Option.any_eq_true _ _).mp found
  obtain ⟨live, found⟩ := Bool.and_eq_true_iff.mp found
  obtain ⟨row, member, same⟩ := List.any_eq_true.mp found
  exact ⟨t, row, at_i, of_decide_eq_true live, member, of_decide_eq_true same⟩

theorem binding_active_recorded : ∃ (s : ProgSys (List Policy)) (row : Binding), row.pasPolicyId = "p" ∧
    row.status = "bound" ∧ ∃ s₁ s₂ s₃ s₄, Course byNumber [] requests 3 "p" s₁ s₂ s₃ s₄ s ∧
      (statusOf s₄.world.pas "p" = some .active ↔
        statusOf s₂.world.pas "p" ∉ [some .suspended, some .terminated] ∧
          Run (backend (model byNumber)) requests (Spares "p") s₂ s₃) := by
  obtain ⟨s, run, found⟩ := exists_run Scenario.service requests anyStep Scenario.empty recorded (inserts 3 "p")
    (by decide +kernel)
  obtain ⟨t, row, at_i, live, inserted, policy⟩ := inserts_spec found
  obtain ⟨status, ⟨s₁, s₂, s₃, s₄, course⟩, settled⟩ := binding_active_iff run at_i live inserted
  rw [policy] at course settled
  exact ⟨s, row, policy, status, s₁, s₂, s₃, s₄, course, settled s₁ s₂ s₃ s₄ course⟩

/-- A bind dies after its create, the draft is cancelled, and a second bind runs up
    to its activate. -/
def cancelledDraft : Scenario.Script :=
  Scenario.quoted ++ [.start Scenario.bind] ++ Scenario.opening 3 30 ++
    Scenario.drive 3 [Scenario.served "p"] ++ [.crash 3, .env (.pas (.cancel "p")), .start Scenario.bind] ++
    Scenario.opening 4 40 ++ Scenario.drive 4 [Scenario.served "", Scenario.served "", Scenario.served ""]

/-- Thread `i` is about to make its activate call for the policy. -/
def activates (i : ℕ) (policyId : String) (s : ProgSys (List Policy)) : Bool :=
  s.threads[i]?.any fun t => match t.awaits requests with
    | some (.policyService (.transition id action)) => decide (id = policyId) && decide (action = "activate")
    | _ => false

theorem activates_spec {i : ℕ} {policyId : String} {s : ProgSys (List Policy)}
    (found : activates i policyId s = true) :
    ∃ t, s.threads[i]? = some t ∧ t.awaits requests = some (activate policyId) := by
  obtain ⟨t, at_i, found⟩ := (Option.any_eq_true _ _).mp found
  refine ⟨t, at_i, ?_⟩
  split at found
  · rename_i id action awaits
    obtain ⟨same, named⟩ := Bool.and_eq_true_iff.mp found
    rw [awaits, of_decide_eq_true same, of_decide_eq_true named, activate]
  · cases found

/-- A Binding can be inserted for a policy that was terminated all along. -/
theorem binding_of_terminated : ¬ ∀ s i t row, Run Scenario.service requests anyStep Scenario.empty s →
    s.threads[i]? = some t → t.Live requests → row ∈ t.session.bindings → row.status = "bound" →
      ∀ s₁ s₂, Activates byNumber [] i row.pasPolicyId s₁ s₂ s →
        statusOf s₂.world.pas row.pasPolicyId = some .active := by
  intro active
  obtain ⟨s₁, s₂, s, before, moved, after, checked⟩ := exists_split Scenario.service requests Scenario.empty
    cancelledDraft (.run 4 (Scenario.served "")) (Scenario.drive 4 [.publish 1 false] ++ Scenario.recording 4 "b" 41)
    (fun s₁ s₂ s => activates 4 "p" s₁ && decide (statusOf s₂.world.pas "p" = some .terminated) && inserts 4 "p" s)
    (by decide +kernel)
  obtain ⟨checked, inserting⟩ := Bool.and_eq_true_iff.mp checked
  obtain ⟨activating, terminated⟩ := Bool.and_eq_true_iff.mp checked
  obtain ⟨t, row, at_i, live, inserted, policy⟩ := inserts_spec inserting
  have run := (before.tail trivial moved).trans after
  have moment : Activates byNumber [] 4 "p" s₁ s₂ s := ⟨before, activates_spec activating, ⟨_, moved⟩, after⟩
  have claimed := active s 4 t row run at_i live inserted (inserted_made run at_i live inserted).1 s₁ s₂
    (policy.symm ▸ moment)
  rw [policy, of_decide_eq_true terminated] at claimed
  cases claimed

end Lifecycle

end Underwriting.Activation
