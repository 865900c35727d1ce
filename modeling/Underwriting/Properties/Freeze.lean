import Underwriting.Machine.Milestones
import Underwriting.Machine.Rows
import Underwriting.Machine.Scenario

/-! # Bound files under concurrency

A bind reads the latest decision and quote long before it commits, and an assess
or a quote reads its guard before it writes. A bound file is frozen in the runs
in which a bind commits only while both are still true: what it has read is the
last committed row, and nobody who found the submission unbound is under way.
-/

namespace Underwriting.Freeze

open Interleaving

/-- The last committed decision of the bound submission is accept, and its last
    committed quote is the bound one. -/
def Frozen (db : Db) (b : Binding) : Prop :=
  (∃ decision, (db.decisionsOf b.submissionId).getLast? = some decision ∧
      decision.outcome = Outcome.accept.value) ∧
    ∃ quote, (db.quotesOf b.submissionId).getLast? = some quote ∧ quote.id = b.quoteId

section Definitions

variable {σ φ υ : Type}

/-- Nobody who found the submission unbound is still to commit. -/
def NoWriter (s : ProgSys σ) (submissionId : String) : Prop :=
  ∀ u ∈ s.threads, u.req.underwritingOf = some submissionId → ¬ InFlight requests Call.isCheck u

/-- What a bind has read is still the last committed decision and quote. -/
def StillLast (db : Db) (submissionId : String) (t : Thread Reply Request Db (Program Answer)) : Prop :=
  (∀ d ∈ decisionsRead t, (db.decisionsOf submissionId).getLast?.map (·.id) = some d.id) ∧
    ∀ q ∈ quotesRead t, (db.quotesOf submissionId).getLast?.map (·.id) = some q.id

/-- A bind commits only while its reads hold and no writer is under way. -/
def Revalidated (s : ProgSys σ) : Choice Request (Fate φ) (Env υ) → Prop
  | .run i fate => fate.isCommit →
      ∀ t ∈ s.threads[i]?, ∀ sid ∈ t.req.bindOf, NoWriter s sid ∧ StillLast s.world.db sid t
  | .start _ | .crash _ | .env _ => True

instance (s : ProgSys σ) (sid : String) : Decidable (NoWriter s sid) :=
  inferInstanceAs (Decidable (∀ u ∈ s.threads, u.req.underwritingOf = some sid →
    ¬ InFlight requests Call.isCheck u))

instance (db : Db) (sid : String) (t : Thread Reply Request Db (Program Answer)) : Decidable (StillLast db sid t) :=
  inferInstanceAs (Decidable
    ((∀ d ∈ decisionsRead t, (db.decisionsOf sid).getLast?.map (·.id) = some d.id) ∧
      ∀ q ∈ quotesRead t, (db.quotesOf sid).getLast?.map (·.id) = some q.id))

instance (s : ProgSys σ) (choice : Choice Request (Fate φ) (Env υ)) : Decidable (Revalidated s choice) :=
  match choice with
  | .run i fate => inferInstanceAs (Decidable (fate.isCommit →
      ∀ t ∈ s.threads[i]?, ∀ sid ∈ t.req.bindOf, NoWriter s sid ∧ StillLast s.world.db sid t))
  | .start _ | .crash _ | .env _ => .isTrue trivial

end Definitions

variable {σ φ υ : Type} {P : PasModel σ φ υ} {s s' : PointSys σ} {choice : Choice Request (Fate φ) (Env υ)}

/-- Whoever has passed a guard has passed it of an unbound submission. -/
def Guarded (s : PointSys σ) : Prop :=
  ∀ t ∈ s.threads, ∀ sid, t.ctl.guarded = some sid → ¬ s.world.db.Bound sid

/-- Nobody has passed a guard of a bound submission. -/
theorem Guarded.free {sid : String} (guarded : Guarded s) (bound : s.world.db.Bound sid) :
    ∀ t ∈ s.threads, t.ctl.guarded ≠ some sid :=
  fun t member passed => guarded t member sid passed bound

/-- Only the commit of a bind binds, and then nobody has passed a guard of its submission. -/
theorem still_unbound (sound : AllSound s) (guarded : Guarded s)
    (allowed : Revalidated (s.map routes.map) choice) (stepped : step (backend P) points s choice = some s')
    {u : PointThread} (member : u ∈ s.threads) {sid : String} (passed : u.ctl.guarded = some sid) :
    ¬ s'.world.db.Bound sid := by
  have unbound := guarded u member sid passed
  cases db_step sound stepped with
  | same kept => rwa [kept]
  | rules rulesets rateTables chosen world threads keyed =>
      rw [world]
      simpa only [Db.Bound, Db.append_bindings, List.append_nil] using unbound
  | @commit i t rest chosen at_i next world threads keyed =>
      rw [world]
      rintro ⟨b, known, owner⟩
      rcases List.mem_append.mp known with old | new
      · exact unbound ⟨b, old, owner⟩
      · obtain ⟨file, request, policy, published, entry, phase⟩ := Phase.commits_binding next new
        have binding := sound t (List.mem_of_getElem? at_i)
        have fits := binding.kept.1
        have req := binding.request
        rw [phase] at fits req
        have bound : t.req.bindOf = some sid := by
          rw [show t.req = _ from req, ← owner, fits.1.1.owner fits.2.1]
          rfl
        subst chosen
        have quiet := (allowed rfl _ (Sys.thread_map routes.map at_i) sid bound).1
        refine quiet (u.map routes.map) (List.mem_map_of_mem member) ((sound u member).guarded_request passed) ?_
        exact inFlight_map.mpr ((sound u member).guarded_inFlight passed)

theorem guarded_step (sound : AllSound s) (guarded : Guarded s)
    (allowed : Revalidated (s.map routes.map) choice) (stepped : step (backend P) points s choice = some s') :
    Guarded s' := by
  refine threads_step stepped ?others ?start (fun _ _ _ passed => nomatch passed) ?moved
  case others => exact fun u member sid passed => still_unbound sound guarded allowed stepped member passed
  case start => exact fun req _ sid passed => by cases req <;> cases passed
  case moved =>
    intro i fate t c rest answer session _ at_i next handled
    exact unbound_next (guarded t (List.mem_of_getElem? at_i)) next (handle_cases handled)

/-- The rows a bind has read are the ones it has on record. -/
theorem bind_reads {db : Db} {t : PointThread} {file request policy published row entry} (sound : Sound db t)
    (phase : t.ctl = .bindCommit file request policy published row entry) :
    file.decision ∈ decisionsRead t ∧ file.quote ∈ quotesRead t := by
  refine ⟨sound.decision_read file.submissionId ?_, sound.quote_read file.submissionId ?_⟩ <;>
    simp [phase, Phase.logged, Phase.reads]

/-- A Binding that is committed while its reads hold is frozen from then on. -/
theorem frozen_commit {i : ℕ} {t : PointThread} {rest} (sound : AllSound s) (keyed : s.world.db.Keyed)
    (allowed : Revalidated (s.map routes.map) (.run i .commit : Choice Request (Fate φ) (Env υ)))
    (at_i : s.threads[i]? = some t) (next : t.ctl.next = some ⟨.commit, rest⟩) {b : Binding}
    (new : b ∈ t.ctl.pending.bindings) : Frozen (s.world.db ++ t.ctl.pending) b := by
  obtain ⟨file, request, policy, published, entry, phase⟩ := Phase.commits_binding next new
  have known := sound t (List.mem_of_getElem? at_i)
  have fits := known.kept.1
  have req := known.request
  rw [phase] at fits req
  obtain ⟨⟨read, -⟩, written, -⟩ := fits
  have bound : t.req.bindOf = some file.submissionId := congrArg Request.bindOf req
  obtain ⟨decisionRead, quoteRead⟩ := bind_reads known phase
  obtain ⟨decisions, quotes⟩ :=
    (allowed rfl _ (Sys.thread_map routes.map at_i) file.submissionId bound).2
  obtain ⟨decision, lastDecision, sameDecision⟩ := Option.map_eq_some_iff.mp (decisions _ decisionRead)
  obtain ⟨quote, lastQuote, sameQuote⟩ := Option.map_eq_some_iff.mp (quotes _ quoteRead)
  have stored := (Db.mem_decisionsOf.mp (List.mem_of_getLast? lastDecision)).1
  have exact_decision : decision = file.decision :=
    List.inj_on_of_nodup_map keyed.decisionId stored (Db.mem_decisionsOf.mp read.decision).1 sameDecision
  rw [Frozen, phase, read.owner written, congrArg NewBinding.quoteId written, Db.decisionsOf_append,
    Db.quotesOf_append]
  refine ⟨⟨decision, ?_, exact_decision ▸ read.accepted⟩, quote, ?_, sameQuote⟩
  · exact (congrArg List.getLast? (List.append_nil _)).trans lastDecision
  · exact (congrArg List.getLast? (List.append_nil _)).trans lastQuote

theorem frozen_step (sound : AllSound s) (keyed : s.world.db.Keyed) (guarded : Guarded s)
    (frozen : ∀ b ∈ s.world.db.bindings, Frozen s.world.db b) (allowed : Revalidated (s.map routes.map) choice)
    (stepped : step (backend P) points s choice = some s') :
    ∀ b ∈ s'.world.db.bindings, Frozen s'.world.db b := by
  have kept : ∀ b ∈ s.world.db.bindings, Frozen s'.world.db b := by
    intro b member
    obtain ⟨decisions, quotes⟩ := rows_kept sound stepped (guarded.free ⟨b, member, rfl⟩)
    simpa only [Frozen, decisions, quotes] using frozen b member
  intro b member
  cases db_step sound stepped with
  | same unchanged => exact kept b (unchanged ▸ member)
  | rules rulesets rateTables chosen world threads keyed =>
      rw [world] at member
      exact kept b ((List.mem_append.mp member).resolve_right fun new => nomatch new)
  | commit chosen at_i next world threads keyed' =>
      rw [world] at member
      rcases List.mem_append.mp member with old | new
      · exact kept b old
      · subst chosen
        rw [world]
        exact frozen_commit sound keyed allowed at_i next new

theorem frozen_run {pas : σ}
    (run : Run (backend P) points (fun s choice => Revalidated (s.map routes.map) choice) (idle (.initial pas)) s) :
    Guarded s ∧ ∀ b ∈ s.world.db.bindings, Frozen s.world.db b := by
  refine points_invariant (I := fun s => Guarded s ∧ ∀ b ∈ s.world.db.bindings, Frozen s.world.db b) run keyed_empty
    ⟨fun _ member => (nomatch member), fun _ member => nomatch member⟩ ?_
  intro s choice s' sound keyed ⟨guarded, frozen⟩ allowed stepped
  exact ⟨guarded_step sound guarded allowed stepped, frozen_step sound keyed guarded frozen allowed stepped⟩

/-- In runs whose binds commit only while their reads hold, no step adds a decision
    or a quote to a bound submission, and every bound submission is frozen. -/
theorem bound_files_frozen {pas : σ} {s : ProgSys σ}
    (run : Run (backend P) requests Revalidated (idle (.initial pas)) s) :
    (∀ (choice : Choice Request (Fate φ) (Env υ)) s', step (backend P) requests s choice = some s' →
      ∀ b ∈ s.world.db.bindings,
        s'.world.db.decisionsOf b.submissionId = s.world.db.decisionsOf b.submissionId ∧
          s'.world.db.quotesOf b.submissionId = s.world.db.quotesOf b.submissionId) ∧
      ∀ b ∈ s.world.db.bindings, Frozen s.world.db b := by
  obtain ⟨s, lifted, rfl⟩ := lift_idle run
  obtain ⟨guarded, frozen⟩ := frozen_run lifted
  refine ⟨fun choice s' stepped b member => ?_, frozen⟩
  obtain ⟨s', moved, rfl⟩ := Option.map_eq_some_iff.mp ((step_map routes s choice).symm.trans stepped)
  exact rows_kept (.run lifted (.idle _)) moved (guarded.free ⟨b, member, rfl⟩)

theorem bound_file_frozen : ∃ s, Run Scenario.service requests Revalidated Scenario.empty s ∧
    s.world.db.bindings.length = 1 ∧ ∀ b ∈ s.world.db.bindings, Frozen s.world.db b := by
  obtain ⟨s, run, one⟩ := exists_run Scenario.service requests Revalidated Scenario.empty Scenario.bound
    (fun s => s.world.db.bindings.length == 1) (by decide +kernel)
  exact ⟨s, run, by simpa using one, (bound_files_frozen run).2⟩

/-- A re-assess passes its guard, the submission is bound, and the re-assess commits
    a referral under a new ruleset. -/
def overtaken : Scenario.Script :=
  Scenario.quoted ++ [.start Scenario.assess] ++ Scenario.drive 3 [Scenario.read] ++
    [.start Scenario.bind] ++ Scenario.opening 4 30 ++ Scenario.effects 4 "p" ++ Scenario.recording 4 "b" 31 ++
    Scenario.closing 4 ++ [.env (.ruleset ⟨2, cautious⟩ ⟨"r2", 40⟩)] ++
    Scenario.drive 3 [Scenario.read, Scenario.read, Scenario.insert "d2" 41, Scenario.insert "assessed d2" 42,
      .commit, Scenario.read]
where
  cautious : Json := .obj [("allowed_lobs", .arr []), ("max_tiv_eur", .int 1)]

/-- Without that restriction a bound submission can end up referred. -/
theorem bound_file_reassessed : ¬ ∀ s, Run Scenario.service requests anyStep Scenario.empty s →
    ∀ b ∈ s.world.db.bindings, Frozen s.world.db b := by
  intro frozen
  obtain ⟨s, run, found⟩ := exists_run Scenario.service requests anyStep Scenario.empty overtaken
    (fun s => s.world.db.bindings.any fun b =>
      (s.world.db.decisionsOf b.submissionId).getLast?.any (·.outcome = "refer")) (by decide +kernel)
  obtain ⟨b, member, referred⟩ := List.any_eq_true.mp found
  obtain ⟨⟨decision, last, accepted⟩, -⟩ := frozen s run b member
  simp [last, accepted, Outcome.value] at referred

end Underwriting.Freeze
