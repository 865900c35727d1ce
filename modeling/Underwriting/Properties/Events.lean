import Underwriting.Machine.Milestones
import Underwriting.Machine.Scenario

/-! # Bound-risk events

The event of a bind leaves before the Binding that suppresses a second one is
committed. A submission gets at most one event in the runs in which a bind
publishes only while no other has, and once it has published goes on to commit.
-/

namespace Underwriting.Events

open Interleaving

section Definitions

variable {σ φ υ : Type}

/-- The events delivered for a submission. -/
def eventsOf (w : World σ) (submissionId : String) : List BoundRiskEvent :=
  w.delivered.filter (·.submissionId = submissionId)

/-- The assumption on the publisher. -/
def HonestPublisher (_ : ProgSys σ) : Choice Request (Fate φ) (Env υ) → Prop
  | .run _ fate => fate.honest
  | .start _ | .crash _ | .env _ => True

/-- The submission has no Binding, and no bind of it is between its publish and its commit. -/
def Unpublished (s : ProgSys σ) (submissionId : String) : Prop :=
  ¬ s.world.db.Bound submissionId ∧
    ∀ u ∈ s.threads, u.req.bindOf = some submissionId → ¬ InFlight requests Call.isPublish u

/-- A bind publishes while nobody else has, and from then on neither dies nor fails
    before its commit is through. -/
def Careful (P : PasModel σ φ υ) (s : ProgSys σ) : Choice Request (Fate φ) (Env υ) → Prop
  | .run i fate =>
      (fate.published → ∀ t ∈ s.threads[i]?, ∀ sid ∈ t.req.bindOf, Unpublished s sid) ∧
        ∀ t ∈ s.threads[i]?, InFlight requests Call.isPublish t → fails (backend P) requests s i fate = false
  | .crash i => ∀ t ∈ s.threads[i]?, ¬ InFlight requests Call.isPublish t
  | .start _ | .env _ => True

instance (s : ProgSys σ) (choice : Choice Request (Fate φ) (Env υ)) : Decidable (HonestPublisher s choice) :=
  match choice with
  | .run _ fate => inferInstanceAs (Decidable (fate.honest = true))
  | .start _ | .crash _ | .env _ => .isTrue trivial

instance (s : ProgSys σ) (sid : String) : Decidable (Unpublished s sid) :=
  inferInstanceAs (Decidable (¬ s.world.db.Bound sid ∧
    ∀ u ∈ s.threads, u.req.bindOf = some sid → ¬ InFlight requests Call.isPublish u))

instance (P : PasModel σ φ υ) (s : ProgSys σ) (choice : Choice Request (Fate φ) (Env υ)) :
    Decidable (Careful P s choice) :=
  match choice with
  | .run i fate => inferInstanceAs (Decidable
      ((fate.published → ∀ t ∈ s.threads[i]?, ∀ sid ∈ t.req.bindOf, Unpublished s sid) ∧
        ∀ t ∈ s.threads[i]?, InFlight requests Call.isPublish t → fails (backend P) requests s i fate = false))
  | .crash i => inferInstanceAs (Decidable (∀ t ∈ s.threads[i]?, ¬ InFlight requests Call.isPublish t))
  | .start _ | .env _ => .isTrue trivial

end Definitions

variable {σ φ υ : Type} {P : PasModel σ φ υ} {s s' : PointSys σ} {choice : Choice Request (Fate φ) (Env υ)}
  {sid : String}

/-- An event of the submission is backed by its Binding, or by a bind that will commit it. -/
def Covered (s : PointSys σ) (submissionId : String) : Prop :=
  s.world.db.Bound submissionId ∨ ∃ t ∈ s.threads, t.ctl.published = some submissionId

theorem not_covered (sound : AllSound s) (unpublished : Unpublished (s.map routes.map) sid) : ¬ Covered s sid := by
  rintro (bound | ⟨t, member, published⟩)
  · exact unpublished.1 bound
  · have known := sound t member
    exact unpublished.2 (t.map routes.map) (List.mem_map_of_mem member) (known.published_request published)
      (inFlight_map.mpr (known.published_inFlight published))

/-- A bind that has published covers its submission until the Binding does. -/
theorem covered_run {i : ℕ} {fate : Fate φ} {t : PointThread} {c : Call} {rest answer} {world : World σ}
    {session : Db} (sound : AllSound s) (at_i : s.threads[i]? = some t) (next : points.next t.ctl = some ⟨c, rest⟩)
    (handled : (backend P).handle s.world t.session c fate = some (answer, world, session))
    (honoured : fails (backend P) points s i fate = false) (published : t.ctl.published = some sid) :
    Covered ⟨world, s.threads.set i (t.answered c rest answer session)⟩ sid := by
  have known := sound t (List.mem_of_getElem? at_i)
  obtain ⟨value, rfl⟩ := not_fails honoured at_i next handled
  rcases Phase.published_next next published value with onward | ⟨rfl, row, member, owner⟩
  · exact .inr ⟨_, List.mem_of_getElem? (set_at at_i _), onward⟩
  · have committing : Handled P s.world t.session .commit fate (.ok value) world session := handle_cases handled
    obtain ⟨rfl, -, -⟩ := committing.committed rfl
    rw [known.session next]
    exact .inl ⟨row, List.mem_append_right _ member, owner _ known.kept.1⟩

theorem covered_step (sound : AllSound s) (allowed : Careful P (s.map routes.map) choice)
    (stepped : step (backend P) points s choice = some s') (covered : Covered s sid) : Covered s' sid := by
  rcases covered with bound | ⟨t, member, published⟩
  · exact .inl (bound.grows (step_grows stepped))
  obtain ⟨k, at_k⟩ := List.getElem?_of_mem member
  have inFlight := inFlight_map.mpr ((sound t member).published_inFlight published)
  cases step_cases stepped with
  | start req => exact .inr ⟨t, List.mem_append_left _ member, published⟩
  | env e => exact .inr ⟨t, member, published⟩
  | @crash i u at_i live =>
      by_cases same : i = k
      · subst same
        exact absurd inFlight (allowed _ (Sys.thread_map routes.map at_k))
      · refine .inr ⟨t, List.mem_of_getElem? (i := k) ?_, published⟩
        rwa [List.getElem?_set_ne same]
  | @run i fate u c rest answer world session at_i next handled =>
      by_cases same : i = k
      · subst same
        obtain rfl := Option.some.inj (at_i.symm.trans at_k)
        have honoured := allowed.2 _ (Sys.thread_map routes.map at_i) inFlight
        rw [fails_map routes] at honoured
        exact covered_run sound at_i next handled honoured published
      · refine .inr ⟨t, List.mem_of_getElem? (i := k) ?_, published⟩
        rwa [List.getElem?_set_ne same]

/-- At most one event for every submission, and every event is covered. -/
def AtMostOnce (s : PointSys σ) : Prop :=
  ∀ sid, (eventsOf s.world sid).length ≤ 1 ∧ (eventsOf s.world sid ≠ [] → Covered s sid)

theorem eventsOf_append {w w' : World σ} {more : List BoundRiskEvent}
    (delivered : w'.delivered = w.delivered ++ more) (sid : String) :
    eventsOf w' sid = eventsOf w sid ++ more.filter (·.submissionId = sid) := by
  rw [eventsOf, delivered, List.filter_append]
  rfl

theorem once_step (sound : AllSound s) (once : AtMostOnce s) (honest : HonestPublisher (s.map routes.map) choice)
    (allowed : Careful P (s.map routes.map) choice) (stepped : step (backend P) points s choice = some s') :
    AtMostOnce s' := by
  have unchanged : ∀ sid, eventsOf s'.world sid = eventsOf s.world sid →
      (eventsOf s'.world sid).length ≤ 1 ∧ (eventsOf s'.world sid ≠ [] → Covered s' sid) := by
    intro sid same
    rw [same]
    exact ⟨(once sid).1, fun some => covered_step sound allowed stepped ((once sid).2 some)⟩
  have quiet : s'.world.delivered = s.world.delivered → AtMostOnce s' := fun same sid =>
    unchanged sid (by rw [eventsOf, same]; rfl)
  cases step_cases stepped with
  | start | crash => exact quiet rfl
  | env e => exact quiet (disturb_delivered P s.world e)
  | @run i fate t c rest answer world session at_i next handled =>
      rcases (handle_cases handled).delivered with same | ⟨event, copies, raised, rfl, rfl, delivered⟩
      · exact quiet same
      cases raised with
      | true =>
          obtain rfl : copies = 0 := by simpa [HonestPublisher, Fate.honest] using honest
          exact quiet (delivered.trans (List.append_nil _))
      | false =>
          obtain rfl : copies = 1 := by simpa [HonestPublisher, Fate.honest] using honest
          obtain ⟨bind, published⟩ := (sound t (List.mem_of_getElem? at_i)).publishes next
          intro sid
          by_cases own : event.submissionId = sid
          · -- nobody has published for it yet, and from now on this thread covers it
            subst own
            have free := allowed.1 rfl _ (Sys.thread_map routes.map at_i) event.submissionId bind
            have none_yet : eventsOf s.world event.submissionId = [] := by
              by_contra some
              exact not_covered sound free ((once _).2 some)
            obtain rfl : answer = .ok () := by cases handled; rfl
            refine ⟨?_, fun _ => .inr ⟨t.answered _ rest (.ok ()) session, ?_, published⟩⟩
            · rw [eventsOf_append delivered, none_yet]
              exact List.length_filter_le _ _
            · exact List.mem_of_getElem? (set_at at_i _)
          · refine unchanged sid ?_
            rw [eventsOf_append delivered]
            simp [own]

theorem once_run {pas : σ} (run : Run (backend P) points
      (fun s choice => HonestPublisher (s.map routes.map) choice ∧ Careful P (s.map routes.map) choice)
      (idle (.initial pas)) s) : AtMostOnce s := by
  refine points_invariant (I := AtMostOnce) run keyed_empty (fun sid => ⟨Nat.zero_le _, fun some => absurd rfl some⟩) ?_
  intro s choice s' sound _ once allowed stepped
  exact once_step sound once allowed.1 allowed.2 stepped

/-- With an honest publisher, in runs whose binds publish only while nobody else has
    and then go on to commit, every submission gets at most one event. -/
theorem at_most_one_event {pas : σ} {s : ProgSys σ}
    (run : Run (backend P) requests (fun s choice => HonestPublisher s choice ∧ Careful P s choice)
      (idle (.initial pas)) s) (sid : String) : (eventsOf s.world sid).length ≤ 1 := by
  obtain ⟨s, lifted, rfl⟩ := lift_idle run
  exact (once_run lifted sid).1

/-- The first attempt fails at its create, the second goes through. -/
def retried : Scenario.Script :=
  Scenario.quoted ++ [.start Scenario.bind] ++ Scenario.opening 3 30 ++ Scenario.drive 3 [.lost] ++
    [.start Scenario.bind] ++ Scenario.opening 4 40 ++ Scenario.effects 4 "p" ++ Scenario.recording 4 "b" 41 ++
    Scenario.closing 4

theorem retried_once : ∃ s, Run Scenario.service requests
      (fun s choice => HonestPublisher s choice ∧ Careful (Lifecycle.model Lifecycle.byNumber) s choice)
      Scenario.empty s ∧ (eventsOf s.world "s").length = 1 ∧ ∀ sid, (eventsOf s.world sid).length ≤ 1 := by
  obtain ⟨s, run, one⟩ := exists_run Scenario.service requests
    (fun s choice => HonestPublisher s choice ∧ Careful (Lifecycle.model Lifecycle.byNumber) s choice)
    Scenario.empty retried (fun s => (eventsOf s.world "s").length == 1) (by decide +kernel)
  exact ⟨s, run, by simpa using one, at_most_one_event run⟩

/-- The first attempt loses its commit, and the retry publishes again. -/
def republished : Scenario.Script :=
  Scenario.quoted ++ [.start Scenario.bind] ++ Scenario.opening 3 30 ++ Scenario.effects 3 "p" ++
    Scenario.recording 3 "b" 31 ++ Scenario.drive 3 [.lost] ++ [.start Scenario.bind] ++
    Scenario.opening 4 40 ++ Scenario.drive 4 [Scenario.served ""] ++ Scenario.effects 4 "" ++
    Scenario.recording 4 "b2" 41 ++ Scenario.closing 4

/-- Without that restriction a retried bind delivers a second event. -/
theorem two_events : ¬ ∀ s, Run Scenario.service requests HonestPublisher Scenario.empty s →
    ∀ sid, (eventsOf s.world sid).length ≤ 1 := by
  intro once
  obtain ⟨s, run, two⟩ := exists_run Scenario.service requests HonestPublisher Scenario.empty republished
    (fun s => (eventsOf s.world "s").length == 2) (by decide +kernel)
  have short := once s run "s"
  have long : (eventsOf s.world "s").length = 2 := by simpa using two
  omega

end Underwriting.Events
