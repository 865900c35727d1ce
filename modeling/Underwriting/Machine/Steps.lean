import Underwriting.Machine.Threads

/-! # Steps and runs of the service

Every thread of a run knows what its point says, and the committed rows change
in two ways only: one of the four write routes commits its transaction, or a new
version of a rule set is appended.
-/

namespace Underwriting

open Interleaving

variable {σ φ υ : Type}

abbrev ProgSys (σ : Type) := Sys Reply Request (World σ) Db (Program Answer)

/-- No request yet. -/
def idle {K : Type} (w : World σ) : Sys Reply Request (World σ) Db K := ⟨w, []⟩

/-- What is known of a thread. -/
structure Sound (db : Db) (t : PointThread) : Prop where
  kept : t.ctl.Kept db t.session
  request : t.ctl.Of t.req
  logged : t.ctl.logged ⊆ t.log
  uncommitted : .commit ∈ t.done → t.ctl.Closed

def AllSound (s : PointSys σ) : Prop := ∀ t ∈ s.threads, Sound s.world.db t

namespace Sound

variable {db db' : Db} {t : PointThread}

theorem start (db : Db) (req : Request) : Sound db ⟨req, points.start req, .empty, []⟩ := by
  refine ⟨?_, ?_, ?_, fun member => nomatch member⟩
  · cases req <;> exact ⟨trivial, .inr rfl⟩
  · cases req <;> rfl
  · cases req <;> exact fun _ member => nomatch member

theorem died (db : Db) (t : PointThread) : Sound db (t.died points.dead .empty) :=
  ⟨Phase.kept_ended _ _ _, trivial, (fun _ member => nomatch member), fun _ => trivial⟩

theorem grows (sound : Sound db t) (grown : db.Grows db') : Sound db' t :=
  ⟨⟨sound.kept.1.grows grown, sound.kept.2⟩, sound.request, sound.logged, sound.uncommitted⟩

/-- A thread with a call to make has exactly its point's rows in its transaction. -/
theorem session (sound : Sound db t) {n} (found : points.next t.ctl = some n) : t.session = t.ctl.pending := by
  rcases sound.kept.2 with ⟨r, ended⟩ | same
  · rw [ended] at found
    cases found
  · exact same

theorem answered {P : PasModel σ φ υ} {w w' : World σ} {c rest session' fate} {answer : Except PyErr (Reply c)}
    (sound : Sound w.db t) (found : points.next t.ctl = some ⟨c, rest⟩)
    (handled : Handled P w t.session c fate answer w' session') :
    Sound w'.db (t.answered c rest answer session') := by
  have leads := Phase.leads_next found answer
  refine ⟨?_, sound.request.next leads, ?_, ?_⟩
  · exact sound.kept.1.next leads (sound.session found ▸ handled)
  · have before := List.Subset.trans sound.logged (t.log_answered c rest answer session')
    change (rest answer).logged ⊆ _
    rcases Phase.logged_next leads with same | ⟨value, rfl, extended⟩ | dropped
    · rw [same]
      exact before
    · rw [extended]
      exact List.append_subset.mpr ⟨before, List.subset_append_right _ _⟩
    · rw [dropped]
      exact List.nil_subset _
  · intro member
    have closed := Phase.closed_next leads
    cases answer with
    | ok value =>
        rw [Thread.done_answered_ok] at member
        rcases List.mem_append.mp member with before | last
        · exact closed.1 (sound.uncommitted before)
        · exact closed.2 (List.mem_singleton.mp last).symm
    | error err => exact closed.1 (sound.uncommitted member)

end Sound

variable {P : PasModel σ φ υ} {s s' : PointSys σ} {choice : Choice Request (Fate φ) (Env υ)}

theorem step_grows (stepped : step (backend P) points s choice = some s') : s.world.db.Grows s'.world.db := by
  cases step_cases stepped with
  | start | crash => exact .refl _
  | run at_i next handled => exact (handle_cases handled).grows
  | env e => exact disturb_grows P s.world e

theorem AllSound.step (sound : AllSound s) (stepped : step (backend P) points s choice = some s') :
    AllSound s' := by
  have grown := step_grows stepped
  refine threads_step stepped (fun t member => (sound t member).grows grown) (fun req _ => .start _ req)
    (fun t _ => .died _ t) ?_
  intro i fate t c rest answer session _ at_i next handled
  exact (sound t (List.mem_of_getElem? at_i)).answered next (handle_cases handled)

theorem AllSound.idle (w : World σ) : AllSound (idle w : PointSys σ) := fun _ member => nomatch member

section Runs

variable {ok : PointSys σ → Choice Request (Fate φ) (Env υ) → Prop} {s₀ : PointSys σ}

theorem AllSound.run (run : Run (backend P) points ok s₀ s) (sound : AllSound s₀) : AllSound s :=
  run.invariant sound fun _ _ _ _ sound _ stepped => sound.step stepped

theorem run_grows (run : Run (backend P) points ok s₀ s) : s₀.world.db.Grows s.world.db := by
  induction run with
  | refl => exact .refl _
  | tail _ _ stepped ih => exact ih.trans (step_grows stepped)

end Runs

/-- What a step does to the committed rows. -/
inductive DbStep (s : PointSys σ) (choice : Choice Request (Fate φ) (Env υ)) (s' : PointSys σ) : Prop where
  | same (kept : s'.world.db = s.world.db)
  | commit {i t rest} (chosen : choice = .run i .commit) (at_i : s.threads[i]? = some t)
      (next : t.ctl.next = some ⟨.commit, rest⟩)
      (world : s'.world = { s.world with db := s.world.db ++ t.ctl.pending })
      (threads : s'.threads = s.threads.set i (t.answered .commit rest (.ok ()) .empty))
      (keyed : s'.world.db.Keyed)
  | rules {e} (rulesets rateTables) (chosen : choice = .env e)
      (world : s'.world = { s.world with db := s.world.db ++ { rulesets, rateTables } })
      (threads : s'.threads = s.threads) (keyed : s'.world.db.Keyed)

theorem db_step (sound : AllSound s) (stepped : step (backend P) points s choice = some s') :
    DbStep s choice s' := by
  cases step_cases stepped with
  | start | crash => exact .same rfl
  | run at_i next handled =>
      have session := (sound _ (List.mem_of_getElem? at_i)).session next
      cases handle_cases handled with
      | commit free => exact .commit rfl at_i next (session ▸ rfl) rfl free
      | _ => exact .same rfl
  | env e =>
      cases e with
      | ruleset new stamp =>
          by_cases free : (s.world.db ++ { rulesets := [⟨new, stamp⟩] }).Keyed
          · refine .rules [⟨new, stamp⟩] [] rfl ?_ rfl ?_
            · simp only [backend, disturb, free, ↓reduceIte]
            · simp only [backend, disturb, free, ↓reduceIte]
          · exact .same (by simp only [backend, disturb, free, ↓reduceIte])
      | rateTable new stamp =>
          by_cases free : (s.world.db ++ { rateTables := [⟨new, stamp⟩] }).Keyed
          · refine .rules [] [⟨new, stamp⟩] rfl ?_ rfl ?_
            · simp only [backend, disturb, free, ↓reduceIte]
            · simp only [backend, disturb, free, ↓reduceIte]
          · exact .same (by simp only [backend, disturb, free, ↓reduceIte])
      | pas act => exact .same rfl

/-- Unique constraints hold of the committed rows. -/
theorem keyed_step (sound : AllSound s) (keyed : s.world.db.Keyed)
    (stepped : step (backend P) points s choice = some s') : s'.world.db.Keyed := by
  cases db_step sound stepped with
  | same kept => exact kept ▸ keyed
  | commit _ _ _ _ _ keyed => exact keyed
  | rules _ _ _ _ _ keyed => exact keyed

section Invariants

variable {ok : PointSys σ → Choice Request (Fate φ) (Env υ) → Prop}

theorem keyed_run {s₀ : PointSys σ} (run : Run (backend P) points ok s₀ s) (sound : AllSound s₀)
    (keyed : s₀.world.db.Keyed) : s.world.db.Keyed :=
  run.invariant keyed fun _ _ _ before keyed _ stepped => keyed_step (.run before sound) keyed stepped

theorem keyed_empty : Db.empty.Keyed := by decide

theorem keyed_initial {pas : σ} (run : Run (backend P) points ok (idle (.initial pas)) s) : s.world.db.Keyed :=
  keyed_run run (.idle _) keyed_empty

/-- The invariant rule of the service: all threads are sound and the rows are keyed
    whenever a step is taken. -/
theorem points_invariant {w : World σ} {I : PointSys σ → Prop} (run : Run (backend P) points ok (idle w) s)
    (keyed : w.db.Keyed) (initial : I (idle w))
    (preserved : ∀ s choice s', AllSound s → s.world.db.Keyed → I s → ok s choice →
      step (backend P) points s choice = some s' → I s') : I s := by
  refine run.invariant initial fun s choice s' before held allowed stepped => ?_
  have sound : AllSound s := .run before (.idle w)
  exact preserved s choice s' sound (keyed_run before (.idle w) keyed) held allowed stepped

end Invariants

/-- A run of the routes is one of their points. -/
theorem lift_idle {ok : ProgSys σ → Choice Request (Fate φ) (Env υ) → Prop} {w : World σ} {s : ProgSys σ}
    (run : Run (backend P) requests ok (idle w) s) :
    ∃ s' : PointSys σ, Run (backend P) points (fun s choice => ok (s.map routes.map) choice) (idle w) s' ∧
      s = s'.map routes.map :=
  Run.lift routes run

/-- The four points that commit. -/
theorem Phase.commits_cases {ph : Phase} {rest} (next : ph.next = some ⟨.commit, rest⟩) :
    (∃ payload actor cp row entry, ph = .createCommit payload actor cp row entry) ∨
      (∃ file row entry, ph = .assessCommit file row entry) ∨
      (∃ file row entry, ph = .quoteCommit file row entry) ∨
      ∃ file request policy published row entry, ph = .bindCommit file request policy published row entry := by
  cases ph <;> cases next
  case createCommit => exact .inl ⟨_, _, _, _, _, rfl⟩
  case assessCommit => exact .inr (.inl ⟨_, _, _, rfl⟩)
  case quoteCommit => exact .inr (.inr (.inl ⟨_, _, _, rfl⟩))
  case bindCommit => exact .inr (.inr (.inr ⟨_, _, _, _, _, _, rfl⟩))

end Underwriting
