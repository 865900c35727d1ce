import Underwriting.Lib.Refine

/-! # Moments of a run

A run splits at each step that answers a call, and at the step that started a thread.
A record is never lost, each entry has the moment it was answered at, and a thread that
has ended stays as it is.
-/

namespace Interleaving

variable {Call : Type} {Reply : Call → Type} {Err Req World Session Fate Env K : Type}

/-- A run that splits at a step of thread `i` which answers its call `c`. -/
structure Moment (B : Backend Reply Err World Session Fate Env) (C : Control Reply Err Req K)
    (s₀ : Sys Reply Req World Session K) (i : ℕ) (c : Call) (s₁ s₂ s : Sys Reply Req World Session K) : Prop where
  before : Run B C anyStep s₀ s₁
  awaited : ∃ t, s₁.threads[i]? = some t ∧ t.awaits C = some c
  moved : ∃ fate, step B C s₁ (.run i fate) = some s₂
  after : Run B C anyStep s₂ s

variable {B : Backend Reply Err World Session Fate Env} {C : Control Reply Err Req K}
  {s₀ s s' : Sys Reply Req World Session K} {i : ℕ} {c : Call}

theorem Moment.later {s₁ s₂ choice} (moment : Moment B C s₀ i c s₁ s₂ s) (stepped : step B C s choice = some s') :
    Moment B C s₀ i c s₁ s₂ s' :=
  ⟨moment.before, moment.awaited, moment.moved, moment.after.tail trivial stepped⟩

/-- The image of a moment is a moment. -/
theorem Moment.map {K' : Type} {C' : Control Reply Err Req K'} (h : C.Hom C') {s₁ s₂}
    (moment : Moment B C s₀ i c s₁ s₂ s) : Moment B C' (s₀.map h.map) i c (s₁.map h.map) (s₂.map h.map) (s.map h.map) := by
  obtain ⟨before, ⟨t, at_i, awaits⟩, ⟨fate, moved⟩, after⟩ := moment
  refine ⟨before.map h fun _ _ _ => trivial, ⟨_, Sys.thread_map h.map at_i, ?_⟩, ⟨fate, ?_⟩,
    after.map h fun _ _ _ => trivial⟩
  · rw [Thread.awaits_map h, awaits]
  · rw [step_map h, moved, Option.map_some]

/-- Every thread has arrived at a step that started it. -/
theorem exists_arrival {ok} (run : Run B C ok s₀ s) {t : Thread Reply Req Session K} (at_i : s.threads[i]? = some t)
    (arrived : s₀.threads.length ≤ i) :
    ∃ s₁, Run B C ok s₀ s₁ ∧ s₁.threads.length = i ∧ ok s₁ (.start t.req) ∧ Run B C ok s₁ s := by
  induction run generalizing i t with
  | refl => exact absurd (List.getElem?_eq_some_iff.mp at_i).1 (Nat.not_lt.mpr arrived)
  | @tail s s' choice before allowed stepped ih =>
      refine threads_step_at (T := fun i t => s₀.threads.length ≤ i → ∃ s₁, Run B C ok s₀ s₁ ∧ s₁.threads.length = i ∧
        ok s₁ (.start t.req) ∧ Run B C ok s₁ s') stepped ?others ?start ?died ?moved i t at_i arrived
      case others =>
        intro j u at_j late
        obtain ⟨s₁, reached, place, started, rest⟩ := ih at_j late
        exact ⟨s₁, reached, place, started, rest.tail allowed stepped⟩
      case start =>
        rintro req rfl -
        exact ⟨s, before, rfl, allowed, .tail .refl allowed stepped⟩
      case died =>
        intro j u _ at_j _ late
        obtain ⟨s₁, reached, place, started, rest⟩ := ih at_j late
        exact ⟨s₁, reached, place, started, rest.tail allowed stepped⟩
      case moved =>
        intro j fate u c rest answer session _ at_j _ _ late
        obtain ⟨s₁, reached, place, started, after⟩ := ih at_j late
        exact ⟨s₁, reached, place, started, after.tail allowed stepped⟩

/-- What a thread that arrived has on record, it was answered at a moment since. -/
theorem exists_answer {ok} (run : Run B C ok s₀ s) {t : Thread Reply Req Session K} (at_i : s.threads[i]? = some t)
    (arrived : s₀.threads.length ≤ i) {entry : (c : Call) × Reply c} (member : entry ∈ t.log) :
    ∃ s₁ session fate world' session', Run B C ok s₀ s₁ ∧
      B.handle s₁.world session entry.1 fate = some (.ok entry.2, world', session') ∧ Run B C ok s₁ s := by
  induction run generalizing i t with
  | refl => exact absurd (List.getElem?_eq_some_iff.mp at_i).1 (Nat.not_lt.mpr arrived)
  | @tail s s' choice before allowed stepped ih =>
      have earlier : ∀ {j : ℕ} {u : Thread Reply Req Session K}, s.threads[j]? = some u → s₀.threads.length ≤ j →
          entry ∈ u.log → ∃ s₁ session fate world' session', Run B C ok s₀ s₁ ∧
            B.handle s₁.world session entry.1 fate = some (.ok entry.2, world', session') ∧ Run B C ok s₁ s' := by
        intro j u at_j late member
        obtain ⟨s₁, session, fate, world', session', reached, handled, rest⟩ := ih at_j late member
        exact ⟨s₁, session, fate, world', session', reached, handled, rest.tail allowed stepped⟩
      refine threads_step_at (T := fun i t => s₀.threads.length ≤ i → entry ∈ t.log →
        ∃ s₁ session fate world' session', Run B C ok s₀ s₁ ∧
          B.handle s₁.world session entry.1 fate = some (.ok entry.2, world', session') ∧ Run B C ok s₁ s')
        stepped (fun _ _ => earlier) ?start (fun _ _ _ at_j _ late member => earlier at_j late member) ?moved i t at_i
        arrived member
      case start => exact fun req _ _ member => nomatch member
      case moved =>
        intro j fate u c rest answer session _ at_j _ handled late member
        rcases Thread.mem_log_answered member with old | ⟨value, rfl, rfl⟩
        · exact earlier at_j late old
        · exact ⟨s, _, fate, _, session, before, handled, .tail .refl allowed stepped⟩

/-- What is on record stays on record. -/
theorem record_stays {ok} (run : Run B C ok s₀ s) (recorded : ∃ t, s₀.threads[i]? = some t ∧ c ∈ t.done) :
    ∃ t, s.threads[i]? = some t ∧ c ∈ t.done := by
  have replaced : ∀ {s : Sys Reply Req World Session K} {j u v}, (∃ t, s.threads[i]? = some t ∧ c ∈ t.done) →
      s.threads[j]? = some u → u.done ⊆ v.done → ∃ t, (s.threads.set j v)[i]? = some t ∧ c ∈ t.done := by
    rintro s j u v ⟨t, at_i, made⟩ at_j kept
    by_cases same : j = i
    · subst same
      obtain rfl := Option.some.inj (at_i.symm.trans at_j)
      exact ⟨v, set_at at_i v, kept made⟩
    · exact ⟨t, (List.getElem?_set_ne same).trans at_i, made⟩
  induction run with
  | refl => exact recorded
  | tail _ _ stepped ih =>
      cases step_cases stepped with
      | start req =>
          obtain ⟨t, at_i, made⟩ := ih
          exact ⟨t, (List.getElem?_append_left (List.getElem?_eq_some_iff.mp at_i).1).trans at_i, made⟩
      | run at_j next _ => exact replaced ih at_j (List.map_subset _ (Thread.log_answered ..))
      | crash at_j live => exact replaced ih at_j (List.Subset.refl _)
      | env e => exact ih

theorem ended_stays {ok} (run : Run B C ok s₀ s) {t : Thread Reply Req Session K} (at_i : s₀.threads[i]? = some t)
    (ended : ¬ t.Live C) : s.threads[i]? = some t := by
  have other : ∀ {s : Sys Reply Req World Session K} {j u v}, s.threads[i]? = some t → s.threads[j]? = some u →
      u.Live C → (s.threads.set j v)[i]? = some t := by
    intro s j u v at_i at_j live
    rw [List.getElem?_set_ne ?_]
    · exact at_i
    · rintro rfl
      obtain rfl := Option.some.inj (at_i.symm.trans at_j)
      exact ended live
  induction run with
  | refl => exact at_i
  | tail _ _ stepped ih =>
      cases step_cases stepped with
      | start req => exact (List.getElem?_append_left (List.getElem?_eq_some_iff.mp ih).1).trans ih
      | run at_j next _ => exact other ih at_j (by simp only [Thread.Live, next, Option.isSome_some])
      | crash at_j live => exact other ih at_j live
      | env e => exact ih

/-! ## Runs with their choices -/

/-- A run by the choices that were made, the last one at the end. -/
inductive Path (B : Backend Reply Err World Session Fate Env) (C : Control Reply Err Req K)
    (s₀ : Sys Reply Req World Session K) : List (Choice Req Fate Env) → Sys Reply Req World Session K → Prop where
  | refl : Path B C s₀ [] s₀
  | tail {choices s s' choice} : Path B C s₀ choices s → step B C s choice = some s' →
      Path B C s₀ (choices ++ [choice]) s'

variable {choices : List (Choice Req Fate Env)}

theorem Path.run (path : Path B C s₀ choices s) : Run B C anyStep s₀ s := by
  induction path with
  | refl => exact .refl
  | tail _ stepped ih => exact ih.tail trivial stepped

theorem Path.append {more : List (Choice Req Fate Env)} (path : Path B C s₀ choices s)
    (found : exec B C anyStep s more = some s') : Path B C s₀ (choices ++ more) s' := by
  induction more generalizing choices s with
  | nil =>
      obtain rfl : s = s' := by simpa only [exec, Option.some.injEq] using found
      rwa [List.append_nil]
  | cons choice rest ih =>
      simp only [exec, anyStep, ↓reduceIte] at found
      split at found
      · cases found
      · rename_i s₁ stepped
        rw [List.append_cons]
        exact ih (path.tail stepped) found

theorem Path.of_exec (found : exec B C anyStep s₀ choices = some s) : Path B C s₀ choices s :=
  Path.append .refl found

/-- Every path over the images is the image of a path. -/
theorem Path.lift {K' : Type} {C' : Control Reply Err Req K'} (h : C.Hom C') {s' : Sys Reply Req World Session K'}
    (path : Path B C' (s₀.map h.map) choices s') : ∃ s, Path B C s₀ choices s ∧ s' = s.map h.map := by
  induction path with
  | refl => exact ⟨s₀, .refl, rfl⟩
  | tail _ stepped ih =>
      obtain ⟨s, before, rfl⟩ := ih
      rw [step_map h] at stepped
      obtain ⟨t, moved, rfl⟩ := Option.map_eq_some_iff.mp stepped
      exact ⟨t, before.tail moved, rfl⟩

/-- A script in two parts around one step of a thread. -/
theorem exists_split (B : Backend Reply Err World Session Fate Env) (C : Control Reply Err Req K)
    (s₀ : Sys Reply Req World Session K) (first : List (Choice Req Fate Env)) (choice : Choice Req Fate Env)
    (second : List (Choice Req Fate Env)) (check : Sys Reply Req World Session K → Sys Reply Req World Session K →
      Sys Reply Req World Session K → Bool)
    (passes : ((exec B C anyStep s₀ first).any fun s₁ => (step B C s₁ choice).any fun s₂ =>
      (exec B C anyStep s₂ second).any fun s => check s₁ s₂ s) = true) :
    ∃ s₁ s₂ s, Run B C anyStep s₀ s₁ ∧ step B C s₁ choice = some s₂ ∧ Run B C anyStep s₂ s ∧
      check s₁ s₂ s = true := by
  obtain ⟨s₁, first, passes⟩ := (Option.any_eq_true _ _).mp passes
  obtain ⟨s₂, moved, passes⟩ := (Option.any_eq_true _ _).mp passes
  obtain ⟨s, second, passes⟩ := (Option.any_eq_true _ _).mp passes
  exact ⟨s₁, s₂, s, .of_exec first, moved, .of_exec second, passes⟩

end Interleaving
