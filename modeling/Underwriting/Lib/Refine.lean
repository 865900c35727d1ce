import Underwriting.Lib.Interleave

/-! # Two kinds of control states for one system

A map of control states which keeps the start, the dead state and the next call
carries every run of one system to a run of the other and back. Results about
runs of programs can so be proved on explicit program points.
-/

namespace Interleaving

variable {Call : Type} {Reply : Call → Type} {Err Req World Session Fate Env K K' : Type}

def Thread.map (f : K → K') (t : Thread Reply Req Session K) : Thread Reply Req Session K' :=
  ⟨t.req, f t.ctl, t.session, t.log⟩

def Sys.map (f : K → K') (s : Sys Reply Req World Session K) : Sys Reply Req World Session K' :=
  ⟨s.world, s.threads.map (Thread.map f)⟩

/-- Apply a map to the continuation of a next call. -/
def mapNext (f : K → K') (n : (c : Call) × (Except Err (Reply c) → K)) :
    (c : Call) × (Except Err (Reply c) → K') :=
  ⟨n.1, fun answer => f (n.2 answer)⟩

/-- A map of control states that commutes with everything a step looks at. -/
structure Control.Hom (C : Control Reply Err Req K) (C' : Control Reply Err Req K') where
  map : K → K'
  start : ∀ req, map (C.start req) = C'.start req
  next : ∀ k, C'.next (map k) = (C.next k).map (mapNext map)
  dead : map C.dead = C'.dead

variable {B : Backend Reply Err World Session Fate Env} {C : Control Reply Err Req K}
  {C' : Control Reply Err Req K'}

@[simp] theorem Thread.live_map (h : C.Hom C') (t : Thread Reply Req Session K) :
    (t.map h.map).Live C' ↔ t.Live C := by
  simp only [Thread.Live, Thread.map, h.next, Option.isSome_map]

@[simp] theorem Thread.awaits_map (h : C.Hom C') (t : Thread Reply Req Session K) :
    (t.map h.map).awaits C' = t.awaits C := by
  simp only [Thread.awaits, Thread.map, h.next, Option.map_map]
  rfl

theorem Thread.awaits_next (h : C.Hom C') {t : Thread Reply Req Session K} {c : Call}
    {rest : Except Err (Reply c) → K} (found : C.next t.ctl = some ⟨c, rest⟩) :
    (t.map h.map).awaits C' = some c := by
  rw [Thread.awaits_map h, Thread.awaits, found]
  rfl

theorem Sys.thread_map (f : K → K') {s : Sys Reply Req World Session K} {i : ℕ} {t : Thread Reply Req Session K}
    (at_i : s.threads[i]? = some t) : (s.map f).threads[i]? = some (t.map f) := by
  simp only [Sys.map, List.getElem?_map, at_i, Option.map_some]

theorem Sys.thread_of_map (f : K → K') {s : Sys Reply Req World Session K} {i : ℕ} {t : Thread Reply Req Session K'}
    (at_i : (s.map f).threads[i]? = some t) : ∃ u, s.threads[i]? = some u ∧ t = u.map f := by
  rw [Sys.map, List.getElem?_map] at at_i
  obtain ⟨u, at_i', rfl⟩ := Option.map_eq_some_iff.mp at_i
  exact ⟨u, at_i', rfl⟩

@[simp] theorem Thread.done_map (f : K → K') (t : Thread Reply Req Session K) : (t.map f).done = t.done := rfl

theorem step_map (h : C.Hom C') (s : Sys Reply Req World Session K) (choice : Choice Req Fate Env) :
    step B C' (s.map h.map) choice = (step B C s choice).map (Sys.map h.map) := by
  cases choice with
  | start req =>
      simp only [step, Sys.map, Option.map_some, List.map_append, List.map_cons, List.map_nil,
        Thread.map, h.start]
  | run i fate =>
      simp only [step, Sys.map, List.getElem?_map]
      cases s.threads[i]? with
      | none => rfl
      | some t =>
          simp only [Option.map_some, Thread.map, h.next]
          cases C.next t.ctl with
          | none => rfl
          | some n =>
              obtain ⟨c, rest⟩ := n
              simp only [Option.map_some, mapNext]
              cases B.handle s.world t.session c fate with
              | none => rfl
              | some result =>
                  simp only [Option.map_some, Sys.map, List.map_set, Thread.map, Thread.answered]
  | crash i =>
      simp only [step, Sys.map, List.getElem?_map]
      cases s.threads[i]? with
      | none => rfl
      | some t =>
          simp only [Option.map_some, Thread.map, h.next]
          cases C.next t.ctl with
          | none => rfl
          | some n => simp only [Option.map_some, Sys.map, List.map_set, Thread.map, Thread.died, h.dead]
  | env e => rfl

@[simp] theorem fails_map (h : C.Hom C') (s : Sys Reply Req World Session K) (i : Nat) (fate : Fate) :
    fails B C' (s.map h.map) i fate = fails B C s i fate := by
  simp only [fails, Sys.map, List.getElem?_map]
  cases s.threads[i]? with
  | none => rfl
  | some t =>
      simp only [Option.map_some, Thread.map, h.next]
      cases C.next t.ctl with
      | none => rfl
      | some n => rfl

/-- The image of a run is a run. -/
theorem Run.map (h : C.Hom C') {ok : Sys Reply Req World Session K → Choice Req Fate Env → Prop}
    {ok' : Sys Reply Req World Session K' → Choice Req Fate Env → Prop} {s₀ s : Sys Reply Req World Session K}
    (run : Run B C ok s₀ s) (weaker : ∀ s choice, ok s choice → ok' (s.map h.map) choice) :
    Run B C' ok' (s₀.map h.map) (s.map h.map) := by
  induction run with
  | refl => exact .refl
  | tail _ allowed stepped ih =>
      refine ih.tail (weaker _ _ allowed) ?_
      rw [step_map h, stepped, Option.map_some]

/-- Every run over the images is the image of a run. -/
theorem Run.lift (h : C.Hom C') {ok : Sys Reply Req World Session K' → Choice Req Fate Env → Prop}
    {s₀ : Sys Reply Req World Session K} {s' : Sys Reply Req World Session K'}
    (run : Run B C' ok (s₀.map h.map) s') :
    ∃ s, Run B C (fun s choice => ok (s.map h.map) choice) s₀ s ∧ s' = s.map h.map := by
  induction run with
  | refl => exact ⟨s₀, .refl, rfl⟩
  | tail _ allowed stepped ih =>
      obtain ⟨s, before, rfl⟩ := ih
      rw [step_map h] at stepped
      obtain ⟨t, moved, rfl⟩ := Option.map_eq_some_iff.mp stepped
      exact ⟨t, before.tail allowed moved, rfl⟩

end Interleaving
