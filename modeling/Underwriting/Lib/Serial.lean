import Underwriting.Lib.Interleave
import Underwriting.Lib.Lists

/-! # One request at a time

Runs in which a request starts only after the others have ended. An invariant of
such a run speaks of the world and of the one live thread; no step of another
thread has to be considered.
-/

namespace Interleaving

variable {Call : Type} {Reply : Call → Type} {Err Req World Session Fate Env K : Type}

/-- Nobody is under way. -/
def Quiet (C : Control Reply Err Req K) (s : Sys Reply Req World Session K) : Prop :=
  ∀ t ∈ s.threads, ¬ t.Live C

instance (C : Control Reply Err Req K) (s : Sys Reply Req World Session K) : Decidable (Quiet C s) :=
  inferInstanceAs (Decidable (∀ t ∈ s.threads, ¬ t.Live C))

/-- Two live threads are the same one. -/
def OneLive (C : Control Reply Err Req K) (s : Sys Reply Req World Session K) : Prop :=
  ∀ (i j : ℕ) (t u : Thread Reply Req Session K), s.threads[i]? = some t → s.threads[j]? = some u →
    t.Live C → u.Live C → i = j

/-- At most one thread is live, the world has `W`, and the live thread has `T`. -/
structure Serial (C : Control Reply Err Req K) (W : World → Prop) (T : World → Thread Reply Req Session K → Prop)
    (s : Sys Reply Req World Session K) : Prop where
  one : OneLive C s
  world : W s.world
  live : ∀ t ∈ s.threads, t.Live C → T s.world t

variable {B : Backend Reply Err World Session Fate Env} {C : Control Reply Err Req K} {W : World → Prop}
  {T : World → Thread Reply Req Session K → Prop} {s s' : Sys Reply Req World Session K} {choice : Choice Req Fate Env}

/-- While thread `i` moves, whatever else is live would be thread `i`. -/
theorem OneLive.eq_of_mem_set {i : ℕ} {t u v : Thread Reply Req Session K} (one : OneLive C s)
    (at_i : s.threads[i]? = some t) (live : t.Live C) (member : v ∈ s.threads.set i u) (alive : v.Live C) :
    v = u := by
  obtain ⟨j, at_j⟩ := List.getElem?_of_mem member
  rcases at_set at_j with ⟨-, same⟩ | ⟨other, old⟩
  · exact same
  · exact absurd (one i j t v at_i old live alive) other

theorem OneLive.set {i : ℕ} {t u : Thread Reply Req Session K} (one : OneLive C s) (at_i : s.threads[i]? = some t)
    (live : t.Live C) (world : World) : OneLive C ⟨world, s.threads.set i u⟩ := by
  have place : ∀ {j v}, (s.threads.set i u)[j]? = some v → v.Live C → i = j := by
    intro j v at_j alive
    rcases at_set at_j with ⟨same, -⟩ | ⟨-, old⟩
    · exact same
    · exact one i j t v at_i old live alive
  intro j k v v' at_j at_k alive alive'
  exact (place at_j alive).symm.trans (place at_k alive')

/-- The invariant rule of serial runs: requests start when it is quiet, and the
    steps of the one live thread and of the environment keep `W` and `T`. -/
theorem Serial.step (serial : Serial C W T s) (stepped : step B C s choice = some s')
    (quiet : ∀ req, choice = .start req → Quiet C s)
    (start : ∀ req, choice = .start req → T s.world ⟨req, C.start req, B.fresh, []⟩)
    (run : ∀ i fate t c rest answer world session, choice = .run i fate → t ∈ s.threads → T s.world t →
      C.next t.ctl = some ⟨c, rest⟩ → B.handle s.world t.session c fate = some (answer, world, session) →
        W world ∧ ((t.answered c rest answer session).Live C → T world (t.answered c rest answer session)))
    (env : ∀ e, W (B.disturb s.world e) ∧ ∀ t ∈ s.threads, T s.world t → T (B.disturb s.world e) t)
    (dead : C.next C.dead = none) : Serial C W T s' := by
  cases step_cases stepped with
  | start req =>
      have none_live := quiet req rfl
      have last : ∀ i t, (s.threads ++ [⟨req, C.start req, B.fresh, []⟩])[i]? = some t → t.Live C →
          i = s.threads.length := by
        intro i t at_i live
        rcases at_snoc at_i with old | ⟨same, -⟩
        · exact absurd live (none_live t (List.mem_of_getElem? old))
        · exact same
      refine ⟨fun i j t u at_i at_j live alive => ?_, serial.world, ?_⟩
      · exact (last i t at_i live).trans (last j u at_j alive).symm
      · apply Lists.forall_mem_snoc
        · exact fun t member live => absurd live (none_live t member)
        · exact fun _ => start req rfl
  | @run i fate t c rest answer world session at_i next handled =>
      have member := List.mem_of_getElem? at_i
      have live : t.Live C := by simp only [Thread.Live, next, Option.isSome_some]
      obtain ⟨kept, keeps⟩ :=
        run i fate t c rest answer world session rfl member (serial.live t member live) next handled
      refine ⟨serial.one.set at_i live world, kept, fun u mem alive => ?_⟩
      obtain rfl := serial.one.eq_of_mem_set at_i live mem alive
      exact keeps alive
  | @crash i t at_i live =>
      refine ⟨serial.one.set at_i live s.world, serial.world, fun u mem alive => ?_⟩
      obtain rfl := serial.one.eq_of_mem_set at_i live mem alive
      simp only [Thread.Live, Thread.died, dead, Option.isSome_none, Bool.false_eq_true] at alive
  | env e =>
      exact ⟨serial.one, (env e).1, fun t member live => (env e).2 t member (serial.live t member live)⟩

end Interleaving
