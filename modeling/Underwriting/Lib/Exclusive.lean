import Underwriting.Lib.Interleave

/-! # Mutual exclusion

A thread may hold a resource. As long as a thread takes one only while no thread
holds it, no resource is held twice.
-/

namespace Interleaving

variable {Call : Type} {Reply : Call → Type} {Err Req World Session Fate Env K Resource : Type}

/-- Nothing is held by two threads. -/
def Exclusive (holds : Thread Reply Req Session K → Option Resource) (s : Sys Reply Req World Session K) : Prop :=
  ∀ (i j : ℕ) (t u : Thread Reply Req Session K) (r : Resource), s.threads[i]? = some t → s.threads[j]? = some u →
    holds t = some r → holds u = some r → i = j

variable {B : Backend Reply Err World Session Fate Env} {C : Control Reply Err Req K}
  {holds : Thread Reply Req Session K → Option Resource} {s s' : Sys Reply Req World Session K}
  {choice : Choice Req Fate Env}

theorem Exclusive.nil (world : World) : Exclusive holds ⟨world, []⟩ :=
  fun _ _ _ _ _ at_i => nomatch at_i

/-- One thread changes, and holds what it held or what nobody did. -/
theorem Exclusive.set {i : ℕ} {t u : Thread Reply Req Session K} (exclusive : Exclusive holds s)
    (at_i : s.threads[i]? = some t) (world : World)
    (taken : ∀ r, holds u = some r → holds t = some r ∨ ∀ v ∈ s.threads, holds v ≠ some r) :
    Exclusive holds ⟨world, s.threads.set i u⟩ := by
  have alone : ∀ {j v r}, s.threads[j]? = some v → holds v = some r → holds u = some r → i = j := by
    intro j v r at_j held both
    rcases taken r both with before | free
    · exact exclusive i j t v r at_i at_j before held
    · exact absurd held (free v (List.mem_of_getElem? at_j))
  intro j k v w r at_j at_k held both
  rcases at_set at_j with ⟨rfl, rfl⟩ | ⟨-, old⟩
  · rcases at_set at_k with ⟨same, -⟩ | ⟨-, other⟩
    · exact same
    · exact alone other both held
  · rcases at_set at_k with ⟨rfl, rfl⟩ | ⟨-, other⟩
    · exact (alone old held both).symm
    · exact exclusive j k v w r old other held both

/-- The rule of mutual exclusion. -/
theorem Exclusive.step (exclusive : Exclusive holds s) (stepped : step B C s choice = some s')
    (start : ∀ req, holds ⟨req, C.start req, B.fresh, []⟩ = none)
    (died : ∀ t : Thread Reply Req Session K, holds (t.died C.dead B.fresh) = none)
    (moved : ∀ {i fate t c rest answer session}, choice = .run i fate → s.threads[i]? = some t →
      C.next t.ctl = some ⟨c, rest⟩ → B.handle s.world t.session c fate = some (answer, s'.world, session) →
        ∀ r, holds (t.answered c rest answer session) = some r →
          holds t = some r ∨ ∀ u ∈ s.threads, holds u ≠ some r) :
    Exclusive holds s' := by
  cases step_cases stepped with
  | start req =>
      have old : ∀ {i : ℕ} {t : Thread Reply Req Session K} {r},
          (s.threads ++ [⟨req, C.start req, B.fresh, []⟩])[i]? = some t → holds t = some r →
            s.threads[i]? = some t := by
        intro i t r at_i held
        rcases at_snoc at_i with before | ⟨-, rfl⟩
        · exact before
        · cases (start req).symm.trans held
      intro i j t u r at_i at_j held both
      exact exclusive i j t u r (old at_i held) (old at_j both) held both
  | run at_i next handled => exact exclusive.set at_i _ (moved rfl at_i next handled)
  | @crash i t at_i live =>
      apply exclusive.set at_i
      intro r held
      cases (died t).symm.trans held
  | env e => exact exclusive

end Interleaving
