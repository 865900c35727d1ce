import Mathlib.Algebra.BigOperators.Group.List.Basic
import Underwriting.Lib.Interleave

/-! # Conserved quantities

An account of the world that is always the sum of the threads' shares. It is enough
that a new thread has no share, that neither death nor the environment moves
anything, and that a call moves the account and its own thread's share by the same
amount.
-/

namespace Interleaving

variable {Call : Type} {Reply : Call → Type} {Err Req World Session Fate Env K : Type}
  {B : Backend Reply Err World Session Fate Env} {C : Control Reply Err Req K}
  {s s' : Sys Reply Req World Session K} {M : Type} [AddCancelCommMonoid M]

/-- What changes at one place changes the sum. -/
theorem sum_map_set {A : Type} (share : A → M) {l : List A} {i : ℕ} {a : A} (at_i : l[i]? = some a) (b : A) :
    ((l.set i b).map share).sum + share a = (l.map share).sum + share b := by
  induction l generalizing i with
  | nil => cases at_i
  | cons first rest ih =>
      cases i with
      | zero =>
          cases at_i
          simp only [List.set_cons_zero, List.map_cons, List.sum_cons]
          rw [add_right_comm, add_comm (share b), add_right_comm]
      | succ i => simp only [List.set_cons_succ, List.map_cons, List.sum_cons, add_assoc, ih at_i]

def Balanced (account : World → M) (share : Thread Reply Req Session K → M) (s : Sys Reply Req World Session K) :
    Prop :=
  account s.world = (s.threads.map share).sum

theorem balanced_step {account : World → M} {share : Thread Reply Req Session K → M} {choice}
    (balanced : Balanced account share s) (stepped : step B C s choice = some s')
    (start : ∀ req, share ⟨req, C.start req, B.fresh, []⟩ = 0)
    (died : ∀ t ∈ s.threads, share (t.died C.dead B.fresh) = share t)
    (disturbed : ∀ e, account (B.disturb s.world e) = account s.world)
    (moved : ∀ {fate t c rest answer world session}, t ∈ s.threads → C.next t.ctl = some ⟨c, rest⟩ →
      B.handle s.world t.session c fate = some (answer, world, session) →
        account world + share t = account s.world + share (t.answered c rest answer session)) :
    Balanced account share s' := by
  rw [Balanced] at balanced ⊢
  cases step_cases stepped with
  | start req => simp only [List.map_append, List.sum_append, List.map_singleton, List.sum_singleton, start, add_zero,
      balanced]
  | env e => exact (disturbed e).trans balanced
  | @crash i t at_i live =>
      have sum := sum_map_set share at_i (t.died C.dead B.fresh)
      rw [died t (List.mem_of_getElem? at_i)] at sum
      exact balanced.trans (add_right_cancel sum).symm
  | @run i fate t c rest answer world session at_i next handled =>
      have sum := sum_map_set share at_i (t.answered c rest answer session)
      have account := moved (List.mem_of_getElem? at_i) next handled
      rw [balanced, ← sum] at account
      exact add_right_cancel account

end Interleaving
