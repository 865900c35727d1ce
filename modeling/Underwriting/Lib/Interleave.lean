import Mathlib.Data.List.Basic
import Underwriting.Lib.Prog

/-! # Interleaved runs of requests

Requests run as threads over one shared world. A thread owns a private session
and makes one call at a time; calls of different threads interleave in any
order, and a thread may die before any of its calls. The control states of the
threads are abstract: programs are one kind, program points another, and a map
between two kinds which commutes with `next` carries runs to runs.
-/

namespace Interleaving

section Definitions

variable {Call : Type} (Reply : Call → Type) (Err Req World Session Fate Env K : Type)

/-- What the calls do. The environment picks a `Fate` for each call, and a fate
    that does not fit the call cannot happen. `disturb` is what the environment
    does on its own. -/
structure Backend where
  fresh : Session
  handle : World → Session → (c : Call) → Fate → Option (Except Err (Reply c) × World × Session)
  disturb : World → Env → World

/-- The control states of a thread: where a request starts, what a state does
    next, and where a thread that died is. -/
structure Control where
  start : Req → K
  next : K → Option ((c : Call) × (Except Err (Reply c) → K))
  dead : K

/-- One request under way (or ended, when its control state has no next call).
    `log` lists the calls that were answered without an exception, with their
    answers; no step looks at it. -/
structure Thread where
  req : Req
  ctl : K
  session : Session
  log : List ((c : Call) × Reply c)

/-- All threads, ended ones included, over the shared world. -/
structure Sys where
  world : World
  threads : List (Thread Reply Req Session K)

/-- What the scheduler may choose. -/
inductive Choice where
  | start (req : Req)
  | run (i : Nat) (fate : Fate)
  | crash (i : Nat)
  | env (e : Env)

end Definitions

/-! ## Places of a list -/

section Places

variable {α : Type} {l : List α} {a b : α} {i j : ℕ}

/-- What stands at a place of a changed list. -/
theorem at_set (found : (l.set j b)[i]? = some a) : j = i ∧ a = b ∨ j ≠ i ∧ l[i]? = some a := by
  by_cases same : j = i
  · subst same
    have inside : j < l.length := by
      have bound := (List.getElem?_eq_some_iff.mp found).1
      rwa [List.length_set] at bound
    rw [List.getElem?_set_self inside] at found
    exact .inl ⟨rfl, (Option.some.inj found).symm⟩
  · rw [List.getElem?_set_ne same] at found
    exact .inr ⟨same, found⟩

theorem set_at (found : l[i]? = some a) (b : α) : (l.set i b)[i]? = some b :=
  List.getElem?_set_self (List.getElem?_eq_some_iff.mp found).1

/-- What stands at a place of a list with one more member. -/
theorem at_snoc (found : (l ++ [b])[i]? = some a) : l[i]? = some a ∨ i = l.length ∧ a = b := by
  by_cases inside : i < l.length
  · rw [List.getElem?_append_left inside] at found
    exact .inl found
  · have last : i = l.length := by
      have bound := (List.getElem?_eq_some_iff.mp found).1
      rw [List.length_append, List.length_singleton] at bound
      omega
    rw [last, List.getElem?_append_right (Nat.le_refl _), Nat.sub_self] at found
    exact .inr ⟨last, (Option.some.inj found).symm⟩

end Places

/-! ## Threads and steps -/

variable {Call : Type} {Reply : Call → Type} {Err Req World Session Fate Env K : Type}

namespace Thread

/-- The thread still has a call to make. -/
def Live (C : Control Reply Err Req K) (t : Thread Reply Req Session K) : Prop := (C.next t.ctl).isSome

instance (C : Control Reply Err Req K) (t : Thread Reply Req Session K) : Decidable (t.Live C) :=
  inferInstanceAs (Decidable ((C.next t.ctl).isSome = true))

/-- The calls that were answered. -/
def done (t : Thread Reply Req Session K) : List Call := t.log.map Sigma.fst

/-- The call a thread makes next. -/
def awaits (C : Control Reply Err Req K) (t : Thread Reply Req Session K) : Option Call :=
  (C.next t.ctl).map Sigma.fst

/-- The thread after the answer to its call `c`. -/
def answered (t : Thread Reply Req Session K) (c : Call) (rest : Except Err (Reply c) → K)
    (answer : Except Err (Reply c)) (session : Session) : Thread Reply Req Session K where
  req := t.req
  ctl := rest answer
  session := session
  log := match answer with
    | .ok value => t.log ++ [⟨c, value⟩]
    | .error _ => t.log

@[simp] theorem done_answered_ok (t : Thread Reply Req Session K) (c : Call) (rest : Except Err (Reply c) → K)
    (value : Reply c) (session : Session) : (t.answered c rest (.ok value) session).done = t.done ++ [c] :=
  List.map_append

theorem done_answered (t : Thread Reply Req Session K) (c : Call) (rest : Except Err (Reply c) → K)
    (answer : Except Err (Reply c)) (session : Session) :
    (t.answered c rest answer session).done = t.done ++ if answer.toBool then [c] else [] := by
  cases answer with
  | ok value => exact List.map_append
  | error err => exact (List.append_nil _).symm

theorem log_answered (t : Thread Reply Req Session K) (c : Call) (rest : Except Err (Reply c) → K)
    (answer : Except Err (Reply c)) (session : Session) : t.log ⊆ (t.answered c rest answer session).log := by
  cases answer with
  | ok value => exact List.subset_append_left _ _
  | error err => exact List.Subset.refl _

/-- What is on record after an answer was there before, or is that answer. -/
theorem mem_log_answered {t : Thread Reply Req Session K} {c : Call} {rest : Except Err (Reply c) → K}
    {answer : Except Err (Reply c)} {session : Session} {entry : (c : Call) × Reply c}
    (member : entry ∈ (t.answered c rest answer session).log) :
    entry ∈ t.log ∨ ∃ value, answer = .ok value ∧ entry = ⟨c, value⟩ := by
  cases answer with
  | ok value =>
      rcases List.mem_append.mp member with old | new
      · exact .inl old
      · exact .inr ⟨value, rfl, List.mem_singleton.mp new⟩
  | error err => exact .inl member

/-- The thread of a process that died: its transaction is gone. -/
def died (t : Thread Reply Req Session K) (dead : K) (fresh : Session) : Thread Reply Req Session K :=
  { t with ctl := dead, session := fresh }

end Thread

/-- One step of the system; `none` where the choice is not enabled. -/
def step (B : Backend Reply Err World Session Fate Env) (C : Control Reply Err Req K)
    (s : Sys Reply Req World Session K) : Choice Req Fate Env → Option (Sys Reply Req World Session K)
  | .start req =>
      some ⟨s.world, s.threads ++ [⟨req, C.start req, B.fresh, []⟩]⟩
  | .run i fate =>
      match s.threads[i]? with
      | none => none
      | some t =>
          match C.next t.ctl with
          | none => none
          | some ⟨c, rest⟩ =>
              match B.handle s.world t.session c fate with
              | none => none
              | some (answer, world, session) =>
                  some ⟨world, s.threads.set i (t.answered c rest answer session)⟩
  | .crash i =>
      match s.threads[i]? with
      | none => none
      | some t =>
          match C.next t.ctl with
          | none => none
          | some _ => some ⟨s.world, s.threads.set i (t.died C.dead B.fresh)⟩
  | .env e => some ⟨B.disturb s.world e, s.threads⟩

/-- The next call of thread `i` would be answered with an exception. -/
def fails (B : Backend Reply Err World Session Fate Env) (C : Control Reply Err Req K)
    (s : Sys Reply Req World Session K) (i : Nat) (fate : Fate) : Bool :=
  match s.threads[i]? with
  | none => false
  | some t =>
      match C.next t.ctl with
      | none => false
      | some ⟨c, _⟩ =>
          match B.handle s.world t.session c fate with
          | some (.error _, _, _) => true
          | _ => false

/-- Follow a list of choices, as long as each meets `ok`. -/
def exec (B : Backend Reply Err World Session Fate Env) (C : Control Reply Err Req K)
    (ok : Sys Reply Req World Session K → Choice Req Fate Env → Prop) [∀ s choice, Decidable (ok s choice)] :
    Sys Reply Req World Session K → List (Choice Req Fate Env) → Option (Sys Reply Req World Session K)
  | s, [] => some s
  | s, choice :: rest =>
      if ok s choice then
        match step B C s choice with
        | none => none
        | some s' => exec B C ok s' rest
      else none

/-- The states reached from `s₀` by runs all of whose steps meet `ok`. -/
inductive Run (B : Backend Reply Err World Session Fate Env) (C : Control Reply Err Req K)
    (ok : Sys Reply Req World Session K → Choice Req Fate Env → Prop) (s₀ : Sys Reply Req World Session K) :
    Sys Reply Req World Session K → Prop where
  | refl : Run B C ok s₀ s₀
  | tail {s s' choice} : Run B C ok s₀ s → ok s choice → step B C s choice = some s' → Run B C ok s₀ s'

/-- No restriction on the steps. -/
def anyStep (_ : Sys Reply Req World Session K) (_ : Choice Req Fate Env) : Prop := True

instance (s : Sys Reply Req World Session K) (choice : Choice Req Fate Env) : Decidable (anyStep s choice) :=
  .isTrue trivial

variable {B : Backend Reply Err World Session Fate Env} {C : Control Reply Err Req K}
  {ok : Sys Reply Req World Session K → Choice Req Fate Env → Prop} {s₀ s s' : Sys Reply Req World Session K}

/-- The invariant rule, with every step's condition at hand. -/
theorem Run.invariant {I : Sys Reply Req World Session K → Prop} (run : Run B C ok s₀ s) (initial : I s₀)
    (preserved : ∀ s choice s', Run B C ok s₀ s → I s → ok s choice → step B C s choice = some s' → I s') :
    I s := by
  induction run with
  | refl => exact initial
  | tail before allowed stepped ih => exact preserved _ _ _ before ih allowed stepped

theorem Run.trans {s₁ s₂} (first : Run B C ok s₀ s₁) (second : Run B C ok s₁ s₂) : Run B C ok s₀ s₂ := by
  induction second with
  | refl => exact first
  | tail _ allowed stepped ih => exact ih.tail allowed stepped

theorem Run.imp {ok' : Sys Reply Req World Session K → Choice Req Fate Env → Prop} (run : Run B C ok s₀ s)
    (weaker : ∀ s choice, ok s choice → ok' s choice) : Run B C ok' s₀ s := by
  induction run with
  | refl => exact .refl
  | tail _ allowed stepped ih => exact ih.tail (weaker _ _ allowed) stepped

theorem Run.of_exec [∀ s choice, Decidable (ok s choice)] {choices} (found : exec B C ok s₀ choices = some s) :
    Run B C ok s₀ s := by
  induction choices generalizing s₀ with
  | nil =>
      obtain rfl : s₀ = s := by simpa only [exec, Option.some.injEq] using found
      exact .refl
  | cons choice rest ih =>
      simp only [exec] at found
      split at found
      · rename_i allowed
        split at found
        · cases found
        · rename_i s₁ stepped
          exact (Run.tail .refl allowed stepped).trans (ih found)
      · cases found

/-- A script that ends in a state with some property is a run to such a state. -/
theorem exists_run (B : Backend Reply Err World Session Fate Env) (C : Control Reply Err Req K)
    (ok : Sys Reply Req World Session K → Choice Req Fate Env → Prop) [∀ s choice, Decidable (ok s choice)]
    (s₀ : Sys Reply Req World Session K) (choices : List (Choice Req Fate Env))
    (check : Sys Reply Req World Session K → Bool) (passes : (exec B C ok s₀ choices).any check = true) :
    ∃ s, Run B C ok s₀ s ∧ check s = true := by
  obtain ⟨s, found, passes⟩ := (Option.any_eq_true _ _).mp passes
  exact ⟨s, .of_exec found, passes⟩

/-- A script in two parts, each under its own restriction. -/
theorem exists_run_then (B : Backend Reply Err World Session Fate Env) (C : Control Reply Err Req K)
    (ok ok' : Sys Reply Req World Session K → Choice Req Fate Env → Prop) [∀ s choice, Decidable (ok s choice)]
    [∀ s choice, Decidable (ok' s choice)] (s₀ : Sys Reply Req World Session K)
    (first second : List (Choice Req Fate Env)) (check : Sys Reply Req World Session K →
      Sys Reply Req World Session K → Bool)
    (passes : ((exec B C ok s₀ first).any fun s₁ => (exec B C ok' s₁ second).any fun s => check s₁ s) = true) :
    ∃ s₁ s, Run B C ok s₀ s₁ ∧ Run B C ok' s₁ s ∧ check s₁ s = true := by
  obtain ⟨s₁, first, passes⟩ := (Option.any_eq_true _ _).mp passes
  obtain ⟨s, second, passes⟩ := (Option.any_eq_true _ _).mp passes
  exact ⟨s₁, s, .of_exec first, .of_exec second, passes⟩

theorem not_fails {i fate t c rest answer world session} (honoured : fails B C s i fate = false)
    (at_i : s.threads[i]? = some t) (next : C.next t.ctl = some ⟨c, rest⟩)
    (handled : B.handle s.world t.session c fate = some (answer, world, session)) : ∃ value, answer = .ok value := by
  cases answer with
  | ok value => exact ⟨value, rfl⟩
  | error err => simp only [fails, at_i, next, handled, Bool.true_eq_false] at honoured

/-- The four things a step can be. A thread's step is one call of that thread,
    handled in the current world. -/
inductive Stepped (B : Backend Reply Err World Session Fate Env) (C : Control Reply Err Req K)
    (s : Sys Reply Req World Session K) : Choice Req Fate Env → Sys Reply Req World Session K → Prop where
  | start (req) : Stepped B C s (.start req)
      ⟨s.world, s.threads ++ [⟨req, C.start req, B.fresh, []⟩]⟩
  | run {i fate t c rest answer world session} (at_i : s.threads[i]? = some t)
      (next : C.next t.ctl = some ⟨c, rest⟩)
      (handled : B.handle s.world t.session c fate = some (answer, world, session)) :
      Stepped B C s (.run i fate)
        ⟨world, s.threads.set i (t.answered c rest answer session)⟩
  | crash {i t} (at_i : s.threads[i]? = some t) (live : t.Live C) :
      Stepped B C s (.crash i)
        ⟨s.world, s.threads.set i (t.died C.dead B.fresh)⟩
  | env (e) : Stepped B C s (.env e) ⟨B.disturb s.world e, s.threads⟩

theorem step_cases {choice} (stepped : step B C s choice = some s') : Stepped B C s choice s' := by
  cases choice with
  | start req =>
      obtain rfl := Option.some.inj stepped
      exact .start req
  | run i fate =>
      simp only [step] at stepped
      split at stepped
      · cases stepped
      · rename_i t at_i
        split at stepped
        · cases stepped
        · rename_i c rest next
          split at stepped
          · cases stepped
          · rename_i answer world session handled
            obtain rfl := Option.some.inj stepped
            exact .run at_i next handled
  | crash i =>
      simp only [step] at stepped
      split at stepped
      · cases stepped
      · rename_i t at_i
        split at stepped
        · cases stepped
        · rename_i c next
          obtain rfl := Option.some.inj stepped
          exact .crash at_i (by simp only [Thread.Live, next, Option.isSome_some])
  | env e =>
      obtain rfl := Option.some.inj stepped
      exact .env e

/-- No request is forgotten. -/
theorem requests_step {choice} (stepped : step B C s choice = some s') {t : Thread Reply Req Session K}
    (member : t ∈ s.threads) : ∃ u ∈ s'.threads, u.req = t.req := by
  have replaced : ∀ {i : ℕ} {v w : Thread Reply Req Session K}, s.threads[i]? = some v → w.req = v.req →
      ∃ u ∈ s.threads.set i w, u.req = t.req := by
    intro i v w at_i same
    obtain ⟨j, at_j⟩ := List.getElem?_of_mem member
    by_cases here : i = j
    · subst here
      obtain rfl := Option.some.inj (at_j.symm.trans at_i)
      exact ⟨w, List.mem_of_getElem? (set_at at_i w), same⟩
    · rw [← List.getElem?_set_ne here (a := w)] at at_j
      exact ⟨t, List.mem_of_getElem? at_j, rfl⟩
  cases step_cases stepped with
  | start req => exact ⟨t, List.mem_append_left _ member, rfl⟩
  | run at_i next handled => exact replaced at_i rfl
  | crash at_i live => exact replaced at_i rfl
  | env e => exact ⟨t, member, rfl⟩

/-- A property of threads and their places holds after a step when the threads that
    were there have it, a new thread has it, and the thread that moved has it still. -/
theorem threads_step_at {choice} {T : ℕ → Thread Reply Req Session K → Prop} (stepped : step B C s choice = some s')
    (others : ∀ i t, s.threads[i]? = some t → T i t)
    (start : ∀ req, choice = .start req → T s.threads.length ⟨req, C.start req, B.fresh, []⟩)
    (died : ∀ i t, choice = .crash i → s.threads[i]? = some t → t.Live C → T i (t.died C.dead B.fresh))
    (moved : ∀ {i fate t c rest answer session}, choice = .run i fate → s.threads[i]? = some t →
      C.next t.ctl = some ⟨c, rest⟩ → B.handle s.world t.session c fate = some (answer, s'.world, session) →
        T i (t.answered c rest answer session)) :
    ∀ i t, s'.threads[i]? = some t → T i t := by
  have placed : ∀ {i j u}, T j u → ∀ v, (s.threads.set j u)[i]? = some v → T i v := by
    intro i j u held v at_i
    rcases at_set at_i with ⟨rfl, rfl⟩ | ⟨-, old⟩
    · exact held
    · exact others i v old
  intro i u at_i
  cases step_cases stepped with
  | start req =>
      rcases at_snoc at_i with old | ⟨rfl, rfl⟩
      · exact others i u old
      · exact start req rfl
  | run at_j next handled => exact placed (moved rfl at_j next handled) u at_i
  | crash at_j live => exact placed (died _ _ rfl at_j live) u at_i
  | env e => exact others i u at_i

/-- A property of threads holds after a step when the threads that were there have
    it, a new thread has it, and the thread that moved has it still. -/
theorem threads_step {choice} {T : Thread Reply Req Session K → Prop} (stepped : step B C s choice = some s')
    (others : ∀ t ∈ s.threads, T t) (start : ∀ req, choice = .start req → T ⟨req, C.start req, B.fresh, []⟩)
    (died : ∀ t ∈ s.threads, T (t.died C.dead B.fresh))
    (moved : ∀ {i fate t c rest answer session}, choice = .run i fate → s.threads[i]? = some t →
      C.next t.ctl = some ⟨c, rest⟩ → B.handle s.world t.session c fate = some (answer, s'.world, session) →
        T (t.answered c rest answer session)) :
    ∀ t ∈ s'.threads, T t := by
  intro u member
  obtain ⟨i, at_i⟩ := List.getElem?_of_mem member
  refine threads_step_at (T := fun _ t => T t) stepped ?_ start ?_ moved i u at_i
  · exact fun _ t at_i => others t (List.mem_of_getElem? at_i)
  · exact fun _ t _ at_i _ => died t (List.mem_of_getElem? at_i)

end Interleaving
