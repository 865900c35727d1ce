import Underwriting.Lib.Interleave

/-! # Programs run alone

Total correctness of one program while nobody else moves: with fates from a fair
set, every call it makes can be answered, and whatever the answers are it returns
a value that meets a postcondition. `Succeeds.run` carries this to the
interleaved system, for the steps of one thread.
-/

namespace Interleaving

variable {Call : Type} {Reply : Call → Type} {Err Req World Session Fate Env α : Type}

/-- The program returns, with `post` of its value and the world it leaves. -/
def Prog.Succeeds (B : Backend Reply Err World Session Fate Env) (fair : World → Call → Fate → Prop)
    (post : α → World → Prop) : Prog Reply Err α → World → Session → Prop
  | .ret value, world, _ => post value world
  | .raise _, _, _ => False
  | .call c rest, world, session =>
      (∃ fate, fair world c fate ∧ (B.handle world session c fate).isSome) ∧
        ∀ fate answer world' session', fair world c fate →
          B.handle world session c fate = some (answer, world', session') →
            (rest answer).Succeeds B fair post world' session'

variable {B : Backend Reply Err World Session Fate Env} {fair : World → Call → Fate → Prop}
  {post : α → World → Prop} {world : World} {session : Session}

namespace Prog

@[simp] theorem succeeds_ret {value : α} :
    (Prog.ret value : Prog Reply Err α).Succeeds B fair post world session ↔ post value world := Iff.rfl

@[simp] theorem succeeds_raise {err : Err} :
    ¬ (Prog.raise err : Prog Reply Err α).Succeeds B fair post world session := id

/-- The rule for one call: some fair fate is enabled, and after any of them the
    rest succeeds. -/
theorem Succeeds.call {c : Call} {rest : Except Err (Reply c) → Prog Reply Err α} (fate : Fate)
    (allowed : fair world c fate) (enabled : (B.handle world session c fate).isSome)
    (answered : ∀ fate answer world' session', fair world c fate →
      B.handle world session c fate = some (answer, world', session') →
        (rest answer).Succeeds B fair post world' session') :
    (Prog.call c rest).Succeeds B fair post world session :=
  ⟨⟨fate, allowed, enabled⟩, answered⟩

theorem Succeeds.imp {program : Prog Reply Err α} {post' : α → World → Prop}
    (succeeds : program.Succeeds B fair post world session) (weaker : ∀ value world, post value world → post' value world) :
    program.Succeeds B fair post' world session := by
  induction program generalizing world session with
  | ret value => exact weaker value world succeeds
  | raise => exact succeeds.elim
  | call c rest ih =>
      obtain ⟨enabled, answered⟩ := succeeds
      refine ⟨enabled, fun fate answer world' session' allowed handled => ?_⟩
      exact ih answer (answered fate answer world' session' allowed handled)

/-- What follows any one fair answer to the first call. -/
theorem Succeeds.answered {c : Call} {rest : Except Err (Reply c) → Prog Reply Err α} {fate answer world' session'}
    (succeeds : (Prog.call c rest).Succeeds B fair post world session) (allowed : fair world c fate)
    (handled : B.handle world session c fate = some (answer, world', session')) :
    (rest answer).Succeeds B fair post world' session' :=
  succeeds.2 fate answer world' session' allowed handled

/-- A call whose answer does not depend on the fate. -/
theorem succeeds_call_iff {c : Call} {rest : Except Err (Reply c) → Prog Reply Err α} {fate answer world' session'}
    (allowed : fair world c fate)
    (determined : ∀ fate, fair world c fate → B.handle world session c fate = some (answer, world', session')) :
    (Prog.call c rest).Succeeds B fair post world session ↔
      (rest answer).Succeeds B fair post world' session' := by
  constructor
  · exact fun succeeds => succeeds.answered allowed (determined fate allowed)
  · refine fun succeeds => .call fate allowed (by rw [determined fate allowed]; rfl) ?_
    intro fate answer world' session' allowed handled
    cases handled.symm.trans (determined fate allowed)
    exact succeeds

end Prog

/-- The control of threads whose states are programs. -/
def programs (start : Req → Prog Reply Err α) (dead : Err) : Control Reply Err Req (Prog Reply Err α) where
  start := start
  next := Prog.next
  dead := .raise dead

/-- Only thread `i` moves, with fair fates. -/
def Alone (fair : World → Call → Fate → Prop) (i : ℕ) (s : Sys Reply Req World Session (Prog Reply Err α))
    (choice : Choice Req Fate Env) : Prop :=
  ∃ fate, choice = .run i fate ∧
    ∀ t n, s.threads[i]? = some t → Prog.next t.ctl = some n → fair s.world n.1 fate

/-- While a thread runs alone its program goes on to succeed; once it has no call
    left it has returned a value that meets the postcondition. -/
theorem Prog.Succeeds.run {start : Req → Prog Reply Err α} {dead : Err} {i : ℕ}
    {s₀ s : Sys Reply Req World Session (Prog Reply Err α)} (run : Run B (programs start dead) (Alone fair i) s₀ s)
    (initial : ∃ t, s₀.threads[i]? = some t ∧ t.ctl.Succeeds B fair post s₀.world t.session) :
    ∃ t, s.threads[i]? = some t ∧ t.ctl.Succeeds B fair post s.world t.session := by
  induction run with
  | refl => exact initial
  | tail _ allowed stepped ih =>
      obtain ⟨fate, rfl, fairly⟩ := allowed
      obtain ⟨t, at_i, succeeds⟩ := ih
      cases step_cases stepped with
      | run at_i' next handled =>
          obtain rfl := Option.some.inj (at_i.symm.trans at_i')
          refine ⟨_, set_at at_i _, ?_⟩
          rw [Prog.next_eq_some next] at succeeds
          exact succeeds.answered (fairly t _ at_i next) handled

/-- A request that is started, runs alone and has ended has returned. -/
theorem Prog.Succeeds.returned {start : Req → Prog Reply Err α} {dead : Err} {req : Req}
    {s s₀ s' : Sys Reply Req World Session (Prog Reply Err α)}
    (succeeds : (start req).Succeeds B fair post s.world B.fresh)
    (started : step B (programs start dead) s (.start req) = some s₀)
    (run : Run B (programs start dead) (Alone fair s.threads.length) s₀ s') {t : Thread Reply Req Session _}
    (found : s'.threads[s.threads.length]? = some t) (ended : ¬ t.Live (programs start dead)) :
    ∃ value, t.ctl = .ret value ∧ post value s'.world := by
  obtain rfl := Option.some.inj started
  obtain ⟨u, at_i, succeeds⟩ := Prog.Succeeds.run run
    ⟨⟨req, start req, B.fresh, []⟩, by simp [programs], succeeds⟩
  obtain rfl := Option.some.inj (found.symm.trans at_i)
  cases control : t.ctl with
  | ret value => exact ⟨value, rfl, by rwa [control] at succeeds⟩
  | raise err => rw [control] at succeeds; exact succeeds.elim
  | call c rest => exact absurd (by simp [Thread.Live, programs, control, Prog.next]) ended

end Interleaving
