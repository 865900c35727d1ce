import Underwriting.Lib.Sequential

/-! # What a program leaves on record

A condition on the answers a program gets and on how it ends, proved along the
program's syntax: `mid` is kept while a call is still to come, `post` holds of
the record and the outcome. It then holds of every thread in every run, whatever
the other threads do; a thread that died has left a record that met `mid`.
-/

namespace Interleaving

variable {Call : Type} {Reply : Call → Type} {Err Req World Session Fate Env α β : Type}

/-- The calls that were answered, with their answers. -/
abbrev Log {Call : Type} (Reply : Call → Type) := List ((c : Call) × Reply c)

namespace Prog

/-- Whatever the calls answer, and whichever exceptions that may be raised they raise. -/
def Traces (raised : Err → Prop) (mid : Log Reply → Prop) (post : Log Reply → Except Err α → Prop) :
    Prog Reply Err α → Log Reply → Prop
  | .ret value, log => post log (.ok value)
  | .raise err, log => post log (.error err)
  | .call c rest, log => mid log ∧ (∀ err, raised err → (rest (.error err)).Traces raised mid post log) ∧
      ∀ reply, (rest (.ok reply)).Traces raised mid post (log ++ [⟨c, reply⟩])

variable {raised : Err → Prop} {mid : Log Reply → Prop} {post : Log Reply → Except Err α → Prop}
  {program : Prog Reply Err α} {log : Log Reply}

theorem Traces.imp {post' : Log Reply → Except Err α → Prop} (traces : program.Traces raised mid post log)
    (weaker : ∀ log result, post log result → post' log result) : program.Traces raised mid post' log := by
  induction program generalizing log with
  | ret value => exact weaker log _ traces
  | raise err => exact weaker log _ traces
  | call c rest ih =>
      obtain ⟨kept, failed, answered⟩ := traces
      exact ⟨kept, fun err possible => ih _ (failed err possible), fun reply => ih _ (answered reply)⟩

/-- The rule of one call whose exception propagates. -/
theorem traces_perform {c : Call} {post : Log Reply → Except Err (Reply c) → Prop} (kept : mid log)
    (failed : ∀ err, raised err → post log (.error err)) (answered : ∀ reply, post (log ++ [⟨c, reply⟩]) (.ok reply)) :
    (perform c : Prog Reply Err (Reply c)).Traces raised mid post log :=
  ⟨kept, failed, answered⟩

/-- The rule of sequencing: an exception skips what comes after. -/
theorem Traces.bind {post : Log Reply → Except Err β → Prop} {next : α → Prog Reply Err β}
    (traces : program.Traces raised mid
      (fun log result => match result with
        | .ok value => (next value).Traces raised mid post log
        | .error err => post log (.error err)) log) :
    (program >>= next).Traces raised mid post log := by
  induction program generalizing log with
  | ret value => exact traces
  | raise err => exact traces
  | call c rest ih =>
      obtain ⟨kept, failed, answered⟩ := traces
      exact ⟨kept, fun err possible => ih _ (failed err possible), fun reply => ih _ (answered reply)⟩

/-- The rule of `except`: only exceptions reach the handler. -/
theorem Traces.handling {handler : Err → Prog Reply Err α}
    (traces : program.Traces raised mid
      (fun log result => match result with
        | .ok value => post log (.ok value)
        | .error err => (handler err).Traces raised mid post log) log) :
    (program.handling handler).Traces raised mid post log := by
  induction program generalizing log with
  | ret value => exact traces
  | raise err => exact traces
  | call c rest ih =>
      obtain ⟨kept, failed, answered⟩ := traces
      exact ⟨kept, fun err possible => ih _ (failed err possible), fun reply => ih _ (answered reply)⟩

theorem traces_ofExcept {result : Except Err α} (met : post log result) :
    (ofExcept result : Prog Reply Err α).Traces raised mid post log := by
  cases result <;> exact met

/-- A call, then what its answer leads to. -/
theorem traces_ask {c : Call} {post : Log Reply → Except Err β → Prop} {next : Reply c → Prog Reply Err β}
    (kept : mid log) (failed : ∀ err, raised err → post log (.error err))
    (answered : ∀ reply, (next reply).Traces raised mid post (log ++ [⟨c, reply⟩])) :
    ((perform c : Prog Reply Err (Reply c)) >>= next).Traces raised mid post log :=
  Traces.bind (traces_perform kept failed answered)

/-- A pure computation, then what its value leads to. -/
theorem traces_compute {result : Except Err α} {post : Log Reply → Except Err β → Prop} {next : α → Prog Reply Err β}
    (failed : ∀ err, result = .error err → post log (.error err))
    (answered : ∀ value, result = .ok value → (next value).Traces raised mid post log) :
    ((ofExcept result : Prog Reply Err α) >>= next).Traces raised mid post log := by
  apply Traces.bind
  apply traces_ofExcept
  cases result with
  | ok value => exact answered value rfl
  | error err => exact failed err rfl

end Prog

variable {B : Backend Reply Err World Session Fate Env} {start : Req → Prog Reply Err α} {dead : Err}
  {s₀ s : Sys Reply Req World Session (Prog Reply Err α)} {raised : Err → Prop} {mid : Req → Log Reply → Prop}
  {post : Req → Log Reply → Except Err α → Prop}

/-- The thread's program goes on to meet its conditions, or the thread died. -/
def Thread.Traces (raised : Err → Prop) (mid : Req → Log Reply → Prop) (post : Req → Log Reply → Except Err α → Prop)
    (dead : Err) (t : Thread Reply Req Session (Prog Reply Err α)) : Prop :=
  t.ctl.Traces raised (mid t.req) (post t.req) t.log ∨ t.ctl = .raise dead ∧ mid t.req t.log

namespace Thread.Traces

variable {t : Thread Reply Req Session (Prog Reply Err α)}

/-- A record is kept as it is by the death of its thread. -/
theorem died (traces : t.Traces raised mid post dead) (live : t.Live (programs start dead)) (fresh : Session) :
    (t.died (.raise dead) fresh).Traces raised mid post dead := by
  refine .inr ⟨rfl, ?_⟩
  rcases traces with tracing | ⟨-, kept⟩
  · obtain ⟨⟨c, rest⟩, next⟩ := Option.isSome_iff_exists.mp live
    rw [Prog.next_eq_some next] at tracing
    exact tracing.1
  · exact kept

theorem answered (traces : t.Traces raised mid post dead) {c : Call} {rest : Except Err (Reply c) → Prog Reply Err α}
    (next : t.ctl.next = some ⟨c, rest⟩) {answer : Except Err (Reply c)}
    (possible : ∀ err, answer = .error err → raised err) (session : Session) :
    (t.answered c rest answer session).Traces raised mid post dead := by
  rcases traces with tracing | ⟨ended, -⟩
  · rw [Prog.next_eq_some next] at tracing
    obtain ⟨-, failed, replied⟩ := tracing
    cases answer with
    | ok reply => exact .inl (replied reply)
    | error err => exact .inl (failed err (possible err rfl))
  · rw [ended] at next
    cases next

end Thread.Traces

/-- What all traces of the requests meet, every thread of a run does. -/
theorem traces_run (raises : ∀ world session c fate err world' session',
      B.handle world session c fate = some (.error err, world', session') → raised err)
    (traces : ∀ req, (start req).Traces raised (mid req) (post req) []) {ok}
    (run : Run B (programs start dead) ok s₀ s) (empty : s₀.threads = []) :
    ∀ t ∈ s.threads, t.Traces raised mid post dead := by
  have placed : ∀ (i : ℕ) (t : Thread Reply Req Session _), s.threads[i]? = some t → t.Traces raised mid post dead := by
    apply run.invariant (I := fun s => ∀ (i : ℕ) (t : Thread Reply Req Session _), s.threads[i]? = some t →
      t.Traces raised mid post dead)
    · intro i t at_i
      rw [empty] at at_i
      cases at_i
    · intro s choice s' _ known _ stepped
      apply threads_step_at stepped known
      · exact fun req _ => .inl (traces req)
      · exact fun i t _ at_i live => (known i t at_i).died live B.fresh
      · intro i fate t c rest answer session _ at_i next handled
        apply (known i t at_i).answered next
        rintro err rfl
        exact raises _ _ _ _ _ _ _ handled
  intro t member
  obtain ⟨i, at_i⟩ := List.getElem?_of_mem member
  exact placed i t at_i

end Interleaving
