import Underwriting.Lib.Calls
import Underwriting.Lib.Interpret

/-! # A system within a larger one

Some requests of the larger system run the programs of the smaller one under other
names; the calls of the rest change the world only as its environment may. With the rest
left out, every run of the larger system is one of the smaller.
-/

namespace Interleaving

variable {Call Call' : Type} {Reply : Call → Type} {Reply' : Call' → Type}
  {Err Err' Req Req' World Session Fate Fate' Env α β : Type}

/-- The call leaves the world alone, whatever its fate. -/
def Idle (B : Backend Reply Err World Session Fate Env) (c : Call) : Prop :=
  ∀ world session fate answer world' session', B.handle world session c fate = some (answer, world', session') →
    world' = world

/-- What the call does to the world the environment could do, whatever its fate. -/
def Aside (B : Backend Reply Err World Session Fate Env) (c : Call) : Prop :=
  ∀ world session fate answer world' session', B.handle world session c fate = some (answer, world', session') →
    ∃ es : List Env, world' = es.foldl B.disturb world

theorem Idle.aside {B : Backend Reply Err World Session Fate Env} {c : Call} (idle : Idle B c) : Aside B c :=
  fun world session fate answer world' session' handled => ⟨[], idle world session fate answer world' session' handled⟩

/-- The environment moves so often. -/
theorem run_envs {B : Backend Reply Err World Session Fate Env} {C : Control Reply Err Req α}
    (s : Sys Reply Req World Session α) (es : List Env) :
    Run B C anyStep s ⟨es.foldl B.disturb s.world, s.threads⟩ := by
  induction es generalizing s with
  | nil => exact .refl
  | cons e rest ih =>
      have moved : step B C s (.env e) = some ⟨B.disturb s.world e, s.threads⟩ := rfl
      exact (Run.refl.tail trivial moved).trans (ih _)

/-- The requests of `start` among those of `start'`. -/
structure Embedding (B : Backend Reply Err World Session Fate Env) (B' : Backend Reply' Err' World Session Fate' Env)
    (start : Req → Prog Reply Err α) (start' : Req' → Prog Reply' Err' β) where
  call : Call → Call'
  reply : ∀ c, Reply' (call c) → Reply c
  up : Err → Err'
  down : Err' → Err
  wrap : α → β
  part : Req' → Option Req
  fresh : B'.fresh = B.fresh
  disturb : B'.disturb = B.disturb
  serves : ∀ {world session c fate answer world' session'},
    B'.handle world session (call c) fate = some (answer, world', session') →
      ∃ fate, B.handle world session c fate = some ((answer.map (reply c)).mapError down, world', session')
  embeds : ∀ {req' req}, part req' = some req →
    start' req' = (start req).translate call reply up down >>= fun value => .ret (wrap value)
  rests : ∀ {req'}, part req' = none → (start' req').Calls (Aside B')

namespace Embedding

variable {B : Backend Reply Err World Session Fate Env} {B' : Backend Reply' Err' World Session Fate' Env}
  {start : Req → Prog Reply Err α} {start' : Req' → Prog Reply' Err' β} (E : Embedding B B' start start')

/-- A program of the smaller system in the larger one. -/
def embed (program : Prog Reply Err α) : Prog Reply' Err' β :=
  program.translate E.call E.reply E.up E.down >>= fun value => .ret (E.wrap value)

/-- What an outcome of the smaller system is in the larger one. -/
def outcome (result : Except Err α) : Except Err' β := (result.map E.wrap).mapError E.up

theorem outcome_embed (program : Prog Reply Err α) :
    (E.embed program).outcome? = program.outcome?.map E.outcome := by
  cases program <;> rfl

theorem embed_next {program : Prog Reply Err α} {n : (c' : Call') × (Except Err' (Reply' c') → Prog Reply' Err' β)}
    (next : (E.embed program).next = some n) : ∃ c rest, program = .call c rest ∧
      n = ⟨E.call c, fun answer => E.embed (rest ((answer.map (E.reply c)).mapError E.down))⟩ := by
  cases program with
  | ret | raise => cases next
  | call c rest => exact ⟨c, rest, rfl, (Option.some.inj next).symm⟩

/-- A thread of the larger system runs a request of the smaller one. -/
structure Runs (t : Thread Reply' Req' Session (Prog Reply' Err' β)) (u : Thread Reply Req Session (Prog Reply Err α)) :
    Prop where
  part : E.part t.req = some u.req
  session : t.session = u.session
  ctl : t.ctl = E.embed u.ctl

theorem Runs.outcome {t : Thread Reply' Req' Session (Prog Reply' Err' β)}
    {u : Thread Reply Req Session (Prog Reply Err α)} (runs : E.Runs t u) :
    t.ctl.outcome? = u.ctl.outcome?.map E.outcome := by
  rw [runs.ctl, outcome_embed]

/-- Any other thread. -/
structure Rests (t : Thread Reply' Req' Session (Prog Reply' Err' β)) : Prop where
  part : E.part t.req = none
  aside : t.ctl.Calls (Aside B')

/-- The threads of the larger system beside those that run requests of the smaller one. -/
inductive Among : List (Thread Reply' Req' Session (Prog Reply' Err' β)) →
    List (Thread Reply Req Session (Prog Reply Err α)) → Prop where
  | nil : Among [] []
  | runs {t u ts us} (runs : E.Runs t u) (rest : Among ts us) : Among (t :: ts) (u :: us)
  | rests {t ts us} (rests : E.Rests t) (rest : Among ts us) : Among (t :: ts) us

namespace Among

variable {E} {ts : List (Thread Reply' Req' Session (Prog Reply' Err' β))}
  {us : List (Thread Reply Req Session (Prog Reply Err α))} {t : Thread Reply' Req' Session (Prog Reply' Err' β)}
  {u : Thread Reply Req Session (Prog Reply Err α)}

theorem snoc_runs (among : E.Among ts us) (runs : E.Runs t u) : E.Among (ts ++ [t]) (us ++ [u]) := by
  induction among with
  | nil => exact .runs runs .nil
  | runs first _ ih => exact .runs first ih
  | rests first _ ih => exact .rests first ih

theorem snoc_rests (among : E.Among ts us) (rests : E.Rests t) : E.Among (ts ++ [t]) us := by
  induction among with
  | nil => exact .rests rests .nil
  | runs first _ ih => exact .runs first ih
  | rests first _ ih => exact .rests first ih

/-- A thread of the larger system rests, or runs the request of some thread of the
    smaller; either way it may be replaced. -/
theorem found (among : E.Among ts us) {i : ℕ} (at_i : ts[i]? = some t) :
    (E.Rests t ∧ ∀ t', E.Rests t' → E.Among (ts.set i t') us) ∨
      ∃ j u, us[j]? = some u ∧ E.Runs t u ∧ ∀ t' u', E.Runs t' u' → E.Among (ts.set i t') (us.set j u') := by
  induction among generalizing i with
  | nil => cases at_i
  | @runs t₁ u₁ ts us first rest ih =>
      cases i with
      | zero =>
          obtain rfl := Option.some.inj at_i
          exact .inr ⟨0, u₁, rfl, first, fun t' u' changed => .runs changed rest⟩
      | succ i =>
          rcases ih at_i with ⟨rests, replaced⟩ | ⟨j, u, at_j, runs, replaced⟩
          · exact .inl ⟨rests, fun t' changed => .runs first (replaced t' changed)⟩
          · exact .inr ⟨j + 1, u, at_j, runs, fun t' u' changed => .runs first (replaced t' u' changed)⟩
  | @rests t₁ ts us first rest ih =>
      cases i with
      | zero =>
          obtain rfl := Option.some.inj at_i
          exact .inl ⟨first, fun t' changed => .rests changed rest⟩
      | succ i =>
          rcases ih at_i with ⟨rests, replaced⟩ | ⟨j, u, at_j, runs, replaced⟩
          · exact .inl ⟨rests, fun t' changed => .rests first (replaced t' changed)⟩
          · exact .inr ⟨j, u, at_j, runs, fun t' u' changed => .rests first (replaced t' u' changed)⟩

/-- Every thread of the larger system rests or has its thread in the smaller. -/
theorem runs_of_part (among : E.Among ts us) (member : t ∈ ts) {req} (part : E.part t.req = some req) :
    ∃ u ∈ us, E.Runs t u := by
  obtain ⟨i, at_i⟩ := List.getElem?_of_mem member
  rcases among.found at_i with ⟨rests, -⟩ | ⟨j, u, at_j, runs, -⟩
  · cases part.symm.trans rests.part
  · exact ⟨u, List.mem_of_getElem? at_j, runs⟩

/-- The threads that run requests of the smaller system, in their order. -/
theorem forall₂ (among : E.Among ts us) : List.Forall₂ E.Runs (ts.filter fun t => (E.part t.req).isSome) us := by
  induction among with
  | nil => exact .nil
  | runs first _ ih =>
      rw [List.filter_cons_of_pos (by rw [first.part]; rfl)]
      exact .cons first ih
  | rests first _ ih =>
      rw [List.filter_cons_of_neg (by rw [first.part]; exact Bool.false_ne_true)]
      exact ih

end Among

/-- Two systems with one world, the threads of one among those of the other. -/
structure Within (r : Sys Reply Req World Session (Prog Reply Err α))
    (s : Sys Reply' Req' World Session (Prog Reply' Err' β)) : Prop where
  world : r.world = s.world
  threads : E.Among s.threads r.threads

variable {E} {dead : Err} {r : Sys Reply Req World Session (Prog Reply Err α)}
  {s s' : Sys Reply' Req' World Session (Prog Reply' Err' β)}

/-- A step of the larger system is one of the smaller, or some of its environment. -/
theorem within_step (within : E.Within r s) {choice}
    (stepped : step B' (programs start' (E.up dead)) s choice = some s') :
    ∃ r', Run B (programs start dead) anyStep r r' ∧ E.Within r' s' := by
  have one : ∀ choice {r'}, step B (programs start dead) r choice = some r' →
      Run B (programs start dead) anyStep r r' := fun _ _ stepped => .tail .refl trivial stepped
  cases step_cases stepped with
  | start req' =>
      cases part : E.part req' with
      | none => exact ⟨r, .refl, within.world, within.threads.snoc_rests ⟨part, E.rests part⟩⟩
      | some req =>
          refine ⟨_, one (.start req) rfl, within.world, ?_⟩
          exact within.threads.snoc_runs ⟨part, E.fresh, E.embeds part⟩
  | env e =>
      refine ⟨_, one (.env e) rfl, ?_, within.threads⟩
      rw [within.world, E.disturb]
  | @crash i t at_i live =>
      rcases within.threads.found at_i with ⟨rests, replaced⟩ | ⟨j, u, at_j, runs, replaced⟩
      · exact ⟨r, .refl, within.world, replaced _ ⟨rests.part, trivial⟩⟩
      · obtain ⟨⟨c', rest'⟩, next⟩ := Option.isSome_iff_exists.mp live
        rw [runs.ctl] at next
        obtain ⟨c, rest, calling, -⟩ := E.embed_next next
        refine ⟨⟨r.world, r.threads.set j (u.died (.raise dead) B.fresh)⟩, one (.crash j) ?_, within.world, ?_⟩
        · have at_next : (programs start dead).next u.ctl = some ⟨c, rest⟩ := by
            rw [calling]
            rfl
          simp only [step, at_j, at_next]
          rfl
        · exact replaced _ _ ⟨runs.part, E.fresh, rfl⟩
  | @run i fate t c' rest' answer world session at_i next handled =>
      rcases within.threads.found at_i with ⟨rests, replaced⟩ | ⟨j, u, at_j, runs, replaced⟩
      · have calling := rests.aside
        rw [Prog.next_eq_some next] at calling
        obtain ⟨es, moved⟩ := calling.1 _ _ _ _ _ _ handled
        refine ⟨_, run_envs r es, ?_, replaced _ ⟨rests.part, calling.2 answer⟩⟩
        rw [moved, E.disturb, within.world]
      · have same : (programs start' (E.up dead)).next t.ctl = (E.embed u.ctl).next := congrArg Prog.next runs.ctl
        rw [same] at next
        obtain ⟨c, rest, calling, same⟩ := E.embed_next next
        cases same
        obtain ⟨fate', served⟩ := E.serves handled
        rw [← within.world, runs.session] at served
        refine ⟨⟨world, r.threads.set j (u.answered c rest ((answer.map (E.reply c)).mapError E.down) session)⟩,
          one (.run j fate') ?_, rfl, ?_⟩
        · have at_next : (programs start dead).next u.ctl = some ⟨c, rest⟩ := by
            rw [calling]
            rfl
          simp only [step, at_j, at_next, served]
        · exact replaced _ _ ⟨runs.part, rfl, rfl⟩

/-- Every run of the larger system, the resting threads left out, is one of the smaller. -/
theorem within_run {ok} {s₀ : Sys Reply' Req' World Session (Prog Reply' Err' β)}
    (run : Run B' (programs start' (E.up dead)) ok s₀ s) (initial : E.Within r s₀) :
    ∃ r', Run B (programs start dead) anyStep r r' ∧ E.Within r' s := by
  induction run with
  | refl => exact ⟨r, .refl, initial⟩
  | tail _ _ stepped ih =>
      obtain ⟨r', reached, within⟩ := ih
      obtain ⟨r'', further, within'⟩ := within_step within stepped
      exact ⟨r'', reached.trans further, within'⟩

end Embedding

end Interleaving
