import Underwriting.Lib.Serial
import Underwriting.Machine.Scenario
import Underwriting.Reads

/-! # Latest means last inserted

The queries recover the order of a history from its timestamps. When requests run
one at a time and the clock never goes back, timestamps are ordered like the
rows, so the queries answer with the row inserted last exactly if no tie is left
to the database or to the random ids.
-/

namespace Underwriting.Order

open Interleaving

/-- A request starts when the others have ended, and the clock never goes back. -/
def Sequential {σ φ υ : Type} (s : ProgSys σ) : Choice Request (Fate φ) (Env υ) → Prop
  | .start _ => Quiet requests s
  | .run _ fate => ∀ time ∈ fate.time?, s.world.clock ≤ time
  | .crash _ | .env _ => True

instance {σ φ υ : Type} (s : ProgSys σ) (choice : Choice Request (Fate φ) (Env υ)) :
    Decidable (Sequential s choice) :=
  match choice with
  | .start _ => inferInstanceAs (Decidable (Quiet requests s))
  | .run _ fate => inferInstanceAs (Decidable (∀ time ∈ fate.time?, s.world.clock ≤ time))
  | .crash _ | .env _ => .isTrue trivial

/-- However the database orders equal rows, the latest decision and quote are the
    ones inserted last, and the audit comes in the order it was written. -/
structure LatestWins (db : Db) (submissionId : String) : Prop where
  decision : ∀ pick, db.query pick (.latestDecision submissionId) = some (db.decisionsOf submissionId).getLast?
  quote : ∀ pick, db.query pick (.latestQuote submissionId) = some (db.quotesOf submissionId).getLast?
  audit : ∀ pick, db.read pick (.auditsOf submissionId) = db.auditsOf submissionId

/-- No earlier decision has the time of the last one, an earlier quote with the time
    of the last one has a smaller id, and no two audit entries have one time. -/
structure TieFree (db : Db) (submissionId : String) : Prop where
  decisions : ∀ front last, db.decisionsOf submissionId = front ++ [last] → ∀ d ∈ front, d.time ≠ last.time
  quotes : ∀ front last, db.quotesOf submissionId = front ++ [last] →
    ∀ q ∈ front, q.time = last.time → q.id < last.id
  audits : (db.auditsOf submissionId).Pairwise fun a b => a.time ≠ b.time

/-! ## Time -/

/-- Decisions, quotes and audit entries carry times that never decrease, all of them past. -/
structure Dated (db : Db) (clock : ℕ) : Prop where
  decisions : Latest.Aged (fun d : Decision => d.time) db.decisions clock
  quotes : Latest.Aged (fun q : Quote => q.time) db.quotes clock
  audits : Latest.Aged (fun e : AuditEntry => e.time) db.audits clock

namespace Dated

variable {db more : Db} {clock clock' : ℕ}

theorem empty : Dated .empty clock := ⟨.nil, .nil, .nil⟩

theorem tick (dated : Dated db clock) (later : clock ≤ clock') : Dated db clock' :=
  ⟨dated.decisions.tick later, dated.quotes.tick later, dated.audits.tick later⟩

theorem of_append (dated : Dated (db ++ more) clock) : Dated db clock :=
  ⟨dated.decisions.of_append, dated.quotes.of_append, dated.audits.of_append⟩

theorem insertion {c : Call} {stamp row added} (dated : Dated db clock)
    (inserted : c.insertion stamp = some (row, added)) (later : clock ≤ stamp.time) :
    Dated (db ++ added) stamp.time := by
  have decisions := dated.decisions.tick later
  have quotes := dated.quotes.tick later
  have audits := dated.audits.tick later
  cases c <;> cases inserted
  case addDecision => exact ⟨dated.decisions.snoc later, by simpa using quotes, by simpa using audits⟩
  case addQuote => exact ⟨by simpa using decisions, dated.quotes.snoc later, by simpa using audits⟩
  case appendAudit => exact ⟨by simpa using decisions, by simpa using quotes, dated.audits.snoc later⟩
  all_goals exact ⟨by simpa using decisions, by simpa using quotes, by simpa using audits⟩

variable {σ φ υ : Type} {P : PasModel σ φ υ} {w w' : World σ} {pending pending' : Db} {c : Call} {fate : Fate φ}
  {answer : Except PyErr (Reply c)}

/-- Every call keeps the order of time, in the store and in its transaction. -/
theorem handled (dated : Dated (w.db ++ pending) w.clock)
    (handled : Handled P w pending c fate answer w' pending') (later : ∀ time ∈ fate.time?, w.clock ≤ time) :
    Dated (w'.db ++ pending') w'.clock := by
  cases handled with
  | lost | read | pas | publish => exact dated
  | insert inserted free => exact Db.append_assoc .. ▸ dated.insertion inserted (later _ rfl)
  | refused | unfit => exact dated.tick (later _ rfl)
  | commit free => exact (Db.append_empty _).symm ▸ dated
  | conflict taken => exact (Db.append_empty w.db).symm ▸ dated.of_append
  | now time => exact dated.tick (later _ rfl)

/-- The environment writes none of the three tables. -/
theorem disturb (e : Env υ) (dated : Dated (w.db ++ pending) w.clock) :
    Dated ((disturb P w e).db ++ pending) (disturb P w e).clock := by
  obtain ⟨decisions, quotes, audits⟩ := dated
  rcases disturb_cases P w e with ⟨_, _, same⟩ | ⟨_, -, same⟩
  · rw [same]
    refine ⟨?_, ?_, ?_⟩
    · simpa using decisions
    · simpa using quotes
    · simpa using audits
  · rw [same]
    exact ⟨decisions, quotes, audits⟩

end Dated

/-! ## Sequential runs -/

section Runs

variable {σ φ υ : Type} {P : PasModel σ φ υ} {s s' : ProgSys σ} {choice : Choice Request (Fate φ) (Env υ)}

/-- The store is in the order of time, and the rows of the live request come after it. -/
abbrev Orderly (s : ProgSys σ) : Prop :=
  Serial requests (fun w => Dated w.db w.clock) (fun w t => Dated (w.db ++ t.session) w.clock) s

theorem orderly_step (orderly : Orderly s) (allowed : Sequential s choice)
    (stepped : step (backend P) requests s choice = some s') : Orderly s' := by
  refine orderly.step stepped ?quiet ?start ?run ?env rfl
  case quiet =>
    rintro req rfl
    exact allowed
  case start =>
    rintro req rfl
    exact (Db.append_empty s.world.db).symm ▸ orderly.world
  case run =>
    rintro i fate t c rest answer world session rfl member dated next handled
    have kept := dated.handled (handle_cases handled) allowed
    exact ⟨kept.of_append, fun _ => kept⟩
  case env =>
    intro e
    refine ⟨?_, fun t _ dated => dated.disturb e⟩
    have dated : Dated (s.world.db ++ Db.empty) s.world.clock := (Db.append_empty s.world.db).symm ▸ orderly.world
    exact Db.append_empty (disturb P s.world e).db ▸ dated.disturb e

theorem orderly_run {pas : σ} (run : Run (backend P) requests Sequential (idle (.initial pas)) s) : Orderly s := by
  refine run.invariant ⟨fun i j t u at_i => (nomatch at_i), Dated.empty, fun t member => nomatch member⟩ ?_
  intro s choice s' _ orderly allowed stepped
  exact orderly_step orderly allowed stepped

end Runs

/-! ## What the queries answer -/

section Queries

variable {db : Db} {clock : ℕ} (sid : String)

theorem decision_wins_iff (keyed : db.Keyed) (dated : Dated db clock) :
    (∀ pick, db.query pick (.latestDecision sid) = some (db.decisionsOf sid).getLast?) ↔
      ∀ front last, db.decisionsOf sid = front ++ [last] → ∀ d ∈ front, d.time ≠ last.time := by
  have nodup : (db.decisionsOf sid).Nodup := (List.Nodup.of_map _ keyed.decisionId).filter _
  have ordered : (db.decisionsOf sid).Pairwise fun a b => a.time ≤ b.time := dated.decisions.ordered.filter _
  have answers : (∀ pick, db.query pick (.latestDecision sid) = some (db.decisionsOf sid).getLast?) ↔
      ∀ pick, Latest.limitOne Decision.latestKey (db.decisionsOf sid) pick = (db.decisionsOf sid).getLast? :=
    forall_congr' fun pick => ⟨Option.some.inj, congrArg some⟩
  rw [answers]
  apply Latest.limitOne_eq_getLast?_iff_ordered nodup ordered
  intro d last before
  simp only [Decision.latestKey]
  omega

theorem quote_wins_iff (keyed : db.Keyed) (dated : Dated db clock) :
    (∀ pick, db.query pick (.latestQuote sid) = some (db.quotesOf sid).getLast?) ↔
      ∀ front last, db.quotesOf sid = front ++ [last] → ∀ q ∈ front, q.time = last.time → q.id < last.id := by
  have nodup : (db.quotesOf sid).Nodup := (List.Nodup.of_map _ keyed.quoteId).filter _
  have ordered : (db.quotesOf sid).Pairwise fun a b => a.time ≤ b.time := dated.quotes.ordered.filter _
  have answers : (∀ pick, db.query pick (.latestQuote sid) = some (db.quotesOf sid).getLast?) ↔
      ∀ pick, Latest.limitOne Quote.latestKey (db.quotesOf sid) pick = (db.quotesOf sid).getLast? :=
    forall_congr' fun pick => ⟨Option.some.inj, congrArg some⟩
  rw [answers]
  apply Latest.limitOne_eq_getLast?_iff_ordered nodup ordered
  intro q last before
  rw [Quote.latestKey, Quote.latestKey, Prod.Lex.toLex_lt_toLex]
  constructor
  · rintro (earlier | ⟨-, smaller⟩) same
    · exact absurd same (Nat.ne_of_lt earlier)
    · exact smaller
  · intro smaller
    rcases Nat.lt_or_eq_of_le before with earlier | same
    · exact .inl earlier
    · exact .inr ⟨same, smaller same⟩

theorem audit_kept_iff (keyed : db.Keyed) (dated : Dated db clock) :
    (∀ pick, db.read pick (.auditsOf sid) = db.auditsOf sid) ↔
      (db.auditsOf sid).Pairwise fun a b => a.time ≠ b.time := by
  have nodup : (db.auditsOf sid).Nodup := (List.Nodup.of_map _ keyed.auditId).filter _
  have ordered : (db.auditsOf sid).Pairwise fun a b => a.time ≤ b.time := dated.audits.ordered.filter _
  exact Latest.orderBy_eq_iff ordered nodup

end Queries

variable {σ φ υ : Type} {P : PasModel σ φ υ}

/-- In every state of every sequential run and for every submission, the queries
    recover the order of insertion exactly if it has no ties. -/
theorem latest_wins_iff {pas : σ} {s : ProgSys σ}
    (run : Run (backend P) requests Sequential (idle (.initial pas)) s) (submissionId : String) :
    LatestWins s.world.db submissionId ↔ TieFree s.world.db submissionId := by
  obtain ⟨points, lifted, rfl⟩ := lift_idle run
  have keyed : points.world.db.Keyed := keyed_initial lifted
  have dated := (orderly_run run).world
  have decision := decision_wins_iff submissionId keyed dated
  have quote := quote_wins_iff submissionId keyed dated
  have audit := audit_kept_iff submissionId keyed dated
  constructor
  · intro wins
    exact ⟨decision.mp wins.decision, quote.mp wins.quote, audit.mp wins.audit⟩
  · intro free
    exact ⟨decision.mpr free.decisions, quote.mpr free.quotes, audit.mpr free.audits⟩

/-- The submission is assessed, quoted as `q` and then quoted once more. -/
def requoted (id : String) (time : ℕ) : Scenario.Script :=
  Scenario.intake ++ [.start Scenario.assess] ++ Scenario.assessing 1 "d" 10 ++ Scenario.closing 1 ++
    [.start Scenario.quote] ++ quoting 2 "q" 20 ++ Scenario.closing 2 ++
    [.start Scenario.quote] ++ quoting 3 id time ++ Scenario.closing 3
where
  /-- The quote and its audit entry get the same time. -/
  quoting (i : ℕ) (id : String) (time : ℕ) : Scenario.Script :=
    Scenario.drive i (.replicate 4 Scenario.read ++ [Scenario.insert id time, Scenario.insert ("quoted " ++ id) time])

theorem requoted_wins_iff : ∃ s, Run Scenario.service requests Sequential Scenario.empty s ∧
    (s.world.db.quotesOf "s").map (·.id) = ["q", "a"] ∧
    (LatestWins s.world.db "s" ↔ TieFree s.world.db "s") := by
  obtain ⟨s, run, quotes⟩ := exists_run Scenario.service requests Sequential Scenario.empty (requoted "a" 21)
    (fun s => (s.world.db.quotesOf "s").map (·.id) == ["q", "a"]) (by decide +kernel)
  exact ⟨s, run, by simpa using quotes, latest_wins_iff run "s"⟩

/-- Quoted again before the clock moves on, the submission keeps its first quote if
    the second one happens to get the smaller id. -/
theorem requoted_at_once : ¬ ∀ s, Run Scenario.service requests Sequential Scenario.empty s →
    ∀ submissionId, LatestWins s.world.db submissionId := by
  intro wins
  obtain ⟨s, run, found⟩ := exists_run Scenario.service requests Sequential Scenario.empty (requoted "a" 20)
    (fun s => (Latest.limitOne Quote.latestKey (s.world.db.quotesOf "s") 0).map (·.id) !=
      (s.world.db.quotesOf "s").getLast?.map (·.id)) (by decide +kernel)
  have answer := Option.some.inj ((wins s run "s").quote 0)
  rw [answer] at found
  simp at found

end Underwriting.Order
