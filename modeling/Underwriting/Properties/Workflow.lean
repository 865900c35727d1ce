import Underwriting.Lib.Serial
import Underwriting.Machine.Rows
import Underwriting.Machine.Scenario

/-! # Workflow and appetite

When requests run one at a time and the clock is strictly increasing, "latest
wins" lookups answer with the row committed last. The guards of the routes then
hold of the whole history: only undeclined submissions are quoted, only accepted
ones are bound, to their last quote, and a bound file stays as it was.
-/

namespace Underwriting

open Interleaving

/-- The submission's most recent decision. -/
def Db.LastDecision (db : Db) (submissionId : String) (decision : Decision) : Prop :=
  Latest.MostRecent Decision.latestKey (db.decisionsOf submissionId) decision

/-- The submission's most recent quote. -/
def Db.LastQuote (db : Db) (submissionId : String) (quote : Quote) : Prop :=
  Latest.MostRecent Quote.latestKey (db.quotesOf submissionId) quote

namespace Phase

/-- What a point has read is still the latest, as long as nobody else moves. -/
def Current (db : Db) : Phase → Prop
  | .quoteTable sid _ _ decision | .bindQuote sid _ _ decision => db.LastDecision sid decision
  | .quoteInsert file | .quoteAudit file _ | .quoteCommit file _ _ =>
      db.LastDecision file.submissionId file.decision
  | .bindHolder file | .bindClock file _ | .bindCreate file _ | .bindResolve file _ | .bindSubmit file _ _
  | .bindActivate file _ _ | .bindPublish file _ _ | .bindInsert file _ _ _ | .bindAudit file _ _ _ _
  | .bindCommit file _ _ _ _ _ =>
      db.LastDecision file.submissionId file.decision ∧ db.LastQuote file.submissionId file.quote
  | _ => True

end Phase

namespace Workflow

/-- A request starts when the others have ended, and time moves on with every
    reading of the clock. -/
def Sequential {σ φ υ : Type} (s : ProgSys σ) : Choice Request (Fate φ) (Env υ) → Prop
  | .start _ => Quiet requests s
  | .run _ fate => ∀ time ∈ fate.time?, s.world.clock < time
  | .crash _ | .env _ => True

instance {σ φ υ : Type} (s : ProgSys σ) (choice : Choice Request (Fate φ) (Env υ)) :
    Decidable (Sequential s choice) :=
  match choice with
  | .start _ => inferInstanceAs (Decidable (Quiet requests s))
  | .run _ fate => inferInstanceAs (Decidable (∀ time ∈ fate.time?, s.world.clock < time))
  | .crash _ | .env _ => .isTrue trivial

/-- The most recent decision exists and is not decline. -/
def Quotable (db : Db) (submissionId : String) : Prop :=
  ∃ decision, db.LastDecision submissionId decision ∧ decision.outcome ≠ Outcome.decline.value

/-- The most recent decision is accept and the quote is the most recent one. -/
def Bindable (db : Db) (submissionId quoteId : String) : Prop :=
  (∃ decision, db.LastDecision submissionId decision ∧ decision.outcome = Outcome.accept.value) ∧
    ∃ quote, db.LastQuote submissionId quote ∧ quote.id = quoteId

/-- `AppetiteRepository.get_version` -/
def getVersion (db : Db) (version : ℤ) : Option AppetiteRuleset := db.rulesets.find? (·.version = version)

/-- The columns of the submission keep to the ruleset. -/
structure Allows (spec : Appetite.RulesetSpec) (submission : Submission) : Prop where
  country : ∀ sanctioned ∈ spec.sanctionedCountries, Unicode.upper submission.country ≠ Unicode.upper sanctioned
  occupancy : submission.occupancy ∉ spec.excludedOccupancies
  lineOfBusiness : submission.lineOfBusiness ∈ spec.allowedLobs
  tivEur : submission.tivEur ≤ spec.maxTivEur

/-- The risk keeps to the ruleset that its most recent decision records. -/
def InAppetite (db : Db) (submissionId : String) : Prop :=
  ∃ submission decision ruleset spec, db.Has submissionId submission ∧ db.LastDecision submissionId decision ∧
    getVersion db decision.appetiteVersion = some ruleset ∧
    Appetite.RulesetSpec.fromRules ruleset.version ruleset.rules = .ok spec ∧
    Allows spec submission

/-! ## Time -/

/-- Decisions and quotes carry increasing times, all of them past. -/
structure Ticked (db : Db) (clock : ℕ) : Prop where
  decisions : Latest.Timed (fun d : Decision => d.time) db.decisions clock
  quotes : Latest.Timed (fun q : Quote => q.time) db.quotes clock

namespace Ticked

variable {db more : Db} {clock clock' : ℕ}

theorem empty : Ticked .empty clock := ⟨.nil, .nil⟩

theorem tick (ticked : Ticked db clock) (later : clock ≤ clock') : Ticked db clock' :=
  ⟨ticked.decisions.tick later, ticked.quotes.tick later⟩

theorem of_append (ticked : Ticked (db ++ more) clock) : Ticked db clock :=
  ⟨ticked.decisions.of_append, ticked.quotes.of_append⟩

theorem insertion {c : Call} {stamp row added} (ticked : Ticked db clock)
    (inserted : c.insertion stamp = some (row, added)) (later : clock < stamp.time) :
    Ticked (db ++ added) stamp.time := by
  have decisions := ticked.decisions.tick later.le
  have quotes := ticked.quotes.tick later.le
  cases c <;> cases inserted
  case addDecision => exact ⟨ticked.decisions.snoc later, by simpa using quotes⟩
  case addQuote => exact ⟨by simpa using decisions, ticked.quotes.snoc later⟩
  all_goals exact ⟨by simpa using decisions, by simpa using quotes⟩

theorem lastDecision {sid pick decision} (ticked : Ticked db clock)
    (read : db.query pick (.latestDecision sid) = some (some decision)) : db.LastDecision sid decision :=
  Latest.mostRecent_of_limitOne (ticked.decisions.increasing.filter _) (Option.some.inj read)

theorem lastQuote {sid pick quote} (ticked : Ticked db clock)
    (read : db.query pick (.latestQuote sid) = some (some quote)) : db.LastQuote sid quote := by
  have increasing : (db.quotesOf sid).Pairwise fun a b => a.latestKey < b.latestKey :=
    (ticked.quotes.increasing.filter _).imp fun earlier => Prod.Lex.toLex_lt_toLex.mpr (.inl earlier)
  exact Latest.mostRecent_of_limitOne increasing (Option.some.inj read)

variable {σ φ υ : Type} {P : PasModel σ φ υ} {w w' : World σ} {pending pending' : Db} {c : Call} {fate : Fate φ}
  {answer : Except PyErr (Reply c)}

/-- Every call keeps the order of time, in the store and in its transaction. -/
theorem handled (ticked : Ticked (w.db ++ pending) w.clock)
    (handled : Handled P w pending c fate answer w' pending') (later : ∀ time ∈ fate.time?, w.clock < time) :
    Ticked (w'.db ++ pending') w'.clock := by
  cases handled with
  | lost | read | pas | publish => exact ticked
  | insert inserted free => exact Db.append_assoc .. ▸ ticked.insertion inserted (later _ rfl)
  | refused | unfit => exact ticked.tick (later _ rfl).le
  | commit free => exact (Db.append_empty _).symm ▸ ticked
  | conflict taken => exact (Db.append_empty w.db).symm ▸ ticked.of_append
  | now time => exact ticked.tick (later _ rfl).le

end Ticked

/-! ## What a request knows -/

section Knowledge

variable {db db' : Db} {ph ph' : Phase} {sid : String}

/-- Knowledge depends on two tables only. -/
theorem current_congr (current : ph.Current db) (decisions : db'.decisions = db.decisions)
    (quotes : db'.quotes = db.quotes) : ph.Current db' := by
  have decision : ∀ sid d, db'.LastDecision sid d ↔ db.LastDecision sid d := fun sid d => by
    simp only [Db.LastDecision, Db.decisionsOf, decisions]
  have quote : ∀ sid q, db'.LastQuote sid q ↔ db.LastQuote sid q := fun sid q => by
    simp only [Db.LastQuote, Db.quotesOf, quotes]
  cases ph <;> first
    | exact trivial
    | simpa only [Phase.Current, decision, quote] using current

variable {σ φ υ : Type} {P : PasModel σ φ υ} {w w' : World σ} {pending pending' : Db} {c : Call}
  {rest : Except PyErr (Reply c) → Phase} {fate : Fate φ} {answer : Except PyErr (Reply c)}

/-- A request with nothing left to commit needs to know nothing. -/
theorem current_closed (closed : ph.Closed) : ph.Current db := by
  cases ph <;> first | exact trivial | exact closed.elim

/-- The reads of a request are current when they are made, and its other calls
    leave the store alone. -/
theorem current_call (current : ph.Current w.db) (ticked : Ticked w.db w.clock) (leads : Phase.Leads ph c answer ph')
    (handled : Handled P w pending c fate answer w' pending') : ph'.Current w.db := by
  cases leads with
  | quoteDecision | bindDecision =>
      obtain ⟨rfl, rfl, pick, read⟩ := handled.query rfl rfl
      exact ticked.lastDecision read
  | bindQuote =>
      obtain ⟨rfl, rfl, pick, read⟩ := handled.query rfl rfl
      exact ⟨current, ticked.lastQuote read⟩
  -- the other points pass on what they know, or end
  | ended | quoteCommit | bindCommit => trivial
  | _ => exact current

theorem current_next (current : ph.Current w.db) (ticked : Ticked w.db w.clock)
    (found : ph.next = some ⟨c, rest⟩) (handled : Handled P w pending c fate answer w' pending') :
    (rest answer).Current w'.db := by
  rcases handled.db with same | ⟨commits, -⟩
  · rw [same]
    exact current_call current ticked (Phase.leads_next found answer) handled
  · exact current_closed ((Phase.closed_next (Phase.leads_next found answer)).2 commits)

end Knowledge

section Inserted

variable {db : Db} {t : PointThread}

/-- A quote in a transaction was inserted under the latest decision. -/
theorem quotable_inserted (sound : Sound db t) (current : t.ctl.Current db) (live : t.Live points) {row}
    (inserted : row ∈ t.session.quotes) : Quotable db row.submissionId := by
  obtain ⟨n, next⟩ := Option.isSome_iff_exists.mp live
  have fits := sound.kept.1
  rw [sound.session next] at inserted
  cases phase : t.ctl <;> rw [phase] at inserted fits current
  case quoteAudit file written =>
    obtain rfl := List.mem_singleton.mp inserted
    rw [fits.1.owner fits.2]
    exact ⟨file.decision, current, fits.1.undeclined⟩
  case quoteCommit file written entry =>
    obtain rfl := List.mem_singleton.mp inserted
    rw [fits.1.owner fits.2.1]
    exact ⟨file.decision, current, fits.1.undeclined⟩
  all_goals cases inserted

/-- A Binding in a transaction was inserted under the latest decision, for the latest quote. -/
theorem bindable_inserted (sound : Sound db t) (current : t.ctl.Current db) (live : t.Live points) {row}
    (inserted : row ∈ t.session.bindings) : Bindable db row.submissionId row.quoteId := by
  obtain ⟨n, next⟩ := Option.isSome_iff_exists.mp live
  have fits := sound.kept.1
  rw [sound.session next] at inserted
  cases phase : t.ctl <;> rw [phase] at inserted fits current
  case bindAudit file request policy published written =>
    obtain rfl := List.mem_singleton.mp inserted
    rw [fits.1.1.owner fits.2, congrArg NewBinding.quoteId fits.2]
    exact ⟨⟨file.decision, current.1, fits.1.1.accepted⟩, file.quote, current.2, rfl⟩
  case bindCommit file request policy published written entry =>
    obtain rfl := List.mem_singleton.mp inserted
    rw [fits.1.1.owner fits.2.1, congrArg NewBinding.quoteId fits.2.1]
    exact ⟨⟨file.decision, current.1, fits.1.1.accepted⟩, file.quote, current.2, rfl⟩
  all_goals cases inserted

end Inserted

/-! ## Bound submissions -/

section Frozen

variable {db more : Db} {ph : Phase} {rest : Except PyErr (Reply .commit) → Phase} {sid quoteId : String}

theorem Bindable.append (bindable : Bindable db sid quoteId) (decisions : more.decisionsOf sid = [])
    (quotes : more.quotesOf sid = []) : Bindable (db ++ more) sid quoteId := by
  have sameDecisions : (db ++ more).decisionsOf sid = db.decisionsOf sid := by
    rw [Db.decisionsOf_append, decisions, List.append_nil]
  have sameQuotes : (db ++ more).quotesOf sid = db.quotesOf sid := by
    rw [Db.quotesOf_append, quotes, List.append_nil]
  simpa only [Bindable, Db.LastDecision, Db.LastQuote, sameDecisions, sameQuotes] using bindable

/-- A commit keeps every bound submission as it was bound. -/
theorem bindable_commit (fits : ph.Fits db) (current : ph.Current db)
    (unbound : ∀ sid, ph.guarded = some sid → ¬ db.Bound sid) (next : ph.next = some ⟨.commit, rest⟩)
    (bindable : ∀ b ∈ db.bindings, Bindable db b.submissionId b.quoteId) :
    ∀ b ∈ (db ++ ph.pending).bindings, Bindable (db ++ ph.pending) b.submissionId b.quoteId := by
  intro b member
  rcases List.mem_append.mp member with old | new
  · obtain ⟨decisions, quotes⟩ := Phase.commits_nothing fits next fun guarded =>
      unbound b.submissionId guarded ⟨b, old, rfl⟩
    exact (bindable b old).append decisions quotes
  · obtain ⟨file, request, policy, published, entry, rfl⟩ := Phase.commits_binding next new
    obtain ⟨⟨read, -⟩, written, -⟩ := fits
    rw [read.owner written, congrArg NewBinding.quoteId written]
    have now : Bindable db file.submissionId file.quote.id :=
      ⟨⟨file.decision, current.1, read.accepted⟩, file.quote, current.2, rfl⟩
    exact now.append rfl rfl

end Frozen

section Runs

variable {σ φ υ : Type} {P : PasModel σ φ υ} {s s' : PointSys σ} {choice : Choice Request (Fate φ) (Env υ)}

/-- The store keeps the order of time, and bound submissions are as they were bound. -/
structure Settled (w : World σ) : Prop where
  ticked : Ticked w.db w.clock
  bindable : ∀ b ∈ w.db.bindings, Bindable w.db b.submissionId b.quoteId

/-- The live thread's rows are the newest and what it has read is the latest. -/
structure Leading (w : World σ) (t : PointThread) : Prop where
  ticked : Ticked (w.db ++ t.session) w.clock
  current : t.ctl.Current w.db
  unbound : ∀ sid, t.ctl.guarded = some sid → ¬ w.db.Bound sid

theorem bindable_congr {db db' : Db} {sid quoteId : String} (bindable : Bindable db sid quoteId)
    (decisions : db'.decisions = db.decisions) (quotes : db'.quotes = db.quotes) : Bindable db' sid quoteId := by
  simpa only [Bindable, Db.LastDecision, Db.LastQuote, Db.decisionsOf, Db.quotesOf, decisions, quotes] using bindable

theorem settled_disturb (e : Env υ) {w : World σ} (settled : Settled w) : Settled (disturb P w e) := by
  refine ⟨⟨?_, ?_⟩, ?_⟩
  · simpa only [disturb_decisions, disturb_clock] using settled.ticked.decisions
  · simpa only [disturb_quotes, disturb_clock] using settled.ticked.quotes
  · intro b member
    rw [disturb_bindings] at member
    exact bindable_congr (settled.bindable b member) (disturb_decisions P w e) (disturb_quotes P w e)

theorem leading_disturb (e : Env υ) {w : World σ} {t : PointThread} (leading : Leading w t) :
    Leading (disturb P w e) t := by
  refine ⟨⟨?_, ?_⟩, ?_, ?_⟩
  · simpa only [Db.append_decisions, disturb_decisions, disturb_clock] using leading.ticked.decisions
  · simpa only [Db.append_quotes, disturb_quotes, disturb_clock] using leading.ticked.quotes
  · exact current_congr leading.current (disturb_decisions P w e) (disturb_quotes P w e)
  · simpa only [Db.Bound, disturb_bindings] using leading.unbound

abbrev Orderly (s : PointSys σ) : Prop := Serial points Settled Leading s

theorem orderly_step (sound : AllSound s) (orderly : Orderly s)
    (allowed : Sequential (s.map routes.map) choice) (stepped : step (backend P) points s choice = some s') :
    Orderly s' := by
  refine orderly.step stepped ?quiet ?start ?run ?env rfl
  case quiet =>
    rintro req rfl t member live
    have mapped : t.map routes.map ∈ (s.map routes.map).threads := List.mem_map_of_mem member
    exact allowed _ mapped ((Thread.live_map routes t).mpr live)
  case start =>
    rintro req rfl
    refine ⟨?_, ?_, ?_⟩
    · exact (Db.append_empty s.world.db).symm ▸ orderly.world.ticked
    · cases req <;> exact trivial
    · cases req <;> exact fun _ guarded => nomatch guarded
  case run =>
    rintro i fate t c rest answer world session rfl member leading next handled
    have handled := handle_cases handled
    have ticked := leading.ticked.handled handled allowed
    have fits := (sound t member).kept.1
    refine ⟨⟨ticked.of_append, ?_⟩, fun _ => ⟨ticked, ?_, ?_⟩⟩
    · rcases handled.db with same | ⟨rfl, -, appended, -⟩
      · rw [same]
        exact orderly.world.bindable
      · rw [appended, (sound t member).session next]
        exact bindable_commit fits leading.current leading.unbound next orderly.world.bindable
    · exact current_next leading.current orderly.world.ticked next handled
    · exact unbound_next leading.unbound next handled
  case env => exact fun e => ⟨settled_disturb e orderly.world, fun t _ => leading_disturb e⟩

theorem orderly_run {pas : σ}
    (run : Run (backend P) points (fun s choice => Sequential (s.map routes.map) choice) (idle (.initial pas)) s) :
    Orderly s := by
  have empty : Settled (World.initial pas) := ⟨Ticked.empty, fun _ member => nomatch member⟩
  have initial : Orderly (idle (.initial pas)) :=
    ⟨fun i j t u at_i => (nomatch at_i), empty, fun t member => nomatch member⟩
  refine points_invariant (I := Orderly) run keyed_empty initial ?_
  intro s choice s' sound _ orderly allowed stepped
  exact orderly_step sound orderly allowed stepped

end Runs

theorem outcome_value_injective : ∀ {a b : Outcome}, a.value = b.value → a = b
  | .accept, .accept, _ | .refer, .refer, _ | .decline, .decline, _ => rfl

/-- An accepted decision was assessed within its ruleset's appetite. -/
theorem within_of_accepted {db : Db} {sid quoteId : String} (keyed : db.Keyed) (sourced : db.Sourced)
    (bindable : Bindable db sid quoteId) : InAppetite db sid := by
  obtain ⟨⟨decision, latest, accepted⟩, -⟩ := bindable
  obtain ⟨stored, owner⟩ := Db.mem_decisionsOf.mp (List.mem_of_getLast? latest.last)
  obtain ⟨file, read, written⟩ := sourced.decisions decision stored
  have version : decision.appetiteVersion = file.ruleset.version := congrArg (·.appetiteVersion) written
  have outcome : decision.outcome = file.result.1.value := congrArg (·.outcome) written
  have assessedAs : file.result.1 = .accept := outcome_value_injective (outcome.symm.trans accepted)
  have submission : file.submission.id = sid := by
    rw [← owner]
    exact (congrArg (·.submissionId) written).symm
  obtain ⟨spec, built, assessed⟩ := bind_ok read.assessed
  have result : Appetite.assess (SubmissionService.factsOf file.submission) spec = file.result :=
    Except.ok.inj assessed
  have within := Appetite.assess_accept.mp ((congrArg Prod.fst result).trans assessedAs)
  refine ⟨file.submission, decision, file.ruleset, spec, ⟨read.has.1, submission⟩, latest, ?_, built, ?_⟩
  · rw [version]
    exact Db.find?_key keyed.rulesetVersion read.ruleset
  · exact ⟨within.notSanctioned, within.notExcluded, within.allowed, within.affordable⟩

variable {σ φ υ : Type} {P : PasModel σ φ υ}

/-- In every state of a sequential run: a request that has inserted a quote has
    done so under a latest decision which is not decline, one that has inserted a
    Binding has done so under a latest accept and for the latest quote, and every
    bound submission is within the appetite it was accepted under. -/
theorem sequential_runs_safe {pas : σ} {s : ProgSys σ}
    (run : Run (backend P) requests Sequential (idle (.initial pas)) s) :
    (∀ t ∈ s.threads, t.Live requests → ∀ row ∈ t.session.quotes, Quotable s.world.db row.submissionId) ∧
      (∀ t ∈ s.threads, t.Live requests →
        ∀ row ∈ t.session.bindings, Bindable s.world.db row.submissionId row.quoteId) ∧
      ∀ b ∈ s.world.db.bindings,
        Bindable s.world.db b.submissionId b.quoteId ∧ InAppetite s.world.db b.submissionId := by
  obtain ⟨s, lifted, rfl⟩ := lift_idle run
  have orderly := orderly_run lifted
  have sound : AllSound s := .run lifted (.idle _)
  refine ⟨fun t member live row inserted => ?_, fun t member live row inserted => ?_, fun b member => ?_⟩
  · obtain ⟨t, known, rfl⟩ := List.mem_map.mp member
    exact quotable_inserted (sound t known) (orderly.live t known ((Thread.live_map routes t).mp live)).current
      ((Thread.live_map routes t).mp live) inserted
  · obtain ⟨t, known, rfl⟩ := List.mem_map.mp member
    exact bindable_inserted (sound t known) (orderly.live t known ((Thread.live_map routes t).mp live)).current
      ((Thread.live_map routes t).mp live) inserted
  · have bindable := orderly.world.bindable b member
    exact ⟨bindable, within_of_accepted (keyed_initial lifted) (sourced_run lifted) bindable⟩

theorem bound_run_safe : ∃ s, Run Scenario.service requests Sequential Scenario.empty s ∧
    s.world.db.bindings.length = 1 ∧
    ∀ b ∈ s.world.db.bindings,
      Bindable s.world.db b.submissionId b.quoteId ∧ InAppetite s.world.db b.submissionId := by
  obtain ⟨s, run, one⟩ := exists_run Scenario.service requests Sequential Scenario.empty Scenario.bound
    (fun s => s.world.db.bindings.length == 1) (by decide +kernel)
  exact ⟨s, run, by simpa using one, (sequential_runs_safe run).2.2⟩

end Workflow

end Underwriting
