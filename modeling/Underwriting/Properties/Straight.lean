import Underwriting.Properties.Capacity
import Underwriting.Properties.Columns
import Underwriting.Properties.Convergence
import Underwriting.Properties.Reassess
import Underwriting.Properties.Replay

/-! # Straight through

Under the seeded rules a submission is created, assessed, quoted and bound by four
requests, each alone and without faults: every one of them returns, and what it
returns is what the rules say. The publisher may fail.
-/

namespace Underwriting.Straight

open Interleaving Lifecycle
open BindService (policyNumberFor)
open Convergence (Converged)
open Replay (Priceable priceable)

/-- The request returns, and what it returns and leaves meets the condition. -/
abbrev Serves (paging : Paging) (req : Request) (w : World (List Policy))
    (post : Answer → World (List Policy) → Prop) : Prop :=
  (route req).Succeeds (backend (model paging)) FaultFree post w .empty

/-- The current rules are the seeded ones. -/
structure Seeded (db : Db) : Prop where
  ruleset : ∃ r ∈ db.rulesets, r.rules = Appetite.v1Rules ∧ ∀ other ∈ db.rulesets, other.version ≤ r.version
  rateTable : ∃ t ∈ db.rateTables, (t.rules = Rating.v1Rules ∨ t.rules = Rating.v2Rules) ∧
    ∀ other ∈ db.rateTables, other.version ≤ t.version

/-- No Binding and no policy has the number. -/
structure Unused (number : String) (w : World (List Policy)) : Prop where
  bindings : ∀ b ∈ w.db.bindings, b.policyNumber ≠ number
  policies : ∀ p ∈ w.pas, p.policyNumber ≠ number

/-- Decisions, quotes and Bindings belong to stored submissions. -/
structure Owned (db : Db) : Prop where
  decisions : ∀ d ∈ db.decisions, ∃ s ∈ db.submissions, s.id = d.submissionId
  quotes : ∀ q ∈ db.quotes, ∃ s ∈ db.submissions, s.id = q.submissionId
  bindings : ∀ b ∈ db.bindings, ∃ s ∈ db.submissions, s.id = b.submissionId

/-! ## Rows that join -/

/-- At most one row, with a new id. -/
def Joins {Row : Type} (id : Row → String) (old new : List Row) : Prop :=
  new = [] ∨ ∃ row, new = [row] ∧ id row ∉ old.map id

theorem Joins.nodup {Row : Type} {id : Row → String} {old new : List Row} (joins : Joins id old new)
    (nodup : (old.map id).Nodup) : ((old ++ new).map id).Nodup := by
  rcases joins with rfl | ⟨row, rfl, fresh⟩
  · rwa [List.append_nil]
  · exact Db.nodup_snoc nodup fresh

/-- Rows of a transaction that has no Binding and no rules. -/
theorem keyed_joins {db more : Db} (keyed : db.Keyed)
    (counterparties : Joins (·.id) db.counterparties more.counterparties)
    (submissions : Joins (·.id) db.submissions more.submissions)
    (decisions : Joins (·.id) db.decisions more.decisions) (quotes : Joins (·.id) db.quotes more.quotes)
    (audits : Joins (·.id) db.audits more.audits)
    (others : more.bindings = [] ∧ more.rulesets = [] ∧ more.rateTables = []) : (db ++ more).Keyed := by
  obtain ⟨bindings, rulesets, rateTables⟩ := others
  constructor
  case counterpartyId => exact counterparties.nodup keyed.counterpartyId
  case submissionId => exact submissions.nodup keyed.submissionId
  case decisionId => exact decisions.nodup keyed.decisionId
  case quoteId => exact quotes.nodup keyed.quoteId
  case auditId => exact audits.nodup keyed.auditId
  all_goals simp only [Db.append_bindings, Db.append_rulesets, Db.append_rateTables, bindings, rulesets, rateTables,
    List.append_nil]
  exacts [keyed.bindingId, keyed.rulesetId, keyed.rateTableId, keyed.boundOnce, keyed.policyNumber,
    keyed.rulesetVersion, keyed.rateTableVersion]

/-- An id that no table has. -/
structure New (db : Db) (id : String) : Prop where
  counterparties : id ∉ db.counterparties.map (·.id)
  submissions : id ∉ db.submissions.map (·.id)
  decisions : id ∉ db.decisions.map (·.id)
  quotes : id ∉ db.quotes.map (·.id)
  audits : id ∉ db.audits.map (·.id)

theorem new_of_fresh {db : Db} {id : String} (fresh : id ∉ db.ids) : New db id := by
  simp only [Db.ids, List.mem_append, not_or] at fresh
  obtain ⟨⟨⟨⟨⟨⟨⟨counterparties, submissions⟩, decisions⟩, quotes⟩, -⟩, audits⟩, -⟩, -⟩ := fresh
  exact ⟨counterparties, submissions, decisions, quotes, audits⟩

section Requests

variable {paging : Paging} {post : Answer → World (List Policy) → Prop} {w : World (List Policy)}

/-- The commit and the refresh of a transaction. -/
theorem closing_finishes {ph : Phase} {pending : Db} {answer : Answer} {committed : Except PyErr Unit → Phase}
    {refreshed : Except PyErr Unit → Phase} (commits : ph.next = some ⟨.commit, committed⟩)
    (refreshes : (committed (.ok ())).next = some ⟨.refresh, refreshed⟩)
    (ends : refreshed (.ok ()) = .ended (.ok answer)) (keyed : (w.db ++ pending).Keyed)
    (met : post answer { w with db := w.db ++ pending }) : ph.Finishes paging post w pending := by
  refine Phase.finishes_commit commits keyed ?_
  refine Phase.finishes_query refreshes rfl fun pick done _ => ?_
  change (refreshed (.ok ())).Finishes paging post _ _
  rw [ends]
  exact Phase.finishes_ended met

/-- The row of a payload and that of its counterparty. -/
structure Created (payload : SubmissionCreate) (row : Submission) (db : Db) : Prop where
  stored : row ∈ db.submissions
  counterparty : ∃ cp ∈ db.counterparties, cp.id = row.counterpartyId ∧ cp.name = payload.counterparty.name ∧
    cp.country = Unicode.upper payload.counterparty.country
  lineOfBusiness : row.lineOfBusiness = payload.lineOfBusiness.value
  tivEur : row.tivEur = payload.tivEur
  occupancy : row.occupancy = payload.occupancy.value
  country : row.country = Unicode.upper payload.country
  postcode : row.postcode = payload.postcode
  requestedCover : row.requestedCover = payload.requestedCover
  brokerRef : row.brokerRef = payload.brokerRef

theorem Created.of_rows {payload : SubmissionCreate} {row : Submission} {cp : Counterparty} {db : Db}
    (stored : row ∈ db.submissions) (known : cp ∈ db.counterparties)
    (writes : cp.toNewCounterparty = Columns.newCounterparty payload)
    (written : row.toNewSubmission = SubmissionService.newSubmission payload cp.id) : Created payload row db where
  stored := stored
  counterparty := ⟨cp, known, (congrArg NewSubmission.counterpartyId written).symm,
    congrArg NewCounterparty.name writes, congrArg NewCounterparty.country writes⟩
  lineOfBusiness := congrArg NewSubmission.lineOfBusiness written
  tivEur := congrArg NewSubmission.tivEur written
  occupancy := congrArg NewSubmission.occupancy written
  country := congrArg NewSubmission.country written
  postcode := congrArg NewSubmission.postcode written
  requestedCover := congrArg NewSubmission.requestedCover written
  brokerRef := congrArg NewSubmission.brokerRef written

/-- A new submission without a decision, a quote or a Binding. -/
structure Intake (payload : SubmissionCreate) (row : Submission) (before after : World (List Policy)) : Prop where
  created : Created payload row after.db
  rows : ∃ cp entry, after.db = before.db ++ { counterparties := [cp], submissions := [row], audits := [entry] }
  fresh : row.id ∉ before.db.submissions.map (·.id)
  keyed : after.db.Keyed
  pas : after.pas = before.pas

theorem create_finishes (keyed : w.db.Keyed) {payload : SubmissionCreate} {actor : String}
    (bounded : Columns.Bounded payload actor) :
    (Phase.createCounterparty payload actor).Finishes paging
      (fun answer after => ∃ row, answer = .submission row ∧ Intake payload row w after) w .empty := by
  obtain ⟨fits, fits'⟩ := bounded.fits
  refine Phase.finishes_insert rfl rfl (fun stamp => rfl) fits fun first cp added cpFresh inserts => ?_
  cases inserts
  have cpJoins : ∀ cp : Counterparty, cp.toStamp = first → Joins (·.id) w.db.counterparties [cp] := by
    rintro cp rfl
    exact .inr ⟨cp, rfl, (new_of_fresh cpFresh).counterparties⟩
  refine ⟨keyed_joins keyed (cpJoins _ rfl) (.inl rfl) (.inl rfl) (.inl rfl) (.inl rfl) ⟨rfl, rfl, rfl⟩, ?_⟩
  refine Phase.finishes_insert rfl rfl (fun stamp => rfl) (fits' _) fun second row added rowFresh inserts => ?_
  cases inserts
  have rowJoins : ∀ row : Submission, row.toStamp = second → Joins (·.id) w.db.submissions [row] := by
    rintro row rfl
    exact .inr ⟨row, rfl, (new_of_fresh rowFresh).submissions⟩
  refine ⟨keyed_joins keyed (cpJoins _ rfl) (rowJoins _ rfl) (.inl rfl) (.inl rfl) (.inl rfl) ⟨rfl, rfl, rfl⟩, ?_⟩
  refine Phase.finishes_insert rfl rfl (fun stamp => rfl) (Columns.created_fits.mpr bounded.actor)
    fun third entry added entryFresh inserts => ?_
  cases inserts
  refine ⟨?keyed, closing_finishes rfl rfl rfl ?keyed ⟨_, rfl, ?created, ⟨_, _, rfl⟩, ?fresh, ?keyed, rfl⟩⟩
  · exact keyed_joins keyed (cpJoins _ rfl) (rowJoins _ rfl) (.inl rfl) (.inl rfl)
      (.inr ⟨_, rfl, (new_of_fresh entryFresh).audits⟩) ⟨rfl, rfl, rfl⟩
  · exact .of_rows (List.mem_append_right _ (List.mem_singleton_self _))
      (List.mem_append_right _ (List.mem_singleton_self _)) rfl rfl
  · exact (new_of_fresh rowFresh).submissions

/-! ## Assess -/

/-- The seeded appetite. -/
def appetite (version : ℤ) : Appetite.RulesetSpec where
  version
  allowedLobs := {LineOfBusiness.commercialProperty.value}
  maxTivEur := 1000000000
  excludedOccupancies := {Occupancy.fireworksManufacturing.value}
  sanctionedCountries := {"KP", "IR", "SY", "RU"}

theorem fromRules_appetite (version : ℤ) :
    Appetite.RulesetSpec.fromRules version Appetite.v1Rules = .ok (appetite version) := by
  rfl

/-- The ruleset that is read. -/
theorem current_ruleset {db : Db} (keyed : db.Keyed) (seeded : Seeded db) {pick : ℕ} {found : Option AppetiteRuleset}
    (read : db.query pick .currentRuleset = some found) : ∃ ruleset, found = some ruleset ∧
      ruleset.rules = Appetite.v1Rules := by
  obtain ⟨r, member, rules, top⟩ := seeded.ruleset
  have read : Latest.limitOne (fun r : AppetiteRuleset => r.version) db.rulesets pick = found := Option.some.inj read
  cases found with
  | none =>
      rw [Latest.limitOne_eq_none.mp read] at member
      cases member
  | some ruleset =>
      obtain ⟨member', top'⟩ := Latest.limitOne_top read
      have same : ruleset = r := List.inj_on_of_nodup_map keyed.rulesetVersion member' member
        (le_antisymm (top ruleset member') (top' r member))
      exact ⟨ruleset, rfl, same ▸ rules⟩

/-- A decision of the submission with its entry, and nothing else. It is what the seeded
    appetite says of the stored columns. -/
structure Assessed (submission : Submission) (actor : String) (row : Decision)
    (before after : World (List Policy)) : Prop where
  owner : row.submissionId = submission.id
  result : ∃ version, Reassess.Stores row (Appetite.assess (Reassess.storedFacts submission) (appetite version))
  decidedBy : row.decidedBy = actor
  rows : ∃ entry, after.db = before.db ++ { decisions := [row], audits := [entry] }
  keyed : after.db.Keyed
  pas : after.pas = before.pas

theorem located {db : Db} (keyed : db.Keyed) {submission : Submission} (stored : submission ∈ db.submissions) {pick : ℕ}
    {found : Option Submission} (read : db.query pick (.getSubmission submission.id) = some found) :
    found = some submission :=
  (Option.some.inj read).symm.trans (Db.find?_key keyed.submissionId stored)

theorem assess_finishes (keyed : w.db.Keyed) (seeded : Seeded w.db) {submission : Submission}
    (stored : submission ∈ w.db.submissions) (unbound : ¬w.db.Bound submission.id) {actor : String}
    (named : Varchar 128 actor) : (Phase.assessGuard submission.id actor).Finishes paging
      (fun answer after => ∃ row, answer = .decision row ∧ Assessed submission actor row w after) w .empty := by
  refine Phase.finishes_query rfl rfl fun pick existing read => ?_
  cases existing with
  | some b =>
      have found : w.db.bindings.find? (·.submissionId = submission.id) = some b := Option.some.inj read
      exact absurd ⟨b, List.mem_of_find?_eq_some found, by simpa using List.find?_some found⟩ unbound
  | none =>
      refine Phase.finishes_query rfl rfl fun pick found read => ?_
      obtain rfl := located keyed stored read
      refine Phase.finishes_query rfl rfl fun pick found read => ?_
      obtain ⟨ruleset, rfl, rules⟩ := current_ruleset keyed seeded read
      have assessed : SubmissionService.assessed submission ruleset =
          .ok (Appetite.assess (SubmissionService.factsOf submission) (appetite ruleset.version)) := by
        rw [SubmissionService.assessed, rules, fromRules_appetite]
        rfl
      change (Phase.onOk _ _ (SubmissionService.assessed submission ruleset)).Finishes _ _ _ _
      rw [assessed]
      have outcome := Outcome.value_fits
        (Appetite.assess (SubmissionService.factsOf submission) (appetite ruleset.version)).1
      refine Phase.finishes_insert rfl rfl (fun stamp => rfl) ⟨outcome, named⟩ fun stamp row added fresh inserts => ?_
      cases inserts
      have joins : ∀ row : Decision, row.toStamp = stamp → Joins (·.id) w.db.decisions [row] := by
        rintro row rfl
        exact .inr ⟨row, rfl, (new_of_fresh fresh).decisions⟩
      refine ⟨keyed_joins keyed (.inl rfl) (.inl rfl) (joins _ rfl) (.inl rfl) (.inl rfl) ⟨rfl, rfl, rfl⟩, ?_⟩
      have action : Varchar 64 "submission.assessed" := by decide
      refine Phase.finishes_insert rfl rfl (fun stamp => rfl)
        ⟨action, named, fun recorded given => Option.mem_some.mp given ▸ outcome⟩ fun second entry added fresh inserts => ?_
      cases inserts
      refine ⟨?keyed, closing_finishes rfl rfl rfl ?keyed
        ⟨_, rfl, rfl, ⟨_, rfl, rfl⟩, rfl, ⟨_, rfl⟩, ?keyed, rfl⟩⟩
      exact keyed_joins keyed (.inl rfl) (.inl rfl) (joins _ rfl) (.inl rfl)
        (.inr ⟨_, rfl, (new_of_fresh fresh).audits⟩) ⟨rfl, rfl, rfl⟩

/-! ## Quote -/

/-- The rate table that is read. -/
theorem current_rateTable {db : Db} (keyed : db.Keyed) (seeded : Seeded db) {pick : ℕ} {found : Option RateTable}
    (read : db.query pick .currentRateTable = some found) : ∃ rateTable, found = some rateTable ∧
      (rateTable.rules = Rating.v1Rules ∨ rateTable.rules = Rating.v2Rules) := by
  obtain ⟨t, member, rules, top⟩ := seeded.rateTable
  have read : Latest.limitOne (fun t : RateTable => t.version) db.rateTables pick = found := Option.some.inj read
  cases found with
  | none =>
      rw [Latest.limitOne_eq_none.mp read] at member
      cases member
  | some rateTable =>
      obtain ⟨member', top'⟩ := Latest.limitOne_top read
      have same : rateTable = t := List.inj_on_of_nodup_map keyed.rateTableVersion member' member
        (le_antisymm (top rateTable member') (top' t member))
      exact ⟨rateTable, rfl, same ▸ rules⟩

/-- An occupancy of the enumeration, and an amount that its column holds. -/
structure Ratable (submission : Submission) : Prop where
  occupancy : ∃ occupancy : Occupancy, submission.occupancy = occupancy.value
  nonneg : 0 ≤ submission.tivEur
  range : submission.tivEur < 2 ^ 63

/-- The seeded tables price it. -/
theorem seed_priced {submission : Submission} (ratable : Ratable submission) {rateTable : RateTable}
    (seed : rateTable.rules = Rating.v1Rules ∨ rateTable.rules = Rating.v2Rules) :
    ∃ breakdown, RatingService.priced submission rateTable = .ok breakdown ∧ Rating.InRange breakdown := by
  obtain ⟨occupancy, same⟩ := ratable.occupancy
  have known : ∃ factor, Rating.seedFactors.lookup (RatingService.factsOf submission).occupancy = some factor := by
    change ∃ factor, Rating.seedFactors.lookup submission.occupancy = some factor
    rw [same]
    cases occupancy <;> exact ⟨_, rfl⟩
  have nonneg : 0 ≤ (RatingService.factsOf submission).tivEur := ratable.nonneg
  obtain ⟨factor, found⟩ := known
  rcases seed with rules | rules
  · obtain ⟨breakdown, priced, inRange⟩ := Rating.rate_affordable
      (Capacity.affordable_v1.renumber rateTable.version) nonneg ratable.range found rfl rfl
    refine ⟨breakdown, ?_, inRange⟩
    rw [RatingService.priced, RatingService.specOf, rules, Rating.fromRules_v1]
    exact priced
  · obtain ⟨breakdown, priced, inRange⟩ := Rating.rate_affordable
      (Capacity.affordable_v2.renumber rateTable.version) nonneg ratable.range found rfl rfl
    refine ⟨breakdown, ?_, inRange⟩
    rw [RatingService.priced, RatingService.specOf, rules, Rating.fromRules_v2]
    exact priced

/-- A quote of the submission with its entry, at the price of a stored rate table, and
    nothing else. -/
structure Quoted (submission : Submission) (actor : String) (row : Quote) (before after : World (List Policy)) :
    Prop where
  owner : row.submissionId = submission.id
  price : ∃ rateTable ∈ before.db.rateTables, ∃ spec facts breakdown,
    Rating.RateTableSpec.fromRules rateTable.version rateTable.rules = .ok spec ∧ Priceable submission facts ∧
      Rating.rate .standard facts spec = .ok breakdown ∧ Replay.Stores row breakdown ∧
        row.rateTableVersion = rateTable.version
  createdBy : row.createdBy = actor
  rows : ∃ entry, after.db = before.db ++ { quotes := [row], audits := [entry] }
  keyed : after.db.Keyed
  pas : after.pas = before.pas

/-- Both rows of a quote fit. -/
theorem quote_fits {submission : Submission} {rateTable : RateTable} {breakdown : Rating.QuoteBreakdown}
    {actor : String} (priced : RatingService.priced submission rateTable = .ok breakdown)
    (inRange : Rating.InRange breakdown) (named : Varchar 128 actor) :
    (RatingService.newQuote submission breakdown actor).Fits ∧
      (RatingService.quotedEntry submission rateTable breakdown actor).Fits := by
  obtain ⟨spec, -, rated⟩ := bind_ok priced
  have amounts := Capacity.quoteFits_newQuote inRange submission actor
  have currency : Varchar 3 breakdown.currency := (Rating.rate_labels rated).2 ▸ (by decide : Varchar 3 "EUR")
  have action : Varchar 64 "quote" := by decide
  exact ⟨⟨amounts.premium, currency, amounts.pure, amounts.technical, amounts.commercial, amounts.taxes, named⟩,
    ⟨action, named, fun _ none => nomatch none⟩⟩

theorem quote_finishes (keyed : w.db.Keyed) (seeded : Seeded w.db) {submission : Submission}
    (stored : submission ∈ w.db.submissions) (unbound : ¬w.db.Bound submission.id) (ratable : Ratable submission)
    {decision : Decision} (only : w.db.decisionsOf submission.id = [decision])
    (undeclined : decision.outcome ≠ Outcome.decline.value) {actor : String} (named : Varchar 128 actor) :
    (Phase.quoteGuard submission.id actor).Finishes paging
      (fun answer after => ∃ row, answer = .quote row ∧ Quoted submission actor row w after) w .empty := by
  refine Phase.finishes_query rfl rfl fun pick existing read => ?_
  cases existing with
  | some b =>
      have found : w.db.bindings.find? (·.submissionId = submission.id) = some b := Option.some.inj read
      exact absurd ⟨b, List.mem_of_find?_eq_some found, by simpa using List.find?_some found⟩ unbound
  | none =>
      refine Phase.finishes_query rfl rfl fun pick found read => ?_
      obtain rfl := located keyed stored read
      refine Phase.finishes_query rfl rfl fun pick found read => ?_
      have read : Latest.limitOne Decision.latestKey (w.db.decisionsOf submission.id) pick = found :=
        Option.some.inj read
      rw [only] at read
      have last : Latest.limitOne Decision.latestKey ([] ++ [decision]) pick = some decision :=
        Latest.limitOne_last (by simp)
      obtain rfl : some decision = found := last.symm.trans read
      change (if decision.outcome = Outcome.decline.value then _ else _ : Phase).Finishes _ _ _ _
      rw [if_neg undeclined]
      refine Phase.finishes_query rfl rfl fun pick found read => ?_
      obtain ⟨rateTable, rfl, rules⟩ := current_rateTable keyed seeded read
      obtain ⟨breakdown, priced, inRange⟩ := seed_priced ratable rules
      obtain ⟨spec, built, rated⟩ := bind_ok priced
      have version := RatingService.priced_version priced
      obtain ⟨fits, fits'⟩ := quote_fits priced inRange named
      have listed : rateTable ∈ w.db.rateTables := (Latest.limitOne_top (Option.some.inj read)).1
      change (Phase.onOk _ _ (RatingService.priced submission rateTable)).Finishes _ _ _ _
      rw [priced]
      refine Phase.finishes_insert rfl rfl (fun stamp => rfl) fits fun stamp row added fresh inserts => ?_
      cases inserts
      have joins : ∀ row : Quote, row.toStamp = stamp → Joins (·.id) w.db.quotes [row] := by
        rintro row rfl
        exact .inr ⟨row, rfl, (new_of_fresh fresh).quotes⟩
      refine ⟨keyed_joins keyed (.inl rfl) (.inl rfl) (.inl rfl) (joins _ rfl) (.inl rfl) ⟨rfl, rfl, rfl⟩, ?_⟩
      refine Phase.finishes_insert rfl rfl (fun stamp => rfl) fits' fun second entry added fresh inserts => ?_
      cases inserts
      refine ⟨?keyed, closing_finishes rfl rfl rfl ?keyed ⟨_, rfl, rfl,
        ⟨rateTable, listed, spec, _, breakdown, built, priceable submission, rated,
          ⟨rfl, rfl, rfl, rfl, rfl, rfl, Replay.carries_items breakdown⟩, version⟩, rfl, ⟨_, rfl⟩, ?keyed, rfl⟩⟩
      exact keyed_joins keyed (.inl rfl) (.inl rfl) (.inl rfl) (joins _ rfl)
        (.inr ⟨_, rfl, (new_of_fresh fresh).audits⟩) ⟨rfl, rfl, rfl⟩

/-! ## Bind -/

theorem bind_finishes (exact_paging : Exact paging) (keyed : w.db.Keyed) (unique : Unique w.pas)
    {submission : Submission} (stored : submission ∈ w.db.submissions) (unbound : ¬w.db.Bound submission.id)
    {decision : Decision} (assessed : w.db.decisionsOf submission.id = [decision])
    (accepted : decision.outcome = Outcome.accept.value) {quote : Quote}
    (quoted : w.db.quotesOf submission.id = [quote]) (unused : Unused (policyNumberFor quote.id) w)
    (ids : ShortIds w.pas) {actor : String} (named : Varchar 128 actor) :
    (Phase.bindSubmission submission.id actor).Finishes paging
      (Convergence.Returned submission.id (policyNumberFor quote.id)) w .empty := by
  have opened : Convergence.Open submission.id quote w := by
    refine ⟨by simp [assessed], ?_, ?_, ?_, unique, ids⟩
    · intro d member
      have only := (Latest.mem_tops.mp member).1
      rw [assessed, List.mem_singleton] at only
      exact only ▸ accepted
    · intro pick found read
      have read : Latest.limitOne Quote.latestKey (w.db.quotesOf submission.id) pick = found := Option.some.inj read
      have last : Latest.limitOne Quote.latestKey ([] ++ [quote]) pick = some quote := Latest.limitOne_last (by simp)
      rw [quoted] at read
      exact read.symm.trans last
    · exact fun p member number => absurd number (unused.policies p member)
  apply Convergence.bind_finishes exact_paging keyed opened named ⟨stored, rfl⟩
  · exact fun b member _ => unused.bindings b member
  · exact fun b member owner => absurd ⟨b, member, owner⟩ unbound

end Requests

/-! ## All four -/

section Files

variable {db : Db}

/-- Nothing belongs to a submission that is not there. -/
theorem Owned.none (owned : Owned db) {id : String} (fresh : id ∉ db.submissions.map (·.id)) :
    db.decisionsOf id = [] ∧ db.quotesOf id = [] ∧ ¬db.Bound id := by
  have absent : ∀ s ∈ db.submissions, s.id ≠ id := fun s member same => fresh (same ▸ List.mem_map_of_mem member)
  refine ⟨List.filter_eq_nil_iff.mpr fun d member same => ?_, List.filter_eq_nil_iff.mpr fun q member same => ?_, ?_⟩
  · obtain ⟨s, stored, owner⟩ := owned.decisions d member
    exact absent s stored (owner.trans (of_decide_eq_true same))
  · obtain ⟨s, stored, owner⟩ := owned.quotes q member
    exact absent s stored (owner.trans (of_decide_eq_true same))
  · rintro ⟨b, member, same⟩
    obtain ⟨s, stored, owner⟩ := owned.bindings b member
    exact absent s stored (owner.trans same)

/-- In every reachable state the rows belong to stored submissions. -/
theorem owned_run {σ φ υ : Type} {P : PasModel σ φ υ} {pas : σ} {ok} {s : PointSys σ}
    (run : Run (backend P) points ok (idle (.initial pas)) s) : Owned s.world.db := by
  have sourced := sourced_run run
  constructor
  · intro d member
    obtain ⟨file, read, written⟩ := sourced.decisions d member
    exact ⟨file.submission, read.has.1, (congrArg NewDecision.submissionId written).symm⟩
  · intro q member
    obtain ⟨file, read, written⟩ := sourced.quotes q member
    exact ⟨file.submission, read.has.1, (congrArg NewQuote.submissionId written).symm⟩
  · intro b member
    obtain ⟨file, policy, published, read, written⟩ := sourced.bindings b member
    exact ⟨file.submission, read.has.1, (congrArg NewBinding.submissionId written).symm⟩

theorem Seeded.append {more : Db} (seeded : Seeded db) (none : more.rulesets = [] ∧ more.rateTables = []) :
    Seeded (db ++ more) := by
  obtain ⟨rulesets, rateTables⟩ := none
  constructor
  · rw [Db.append_rulesets, rulesets, List.append_nil]
    exact seeded.ruleset
  · rw [Db.append_rateTables, rateTables, List.append_nil]
    exact seeded.rateTable

end Files

/-- A submission's rows while nobody else touches it. -/
structure File (row : Submission) (decisions : List Decision) (quotes : List Quote) (w : World (List Policy)) :
    Prop where
  keyed : w.db.Keyed
  seeded : Seeded w.db
  unique : Unique w.pas
  stored : row ∈ w.db.submissions
  unbound : ¬w.db.Bound row.id
  assessed : w.db.decisionsOf row.id = decisions
  quoted : w.db.quotesOf row.id = quotes

section Files

variable {w w' : World (List Policy)} {row : Submission} {decisions : List Decision} {quotes : List Quote}

theorem not_bound_append {db more : Db} {sid : String} (unbound : ¬db.Bound sid) (none : more.bindings = []) :
    ¬(db ++ more).Bound sid := by
  rintro ⟨b, member, owner⟩
  rw [Db.append_bindings, none, List.append_nil] at member
  exact unbound ⟨b, member, owner⟩

theorem File.created (owned : Owned w.db) (seeded : Seeded w.db) (unique : Unique w.pas)
    {payload : SubmissionCreate} (intake : Intake payload row w w') : File row [] [] w' := by
  obtain ⟨-, ⟨cp, entry, rows⟩, fresh, keyed', pas⟩ := intake
  obtain ⟨undecided, unquoted, unbound⟩ := owned.none fresh
  refine ⟨keyed', ?_, pas ▸ unique, ?_, ?_, ?_, ?_⟩ <;> rw [rows]
  · exact seeded.append ⟨rfl, rfl⟩
  · exact List.mem_append_right _ (List.mem_singleton_self _)
  · exact not_bound_append unbound rfl
  · rw [Db.decisionsOf_append, undecided]
    rfl
  · rw [Db.quotesOf_append, unquoted]
    rfl

theorem File.decided (file : File row [] quotes w) {decision : Decision} {actor : String}
    (assessed : Assessed row actor decision w w') :
    File row [decision] quotes w' := by
  obtain ⟨owner, -, -, ⟨entry, rows⟩, keyed', pas⟩ := assessed
  refine ⟨keyed', ?_, pas ▸ file.unique, ?_, ?_, ?_, ?_⟩ <;> rw [rows]
  · exact file.seeded.append ⟨rfl, rfl⟩
  · exact List.mem_append_left _ file.stored
  · exact not_bound_append file.unbound rfl
  · rw [Db.decisionsOf_append, file.assessed]
    simp [Db.decisionsOf, owner]
  · rw [Db.quotesOf_append, file.quoted]
    exact List.append_nil _

theorem File.priced (file : File row decisions [] w) {quote : Quote} {actor : String}
    (quoted : Quoted row actor quote w w') : File row decisions [quote] w' := by
  obtain ⟨owner, -, -, ⟨entry, rows⟩, keyed', pas⟩ := quoted
  refine ⟨keyed', ?_, pas ▸ file.unique, ?_, ?_, ?_, ?_⟩ <;> rw [rows]
  · exact file.seeded.append ⟨rfl, rfl⟩
  · exact List.mem_append_left _ file.stored
  · exact not_bound_append file.unbound rfl
  · rw [Db.decisionsOf_append, file.assessed]
    exact List.append_nil _
  · rw [Db.quotesOf_append, file.quoted]
    simp [Db.quotesOf, owner]

theorem Created.ratable {payload : SubmissionCreate} {db : Db} (created : Created payload row db)
    (range : payload.tivEur < 2 ^ 63) : Ratable row :=
  ⟨⟨payload.occupancy, created.occupancy⟩, created.tivEur ▸ payload.tivPositive.le, created.tivEur ▸ range⟩

end Files

/-- From every reachable state whose current rules are the seeded ones, every payload goes
    as far as the rules let it, if the payload and the actors fit their columns and however
    the publisher does: its row is created, and assessed by the seeded appetite; unless it
    is declined it is quoted, at the price of a stored rate table; and if it is accepted and
    its policy number is not taken it is bound, to the one policy of that number, which is
    active. -/
theorem straight_through {paging : Paging} (exact_paging : Exact paging) {pas : List Policy} {s : ProgSys (List Policy)}
    (unique : Unique pas) (run : Run (backend (model paging)) requests anyStep (idle (.initial pas)) s)
    (seeded : Seeded s.world.db) (ids : ShortIds s.world.pas) (payload : SubmissionCreate) {a₁ a₂ a₃ a₄ : String}
    (bounded : Columns.Bounded payload a₁) (named : ∀ a ∈ [a₂, a₃, a₄], Varchar 128 a) :
    Serves paging (.create payload a₁) s.world fun answer w₁ => ∃ row, answer = .submission row ∧
      Created payload row w₁.db ∧
      Serves paging (.assess row.id a₂) w₁ fun answer w₂ => ∃ decision, answer = .decision decision ∧
        Assessed row a₂ decision w₁ w₂ ∧ (decision.outcome ≠ Outcome.decline.value →
          Serves paging (.quote row.id a₃) w₂ fun answer w₃ => ∃ quote, answer = .quote quote ∧
            Quoted row a₃ quote w₂ w₃ ∧ (decision.outcome = Outcome.accept.value →
              Unused (policyNumberFor quote.id) w₃ → Serves paging (.bind row.id a₄) w₃ fun answer w₄ =>
                ∃ b, answer = .binding b ∧ Converged row.id (policyNumberFor quote.id) w₄ b)) := by
  obtain ⟨s, lifted, rfl⟩ := lift_idle run
  have keyed : s.world.db.Keyed := keyed_initial lifted
  have owned := owned_run lifted
  have unique : Unique s.world.pas := lifted.invariant (I := fun s => Unique s.world.pas) unique
    fun _ _ _ _ unique _ stepped => unique_step unique stepped
  simp only [List.forall_mem_cons, List.not_mem_nil, false_imp_iff, implies_true, and_true] at named
  obtain ⟨assessor, pricer, binder⟩ := named
  rw [Serves, ← Phase.start_prog]
  refine (create_finishes keyed bounded).imp ?_
  rintro _ w₁ ⟨row, rfl, intake⟩
  have file := File.created owned seeded unique intake
  refine ⟨row, rfl, intake.created, ?_⟩
  rw [Serves, ← Phase.start_prog]
  refine (assess_finishes file.keyed file.seeded file.stored file.unbound assessor).imp ?_
  rintro _ w₂ ⟨decision, rfl, assessed⟩
  have file := file.decided assessed
  refine ⟨decision, rfl, assessed, fun undeclined => ?_⟩
  rw [Serves, ← Phase.start_prog]
  refine (quote_finishes file.keyed file.seeded file.stored file.unbound (intake.created.ratable bounded.tivEur)
    file.assessed undeclined pricer).imp ?_
  rintro _ w₃ ⟨quote, rfl, quoted⟩
  have file := file.priced quoted
  have spared : ShortIds w₃.pas := by
    rw [quoted.pas, assessed.pas, intake.pas]
    exact ids
  refine ⟨quote, rfl, quoted, fun accepted unused => ?_⟩
  rw [Serves, ← Phase.start_prog]
  exact bind_finishes exact_paging file.keyed file.unique file.stored file.unbound file.assessed accepted file.quoted
    unused spared binder

/-- A desk with the seeded rules and nothing else. -/
def desk : World (List Policy) where
  db := {
    rulesets := [⟨⟨1, Appetite.v1Rules⟩, ⟨"r", 0⟩⟩]
    rateTables := [⟨⟨1, Rating.v1Rules⟩, ⟨"t1", 0⟩⟩, ⟨⟨2, Rating.v2Rules⟩, ⟨"t2", 0⟩⟩] }
  pas := []
  delivered := []
  clock := 0

theorem desk_seeded : Seeded desk.db where
  ruleset := ⟨_, List.mem_singleton_self _, rfl, by decide⟩
  rateTable := ⟨_, List.mem_cons_of_mem _ (List.mem_singleton_self _), .inr rfl, by decide⟩

theorem desk_reached : Run Scenario.service requests anyStep Scenario.empty (idle desk) := by
  have seeding : exec Scenario.service requests anyStep Scenario.empty
      [.env (.ruleset ⟨1, Appetite.v1Rules⟩ ⟨"r", 0⟩), .env (.rateTable ⟨1, Rating.v1Rules⟩ ⟨"t1", 0⟩),
        .env (.rateTable ⟨2, Rating.v2Rules⟩ ⟨"t2", 0⟩)] = some (idle desk) := rfl
  exact .of_exec seeding

theorem payload_bounded : Columns.Bounded Scenario.payload "ann" where
  tivEur := by decide
  counterparty := Unicode.upper_length_le_iff.mp (by decide)
  country := Unicode.upper_length_le_iff.mp (by decide)
  texts := by decide
  brokerRef := by decide
  actor := by decide

theorem desk_straight_through : Serves byNumber (.create Scenario.payload "ann") desk fun answer w₁ =>
    ∃ row, answer = .submission row ∧ Created Scenario.payload row w₁.db ∧
      Serves byNumber (.assess row.id "ann") w₁ fun answer w₂ =>
        ∃ decision, answer = .decision decision ∧ Assessed row "ann" decision w₁ w₂ ∧
          (decision.outcome ≠ Outcome.decline.value → Serves byNumber (.quote row.id "bob") w₂ fun answer w₃ =>
            ∃ quote, answer = .quote quote ∧ Quoted row "bob" quote w₂ w₃ ∧
              (decision.outcome = Outcome.accept.value → Unused (policyNumberFor quote.id) w₃ →
                Serves byNumber (.bind row.id "bob") w₃ fun answer w₄ =>
                  ∃ b, answer = .binding b ∧ Converged row.id (policyNumberFor quote.id) w₄ b)) :=
  straight_through byNumber_exact .nil desk_reached desk_seeded
    ⟨(fun _ member => nomatch member), "", by decide, fun _ member => nomatch member⟩ Scenario.payload
    payload_bounded (by decide)

end Underwriting.Straight
