import Underwriting.Lib.Along
import Underwriting.Lib.History
import Underwriting.Properties.Reads
import Underwriting.Properties.Reassess
import Underwriting.Properties.Replay

/-! # What a write acts on

A write makes its reads one after the other, while other requests commit. It acts
on what each of them found at a moment since it arrived, in that order, and the row
it answers with was stored after the last of them. What a bind records of its policy
and of its event is what the policy service and the publisher have answered it.
-/

namespace Underwriting.Current

open Interleaving
open Prog (OnOk)
open Reads (Later)

variable {σ φ υ : Type} {P : PasModel σ φ υ}

/-- The row is new between two moments. -/
def Stores {Row : Type} (table : Db → List Row) (row : Row) (before after : World σ) : Prop :=
  row ∉ table before.db ∧ row ∈ table after.db

/-- The columns of a submission and of its counterparty are those of the payload. -/
structure Takes (payload : SubmissionCreate) (cp : Counterparty) (row : Submission) : Prop where
  name : cp.name = payload.counterparty.name
  seat : cp.country = Unicode.upper payload.counterparty.country
  counterpartyId : row.counterpartyId = cp.id
  lineOfBusiness : row.lineOfBusiness = payload.lineOfBusiness.value
  tivEur : row.tivEur = payload.tivEur
  occupancy : row.occupancy = payload.occupancy.value
  country : row.country = Unicode.upper payload.country
  postcode : row.postcode = payload.postcode
  requestedCover : row.requestedCover = payload.requestedCover
  brokerRef : row.brokerRef = payload.brokerRef

/-- The decision is what the ruleset says of the stored columns. -/
structure Decides (submission : Submission) (ruleset : AppetiteRuleset) (actor : String) (row : Decision) : Prop where
  owner : row.submissionId = submission.id
  result : ∃ spec, Appetite.RulesetSpec.fromRules ruleset.version ruleset.rules = .ok spec ∧
    Reassess.Stores row (Appetite.assess (Reassess.storedFacts submission) spec)
  version : row.appetiteVersion = ruleset.version
  decidedBy : row.decidedBy = actor

/-- The quote is the price of the stored columns by the rate table, with its facts. -/
structure Prices (submission : Submission) (rateTable : RateTable) (actor : String) (row : Quote) : Prop where
  owner : row.submissionId = submission.id
  result : ∃ spec facts breakdown, Rating.RateTableSpec.fromRules rateTable.version rateTable.rules = .ok spec ∧
    Replay.Priceable submission facts ∧ Rating.rate .standard facts spec = .ok breakdown ∧
      Replay.Stores row breakdown ∧ row.facts.bind Replay.decodeFacts = some facts
  version : row.rateTableVersion = rateTable.version
  createdBy : row.createdBy = actor

/-- The Binding is of the submission at the quote. -/
structure Binds (submission : Submission) (quote : Quote) (actor : String) (row : Binding) : Prop where
  owner : row.submissionId = submission.id
  quoteId : row.quoteId = quote.id
  policyNumber : row.policyNumber = BindService.policyNumberFor quote.id
  status : row.status = "bound"
  boundBy : row.boundBy = actor

/-- What a write has acted on to come to its answer, by the moments it saw. -/
inductive Acted : Request → Answer → List (World σ) → Prop where
  | created {payload actor cp row w₁ w₂} (stored : Stores Db.counterparties cp w₁ w₂) (takes : Takes payload cp row)
      (recorded : Stores Db.submissions row w₁ w₂) : Acted (.create payload actor) (.submission row) [w₁, w₂]
  | assessed {sid actor submission ruleset row w₁ w₂ w₃ w₄} (free : ¬w₁.db.Bound sid)
      (has : w₂.db.Has sid submission)
      (current : ruleset ∈ w₃.db.rulesets ∧ ∀ r ∈ w₃.db.rulesets, r.version ≤ ruleset.version)
      (decides : Decides submission ruleset actor row)
      (recorded : Stores Db.decisions row w₃ w₄) : Acted (.assess sid actor) (.decision row) [w₁, w₂, w₃, w₄]
  | quoted {sid actor submission decision rateTable row w₁ w₂ w₃ w₄ w₅} (free : ¬w₁.db.Bound sid)
      (has : w₂.db.Has sid submission)
      (latest : decision ∈ w₃.db.decisionsOf sid ∧ ∀ d ∈ w₃.db.decisionsOf sid, d.latestKey ≤ decision.latestKey)
      (undeclined : decision.outcome ≠ Outcome.decline.value)
      (current : rateTable ∈ w₄.db.rateTables ∧ ∀ r ∈ w₄.db.rateTables, r.version ≤ rateTable.version)
      (prices : Prices submission rateTable actor row)
      (recorded : Stores Db.quotes row w₄ w₅) : Acted (.quote sid actor) (.quote row) [w₁, w₂, w₃, w₄, w₅]
  | existing {sid actor submission row w₁ w₂} (has : w₁.db.Has sid submission) (bound : row ∈ w₂.db.bindings)
      (owner : row.submissionId = sid) : Acted (.bind sid actor) (.binding row) [w₁, w₂]
  | bound {sid actor submission decision quote row w₁ w₂ w₃ w₄ w₅} (has : w₁.db.Has sid submission)
      (free : ¬w₂.db.Bound sid)
      (latest : decision ∈ w₃.db.decisionsOf sid ∧ ∀ d ∈ w₃.db.decisionsOf sid, d.latestKey ≤ decision.latestKey)
      (accepted : decision.outcome = Outcome.accept.value)
      (newest : quote ∈ w₄.db.quotesOf sid ∧ ∀ q ∈ w₄.db.quotesOf sid, q.latestKey ≤ quote.latestKey)
      (binds : Binds submission quote actor row)
      (recorded : Stores Db.bindings row w₄ w₅) : Acted (.bind sid actor) (.binding row) [w₁, w₂, w₃, w₄, w₅]

/-- An answer is to be acted on moments among those seen. -/
def Acts (req : Request) (past : List (World σ)) (w : World σ) (_ : Db) (answer : Answer) : Prop :=
  ∃ moments, moments.Sublist (past ++ [w]) ∧ Acted req answer moments

/-! ## The calls of a write -/

section Calls

variable {α : Type} {good : List (World σ) → World σ → Db → α → Prop} {past : List (World σ)} {w : World σ} {pending : Db}

theorem watches_read {c : Call} (kind : c.kind = .query) {next : Reply c → Program α}
    (answered : ∀ w₁, Later w w₁ → ∀ pick reply, w₁.db.query pick c = some reply →
      (next reply).Watches (backend P) Later (OnOk good) (past ++ [w]) w₁ pending) :
    (ask c >>= next).Watches (backend P) Later (OnOk good) past w pending := by
  refine Prog.watches_then fun w₁ later fate reply w₂ session handled => ?_
  obtain ⟨rfl, rfl, pick, found⟩ := (handle_cases (P := P) handled).query kind rfl
  exact answered w₂ later pick reply found

theorem watches_insert {c : Call} (kind : c.kind = .insert) {next : Reply c → Program α}
    (answered : ∀ w₁, Later w w₁ → ∀ stamp row added, c.insertion stamp = some (row, added) →
      (next row).Watches (backend P) Later (OnOk good) (past ++ [w]) (w₁.tick stamp.time) (pending ++ added)) :
    (ask c >>= next).Watches (backend P) Later (OnOk good) past w pending := by
  refine Prog.watches_then fun w₁ later fate row w₂ session handled => ?_
  obtain ⟨stamp, added, -, inserted, rfl, rfl, -⟩ := (handle_cases (P := P) handled).inserted kind rfl
  exact answered w₁ later stamp row added inserted

/-- The commit, and the refresh after it. -/
theorem watches_commit {value : α}
    (met : ∀ w₁ w₂, Later w w₁ → (w₁.db ++ pending).Keyed → (w₁.db ++ pending).Grows w₂.db → ∀ more,
      good (past ++ more) w₂ .empty value) :
    (Session.commit >>= fun _ => Session.refresh >>= fun _ => pure value : Program α).Watches (backend P) Later
      (OnOk good) past w pending := by
  refine Prog.watches_then fun w₁ later fate reply w₂ session handled => ?_
  obtain ⟨rfl, rfl, keyed⟩ := (handle_cases (P := P) handled).committed rfl
  refine watches_read rfl fun w₃ later' pick reply found => ?_
  change good (past ++ [w] ++ [_]) w₃ .empty value
  rw [List.append_assoc]
  exact met w₁ w₃ later keyed later' _

end Calls

/-- A row that was stored with a key of its own was not there before. -/
theorem stores_added {Row : Type} {table : Db → List Row} {key : Row → String} {w w₁ w' : World σ} {added : Db} {row : Row}
    (appends : ∀ a b : Db, table (a ++ b) = table a ++ table b) (nodup : ((table (w₁.db ++ added)).map key).Nodup)
    (member : row ∈ table added) (before : Later w w₁) (after : (w₁.db ++ added).Grows w'.db) :
    Stores table row w w' := by
  obtain ⟨more, same⟩ := before
  obtain ⟨rest, grown⟩ := after
  constructor
  · intro present
    rw [appends, List.map_append] at nodup
    have old : row ∈ table w₁.db := by rw [same, appends]; exact List.mem_append_left _ present
    exact List.disjoint_of_nodup_append nodup (List.mem_map_of_mem old) (List.mem_map_of_mem member)
  · rw [grown, appends, appends]
    exact List.mem_append_left _ (List.mem_append_right _ member)

/-- A query, a request to the policy service, the clock or a publish. -/
def Still (c : Call) : Prop := c.kind ≠ .insert ∧ c.kind ≠ .commit

theorem still_keeps {c : Call} {w w' : World σ} {pending pending' : Db} {fate answer} (still : Still c)
    (handled : (backend P).handle w pending c fate = some (answer, w', pending')) : Later w w' ∧ pending' = pending := by
  have cases := handle_cases (P := P) handled
  refine ⟨cases.grows, ?_⟩
  cases cases with
  | lost | read | refused | unfit | now | pas | publish => rfl
  | insert inserted => exact absurd (Call.kind_of_insertion inserted) still.1
  | commit | conflict => exact absurd rfl still.2

theorem still_query {c : Call} (kind : c.kind = .query) : Still c := by simp [Still, kind]

theorem holder_still (submission : Submission) : (BindService.counterpartyName submission).Calls Still := by
  refine .bind (Prog.calls_perform (still_query rfl)) fun found => ?_
  cases found <;> trivial

theorem service_still (request : PasRequest) : (httpx request).Calls Still :=
  Prog.calls_perform (by simp [Still, Call.kind])

theorem createPolicy_still (request : CreatePolicyRequest) : (PolicyClient.createPolicy request).Calls Still := by
  refine .bind (service_still _) fun resp => .bind (Prog.calls_ofExcept _) fun created => ?_
  cases created with
  | some policy => trivial
  | none =>
      refine .bind (.bind (service_still _) fun resp => Prog.calls_ofExcept _) fun existing => ?_
      cases existing <;> trivial

theorem transition_still (policyId action : String) : (PolicyClient.transition policyId action).Calls Still :=
  .bind (service_still _) fun _ => Prog.calls_ofExcept _

theorem publish_still (event : BoundRiskEvent) : (BindService.publishBestEffort event).Calls Still :=
  .handling (.bind (Prog.calls_perform (by simp [Still, Call.kind])) fun _ => trivial) fun _ => trivial

theorem datetimeNow_still : datetimeNow.Calls Still := Prog.calls_perform (by simp [Still, Call.kind])

/-! ## The four routes -/

section Routes

variable {w : World σ}

/-- The row, its audit entry, the commit and the refresh. -/
theorem watches_recorded {c : Call} (kind : c.kind = .insert) (entry : Reply c → NewAuditEntry) {past : List (World σ)} :
    (do
      let row ← ask c
      let _ ← auditAppend (entry row)
      Session.commit
      Session.refresh
      return row : Program (Reply c)).Watches (backend P) Later (OnOk fun past' w' _ row => ∃ stamp added audits w₁,
        past ++ [w] <+: past' ∧ c.insertion stamp = some (row, added) ∧ Later w w₁ ∧ (w₁.db ++ (added ++ audits)).Keyed ∧
          (w₁.db ++ (added ++ audits)).Grows w'.db) past w .empty := by
  refine watches_insert kind fun w₁ later₁ stamp row added inserted => ?_
  refine watches_insert rfl fun w₂ later₂ stamp' audit audits appended => ?_
  refine watches_commit fun w₃ w₄ later₃ keyed grown more => ?_
  have later : Later w w₃ := (later₁.trans later₂).trans later₃
  refine ⟨stamp, added, audits, w₃, ?_, inserted, later, keyed, grown⟩
  simp

theorem watches_submission {α : Type} {good : List (World σ) → World σ → Db → α → Prop} {past : List (World σ)}
    {pending : Db} {sid : String} {next : Submission → Program α}
    (found : ∀ w₁, Later w w₁ → ∀ row, w₁.db.Has sid row →
      (next row).Watches (backend P) Later (OnOk good) (past ++ [w]) w₁ pending) :
    (SubmissionService.getSubmission sid >>= next).Watches (backend P) Later (OnOk good) past w pending := by
  refine Prog.Watches.bind_ok (watches_read rfl fun w₁ later pick reply read => ?_)
  cases reply with
  | none => trivial
  | some row => exact found w₁ later row (Phase.found_submission read)

/-- Nothing is assessed or quoted that a guard has found bound. -/
theorem watches_guard {α : Type} {good : List (World σ) → World σ → Db → α → Prop} {past : List (World σ)}
    {pending : Db} {sid : String} {next : Program α}
    (free : ∀ w₁, Later w w₁ → ¬w₁.db.Bound sid → next.Watches (backend P) Later (OnOk good) (past ++ [w]) w₁ pending) :
    (do
      if (← BindService.latestBinding sid).isSome then .raise (.http 409 "submission already bound")
      next).Watches (backend P) Later (OnOk good) past w pending := by
  refine watches_read rfl fun w₁ later pick reply read => ?_
  cases reply with
  | some existing => trivial
  | none => exact free w₁ later (not_bound read)

/-- What was seen before such calls was seen before what follows them. -/
theorem watches_calm {α β : Type} {good : List (World σ) → World σ → Db → β → Prop} {past front : List (World σ)}
    {w₀ : World σ} {program : Program α} {next : α → Program β} (still : program.Calls Still)
    (seen : front <+: past ++ [w]) (since : Later w₀ w)
    (after : ∀ past' w' value, front <+: past' ++ [w'] → Later w₀ w' →
      (next value).Watches (backend P) Later (OnOk good) past' w' .empty) :
    (program >>= next).Watches (backend P) Later (OnOk good) past w .empty := by
  apply Prog.Watches.bind_ok
  refine (Prog.watches_still still (fun _ => .refl _) .trans still_keeps).imp fun past' w' _ result met => ?_
  cases result with
  | error err => trivial
  | ok value =>
      obtain ⟨more, later, rfl⟩ := met
      exact after past' w' value (seen.trans more) (since.trans later)

/-- The moments of the reads, then the last one, are among those seen. -/
theorem sublist_seen {α : Type} {moments front past : List α} {last : α} (reads : moments.Sublist front)
    (seen : front <+: past) : (moments ++ [last]).Sublist (past ++ [last]) :=
  (reads.trans seen.sublist).append_right [last]

theorem create_acts (payload : SubmissionCreate) (actor : String) :
    (Routes.createSubmission payload actor).Watches (backend P) Later (OnOk (Acts (.create payload actor))) [] w .empty := by
  refine Prog.Watches.bind_ok (watches_insert rfl fun w₁ later₁ stamp cp added inserted => ?_)
  cases inserted
  refine watches_insert rfl fun w₂ later₂ stamp' row added inserted => ?_
  cases inserted
  refine watches_insert rfl fun w₃ later₃ _ entry audits appended => ?_
  refine watches_commit fun w₄ w₅ later₄ keyed grown more => ?_
  have later : Later w w₄ := ((later₁.trans later₂).trans later₃).trans later₄
  refine ⟨[w, w₅], ?_, .created ?_ ⟨rfl, rfl, rfl, rfl, rfl, rfl, rfl, rfl, rfl, rfl⟩ ?_⟩
  · simp
  · refine stores_added (fun _ _ => rfl) keyed.counterpartyId ?_ later grown
    simp [Db.empty]
  · refine stores_added (fun _ _ => rfl) keyed.submissionId ?_ later grown
    simp [Db.empty]

theorem assess_acts (sid actor : String) :
    (Routes.assessSubmission sid actor).Watches (backend P) Later (OnOk (Acts (.assess sid actor))) [] w .empty := by
  refine watches_guard fun w₁ _ free => Prog.Watches.bind_ok (.reraised ?_)
  refine watches_submission fun w₂ _ submission has => watches_read rfl fun w₃ _ pick reply read => ?_
  cases reply with
  | none => trivial
  | some ruleset =>
      have current := Latest.limitOne_top (Option.some.inj read)
      refine Prog.Watches.bind_ok (Prog.watches_ofExcept ?_)
      cases assessed : SubmissionService.assessed submission ruleset with
      | error err => trivial
      | ok result =>
          obtain ⟨spec, built, same⟩ := bind_ok assessed
          cases same
          refine (watches_recorded rfl _).imp fun past w₄ _ outcome met => ?_
          cases outcome with
          | error err => trivial
          | ok row =>
              obtain ⟨stamp, added, audits, w', seen, inserted, later, keyed, grown⟩ := met
              cases inserted
              refine ⟨[w₁, w₂, w₃] ++ [w₄], sublist_seen (by simp) seen,
                .assessed free has current ⟨rfl, ⟨spec, built, rfl, rfl⟩, rfl, rfl⟩ ?_⟩
              exact stores_added (fun _ _ => rfl) keyed.decisionId (by simp) later grown

theorem prices_of_priced {submission : Submission} {rateTable : RateTable} {breakdown : Rating.QuoteBreakdown}
    {actor : String} {row : Quote} (priced : RatingService.priced submission rateTable = .ok breakdown)
    (written : row.toNewQuote = RatingService.newQuote submission breakdown actor) :
    Prices submission rateTable actor row := by
  obtain ⟨new, stamp⟩ := row
  obtain rfl : new = _ := written
  obtain ⟨spec, built, rated⟩ := bind_ok priced
  refine ⟨rfl, ⟨spec, _, breakdown, built, Replay.priceable submission, rated,
    ⟨rfl, rfl, rfl, rfl, rfl, rfl, Replay.carries_items breakdown⟩, ?_⟩, RatingService.priced_version priced, rfl⟩
  exact Replay.decodeFacts_factsJson _ (show Decimal.parse Decimal.one.str = some Decimal.one by decide)

theorem quote_acts (sid actor : String) :
    (Routes.quoteSubmission sid actor).Watches (backend P) Later (OnOk (Acts (.quote sid actor))) [] w .empty := by
  refine watches_guard fun w₁ _ free => Prog.Watches.bind_ok (.reraised ?_)
  refine watches_submission fun w₂ _ submission has => watches_read rfl fun w₃ _ pick reply read => ?_
  cases reply with
  | none => trivial
  | some decision =>
      have latest := Latest.limitOne_top (Option.some.inj read)
      change Prog.Watches _ _ _ (if decision.outcome = Outcome.decline.value then _ else _ : Program Quote) _ _ _
      split
      · trivial
      · rename_i undeclined
        refine watches_read rfl fun w₄ _ pick' reply read' => ?_
        cases reply with
        | none => trivial
        | some rateTable =>
            have current := Latest.limitOne_top (Option.some.inj read')
            refine Prog.Watches.bind_ok (Prog.watches_ofExcept ?_)
            cases priced : RatingService.priced submission rateTable with
            | error err => trivial
            | ok breakdown =>
                refine (watches_recorded rfl _).imp fun past w₅ _ outcome met => ?_
                cases outcome with
                | error err => trivial
                | ok row =>
                    obtain ⟨stamp, added, audits, w', seen, inserted, later, keyed, grown⟩ := met
                    cases inserted
                    refine ⟨[w₁, w₂, w₃, w₄] ++ [w₅], sublist_seen (by simp) seen,
                      .quoted free has latest undeclined current (prices_of_priced priced rfl) ?_⟩
                    exact stores_added (fun _ _ => rfl) keyed.quoteId (by simp) later grown

theorem bind_acts (sid actor : String) :
    (Routes.bindSubmission sid actor).Watches (backend P) Later (OnOk (Acts (.bind sid actor))) [] w .empty := by
  refine Prog.Watches.bind_ok (.reraised (watches_submission fun w₁ _ submission has => ?_))
  refine watches_read rfl fun w₂ _ pick reply read => ?_
  cases reply with
  | some existing =>
      obtain found := Option.some.inj read
      exact ⟨[w₁, w₂], by simp, .existing has (List.mem_of_find?_eq_some found) (by simpa using List.find?_some found)⟩
  | none =>
      have free := not_bound read
      refine watches_read rfl fun w₃ _ pick reply read => ?_
      cases reply with
      | none => trivial
      | some decision =>
          have latest := Latest.limitOne_top (Option.some.inj read)
          change Prog.Watches _ _ _ (if decision.outcome ≠ Outcome.accept.value then _ else _ : Program Binding) _ _ _
          split
          · trivial
          · rename_i accepted
            refine watches_read rfl fun w₄ _ pick reply read => ?_
            cases reply with
            | none => trivial
            | some quote =>
                have newest := Latest.limitOne_top (Option.some.inj read)
                refine watches_calm (holder_still submission) (List.prefix_refl _) (.refl _) fun _ _ holder seen since => ?_
                refine watches_calm datetimeNow_still seen since fun _ _ now seen since => ?_
                refine watches_calm (Prog.calls_ofExcept _) seen since fun _ _ request seen since => ?_
                refine watches_calm (createPolicy_still request) seen since fun _ _ policy seen since => ?_
                refine watches_calm (transition_still ..) seen since fun _ _ _ seen since => ?_
                refine watches_calm (transition_still ..) seen since fun _ _ _ seen since => ?_
                refine watches_calm (publish_still _) seen since fun _ _ published seen since => ?_
                refine (watches_recorded rfl _).imp fun past w₅ _ outcome met => ?_
                cases outcome with
                | error err => trivial
                | ok row =>
                    obtain ⟨stamp, added, audits, w', more, inserted, later, keyed, grown⟩ := met
                    cases inserted
                    refine ⟨[w₁, w₂, w₃, w₄] ++ [w₅], sublist_seen (by simp) (seen.trans more),
                      .bound has free latest (not_not.mp accepted) newest ⟨rfl, rfl, rfl, rfl, rfl⟩ ?_⟩
                    exact stores_added (fun _ _ => rfl) keyed.bindingId (by simp) (since.trans later) grown

theorem route_acts (req : Request) : (route req).Watches (backend P) Later (OnOk (Acts req)) [] w .empty := by
  cases req with
  | create payload actor => exact create_acts payload actor
  | assess sid actor => exact assess_acts sid actor
  | quote sid actor => exact quote_acts sid actor
  | bind sid actor => exact bind_acts sid actor

end Routes

/-! ## What a bind has on record -/

section Records

/-- The reply of a create or of a lookup names the policy of the number. -/
inductive Names (answers : (c : Call) → Reply c → Prop) (number : String) (policy : PolicyClient.PolicyRef) : Prop where
  | created {request resp} (answered : answers (.policyService (.create request)) resp)
      (asked : request.policyNumber = number) (read : PolicyClient.readCreated resp = .ok (some policy))
  | listed {resp} (answered : answers (.policyService (.list number)) resp)
      (read : PolicyClient.readListed number resp = .ok (some policy))

/-- How the answers a bind got account for its Binding: its check has found it, or none; then
    a decision and a quote were read, the policy is the one that a create or a lookup has told,
    and the event is marked as published if and only if the publisher has returned. -/
inductive Accounts (answers : (c : Call) → Reply c → Prop) (sid : String) (row : Binding) : Prop where
  | found (check : answers (.bindingBySubmission sid) (some row))
  | recorded {decision quote policy} (check : answers (.bindingBySubmission sid) none)
      (decided : answers (.latestDecision sid) (some decision)) (accepted : decision.outcome = Outcome.accept.value)
      (quoted : answers (.latestQuote sid) (some quote)) (quoteId : row.quoteId = quote.id)
      (named : Names answers row.policyNumber policy) (policyId : row.pasPolicyId = policy.id)
      (published : row.eventPublished = true ↔ ∃ event, answers (.publish event) ())

/-- The answers on record. -/
def Entries (log : Log Reply) (c : Call) (reply : Reply c) : Prop := ⟨c, reply⟩ ∈ log

/-- An insert returns the row that was inserted. -/
def Inserts : (c : Call) → Except PyErr (Reply c) → Prop
  | .addBinding new, .ok row => row.toNewBinding = new
  | _, _ => True

theorem inserts_handled {w w' : World σ} {pending pending' : Db} {c : Call} {fate : Fate φ}
    {answer : Except PyErr (Reply c)} (handled : Handled P w pending c fate answer w' pending') :
    Inserts c answer := by
  cases handled with
  | @insert c stamp row added inserted => cases c <;> cases inserted <;> trivial
  | @read c => cases c <;> trivial
  | @lost c | @refused c | @unfit c => cases c <;> trivial
  | commit | conflict | now | pas | publish => trivial

/-- Anything but a publish. -/
def Silent (c : Call) : Prop := c.kind ≠ .publish

theorem silent_query {c : Call} (kind : c.kind = .query) : Silent c := by simp [Silent, kind]

theorem Silent.absent {more : Log Reply} (quiet : ∀ entry ∈ more, Silent entry.1) (event : BoundRiskEvent) :
    ⟨.publish event, ()⟩ ∉ more :=
  fun member => quiet _ member rfl

theorem service_silent (request : PasRequest) : (httpx request).Calls Silent :=
  Prog.calls_perform (by simp [Silent, Call.kind])

theorem holder_silent (submission : Submission) : (BindService.counterpartyName submission).Calls Silent := by
  refine .bind (Prog.calls_perform (silent_query rfl)) fun found => ?_
  cases found <;> trivial

theorem transition_silent (policyId action : String) : (PolicyClient.transition policyId action).Calls Silent :=
  .bind (service_silent _) fun _ => Prog.calls_ofExcept _

variable {log : Log Reply} {α : Type} {met : Log Reply → α → Prop}

/-- A policy that a create or a lookup returns is named by its reply. -/
theorem createPolicy_records {request : CreatePolicyRequest} {next : PolicyClient.PolicyRef → Program α}
    (after : ∀ more policy, (∀ entry ∈ more, Silent entry.1) → Names (Entries more) request.policyNumber policy →
      (next policy).Records (fun _ => Inserts) met (log ++ more)) :
    (PolicyClient.createPolicy request >>= next).Records (fun _ => Inserts) met log := by
  have silent : ∀ {request : PasRequest}, Silent (.policyService request) := by simp [Silent, Call.kind]
  refine Prog.Records.bind (Prog.records_ask fun resp _ => Prog.records_compute fun created read => ?_)
  cases created with
  | some policy =>
      refine Prog.records_ret (after _ policy ?_ (.created (List.mem_singleton_self _) rfl read))
      exact fun entry member => List.mem_singleton.mp member ▸ silent
  | none =>
      refine Prog.Records.bind (Prog.records_ask fun resp' _ => ?_)
      cases read' : PolicyClient.readListed request.policyNumber resp' with
      | error err => exact Prog.records_raise
      | ok found =>
          refine Prog.records_ret ?_
          cases found with
          | none => exact Prog.records_raise
          | some policy =>
              refine Prog.records_ret ?_
              rw [List.append_assoc]
              refine after _ policy ?_ (.listed (List.mem_append_right _ (List.mem_singleton_self _)) read')
              intro entry member
              rcases List.mem_append.mp member with first | second
              · exact List.mem_singleton.mp first ▸ silent
              · exact List.mem_singleton.mp second ▸ silent

/-- The publish is on record if it has returned. -/
theorem publish_records {event : BoundRiskEvent} {next : Bool → Program α}
    (after : ∀ more published, (published = true ↔ ∃ event, Entries more (.publish event) ()) →
      (next published).Records (fun _ => Inserts) met (log ++ more)) :
    (BindService.publishBestEffort event >>= next).Records (fun _ => Inserts) met log := by
  refine Prog.Records.bind ⟨trivial, fun answer _ => ?_⟩
  cases answer with
  | ok reply => exact Prog.records_ret (after [⟨.publish event, ()⟩] true (by simp [Entries]))
  | error err =>
      have unsent := after [] false (by simp [Entries])
      rw [List.append_nil] at unsent
      exact Prog.records_ret unsent

theorem bind_records (sid actor : String) :
    (BindService.bindSubmission sid actor).Records (fun _ => Inserts) (fun log row => Accounts (Entries log) sid row) [] := by
  refine Prog.records_calls (p := Silent) ?_ fun read submission quiet => ?_
  · refine .bind (Prog.calls_perform (silent_query rfl)) fun found => ?_
    cases found <;> trivial
  refine Prog.records_ask fun check _ => ?_
  cases check with
  | some existing => exact Prog.records_ret (.found (by simp [Entries]))
  | none =>
      refine Prog.records_ask fun decision _ => ?_
      cases decision with
      | none => exact Prog.records_raise
      | some decision =>
          change Prog.Records _ _ (if decision.outcome ≠ Outcome.accept.value then _ else _ : Program Binding) _
          split
          · exact Prog.records_raise
          rename_i accepted
          refine Prog.records_ask fun quote _ => ?_
          cases quote with
          | none => exact Prog.records_raise
          | some quote =>
              refine Prog.records_calls (holder_silent submission) fun held holder quiet' => ?_
              refine Prog.records_ask fun now _ => Prog.records_compute fun request made => ?_
              refine createPolicy_records fun asked policy quiet'' named => ?_
              refine Prog.records_calls (transition_silent ..) fun submitted _ quiet₃ => ?_
              refine Prog.records_calls (transition_silent ..) fun activated _ quiet₄ => ?_
              refine publish_records fun sent published told => ?_
              refine Prog.records_ask fun row (written : row.toNewBinding = _) => ?_
              refine Prog.records_ask fun entry _ => Prog.records_ask fun _ _ => Prog.records_ask fun _ _ => ?_
              have flag : row.eventPublished = published := congrArg NewBinding.eventPublished written
              have number : request.policyNumber = row.policyNumber :=
                (BindService.createRequest_ok made).2.trans (congrArg NewBinding.policyNumber written).symm
              rw [number] at named
              refine Prog.records_ret (@Accounts.recorded _ sid row decision quote policy ?_ ?_ (not_not.mp accepted) ?_
                (congrArg NewBinding.quoteId written) ?_ (congrArg NewBinding.pasPolicyId written) ?_)
              · simp [Entries]
              · simp [Entries]
              · simp [Entries]
              · cases named with
                | created answered asked read => exact .created (by simp_all [Entries]) asked read
                | listed answered read => exact .listed (by simp_all [Entries]) read
              · rw [flag, told]
                refine exists_congr fun event => ?_
                simp [Entries, Sigma.ext_iff, Silent.absent quiet, Silent.absent quiet', Silent.absent quiet'',
                  Silent.absent quiet₃, Silent.absent quiet₄]

theorem bound_records (sid actor : String) : (Routes.bindSubmission sid actor).Records (fun _ => Inserts)
    (fun log answer => ∃ row, answer = .binding row ∧ Accounts (Entries log) sid row) [] := by
  refine Prog.Records.bind (Prog.Records.reraised ((bind_records sid actor).imp fun log result records => ?_))
  exact fun row same => Prog.records_ret ⟨row, rfl, records row same⟩

end Records

/-! ## Requests in a run -/

section Runs

variable {jwksUrl : String}

/-- A request that comes to a write route is to be answered by what that has acted on. -/
def Writes (jwksUrl : String) (request : ApiRequest) (past : List (World σ)) (w : World σ) (pending : Db)
    (response : Response) : Prop :=
  ∀ req, Api.part jwksUrl request = some req → ∃ answer, response = .written answer ∧ Acts req past w pending answer

theorem respond_writes (request : ApiRequest) (w : World σ) :
    (Api.respond jwksUrl request).Watches (Api.backend P) Later (OnOk (Writes jwksUrl request)) [] w .empty := by
  cases part : Api.part jwksUrl request with
  | none =>
      apply Prog.watches_of_forall
      intro past w pending result
      cases result with
      | error err => trivial
      | ok response => exact fun req writes => absurd writes (by simp [part])
  | some req =>
      rw [Api.respond_part part]
      apply Prog.Watches.bind_ok
      have acts : (ofService (route req)).Watches (Api.backend P) Later (OnOk (Acts req)) [] w .empty := by
        refine Prog.Watches.rename (B := backend P) ?_ (route_acts req)
        intro w session c fate answer w' session' handled
        cases answer <;> exact handled
      refine acts.imp fun past w pending result met => ?_
      cases result with
      | error err => trivial
      | ok answer =>
          intro req' writes
          cases part.symm.trans writes
          exact ⟨answer, rfl, met⟩

/-- The answers on record of the calls of the services. -/
def Served (log : Log ApiReply) (c : Call) (reply : Reply c) : Prop := ⟨.service c, reply⟩ ∈ log

def ApiInserts : (c : ApiCall) → Except PyErr (ApiReply c) → Prop
  | .service c, answer => Inserts c answer
  | .read _, _ => True

theorem apiInserts_handled {w w' : World σ} {pending pending' : Db} {c : ApiCall} {fate : Fate φ}
    {answer : Except PyErr (ApiReply c)}
    (handled : (Api.backend P).handle w pending c fate = some (answer, w', pending')) : ApiInserts c answer := by
  cases c with
  | service c => exact inserts_handled (handle_cases (P := P) handled)
  | read c => trivial

theorem respond_records (request : ApiRequest) : (Api.respond jwksUrl request).Records (fun _ => ApiInserts)
    (fun log response => ∀ sid actor, Api.part jwksUrl request = some (.bind sid actor) →
      ∃ row, response = .written (.binding row) ∧ Accounts (Served log) sid row) [] := by
  by_cases binds : ∃ sid actor, Api.part jwksUrl request = some (.bind sid actor)
  · obtain ⟨sid, actor, part⟩ := binds
    rw [Api.respond_part part]
    have served : (ofService (Routes.bindSubmission sid actor)).Records (fun _ => ApiInserts) (fun log' answer =>
        ∃ log, (∀ c reply, Entries log c reply ↔ Served log' c reply) ∧
          ∃ row, answer = .binding row ∧ Accounts (Entries log) sid row) [] := by
      refine Prog.Records.rename (fun log log' c answer inserts => ?_) (fun log log' c reply same c' reply' => ?_)
        (bound_records sid actor) (by simp [Entries, Served])
      · cases answer <;> exact inserts
      · simp only [Entries, Served, List.mem_append, List.mem_singleton]
        refine or_congr (same c' reply') ⟨?_, ?_⟩ <;>
        · rintro ⟨⟩
          rfl
    refine Prog.Records.bind (served.imp fun log' result met => ?_)
    rintro answer rfl
    obtain ⟨log, same, row, rfl, accounts⟩ := met answer rfl
    refine Prog.records_ret fun sid' actor' part' => ⟨row, rfl, ?_⟩
    cases part.symm.trans part'
    have entries : Entries log = Served log' := funext fun c => funext fun reply => propext (same c reply)
    exact entries ▸ accounts
  · exact Prog.records_of_forall fun _ _ sid actor part => absurd ⟨sid, actor, part⟩ binds

/-- What a write that was answered has seen since it arrived. -/
theorem acted_run {s₀ s : ApiSys σ} (run : Run (Api.backend P) (Api.requests jwksUrl) anyStep s₀ s) {i : ℕ}
    {t : ApiThread} (at_i : s.threads[i]? = some t) (arrived : s₀.threads.length ≤ i) {req : Request}
    (writes : Api.part jwksUrl t.req = some req) {response : Response}
    (answered : t.ctl.outcome? = some (.ok response)) : ∃ answer worlds moments, response = .written answer ∧
      Moments (Api.backend P) (Api.requests jwksUrl) s₀ worlds s ∧ moments.Sublist worlds ∧ Acted req answer moments := by
  have watching := watches_run (fun _ => .refl _) .trans Reads.step_later respond_writes run i t at_i arrived
  rcases watched watching answered with died | ⟨past, s₁, visits, since, met⟩
  · cases died
  · obtain ⟨answer, rfl, moments, among, acted⟩ := met req writes
    exact ⟨answer, _, moments, rfl, visits.moments.after since, among, acted⟩

/-- A bind is answered with the Binding that its answers account for. -/
theorem accounted_run {s₀ s : ApiSys σ} (run : Run (Api.backend P) (Api.requests jwksUrl) anyStep s₀ s) {i : ℕ}
    {t : ApiThread} (at_i : s.threads[i]? = some t) (arrived : s₀.threads.length ≤ i) {sid actor : String}
    (writes : Api.part jwksUrl t.req = some (.bind sid actor)) {response : Response} (answered : t.ctl = .ret response) :
    ∃ row, response = .written (.binding row) ∧ Accounts (Served t.log) sid row :=
  returned_records (fun handled _ => apiInserts_handled handled) respond_records run at_i arrived answered sid actor writes

/-- The rows that an answer on record has read, at a moment since its request arrived. -/
theorem served_run {s₀ s : ApiSys σ} (run : Run (Api.backend P) (Api.requests jwksUrl) anyStep s₀ s) {i : ℕ}
    {t : ApiThread} (at_i : s.threads[i]? = some t) (arrived : s₀.threads.length ≤ i) {c : Call} (kind : c.kind = .query)
    {reply : Reply c} (served : Served t.log c reply) :
    ∃ s₁ pick, Run (Api.backend P) (Api.requests jwksUrl) anyStep s₀ s₁ ∧ s₁.world.db.query pick c = some reply ∧
      Run (Api.backend P) (Api.requests jwksUrl) anyStep s₁ s := by
  obtain ⟨s₁, session, fate, w', session', before, handled, after⟩ := exists_answer run at_i arrived served
  obtain ⟨-, -, pick, found⟩ := (handle_cases (P := P) handled).query kind rfl
  exact ⟨s₁, pick, before, found, after⟩

/-- A write that was answered acted on what was current since it arrived, one moment
    after the other, and its row is new after the last of them. A Binding is the one that the
    bind's answers account for. -/
theorem writes_current {s₀ s : ApiSys σ} (run : Run (Api.backend P) (Api.requests jwksUrl) anyStep s₀ s) {i : ℕ}
    {t : ApiThread} (at_i : s.threads[i]? = some t) (arrived : s₀.threads.length ≤ i) {req : Request}
    (writes : Api.part jwksUrl t.req = some req) {response : Response} (answered : t.ctl = .ret response) :
    ∃ answer moments, response = .written answer ∧ Moments (Api.backend P) (Api.requests jwksUrl) s₀ moments s ∧
      Acted req answer moments ∧ ∀ sid actor, req = .bind sid actor →
        ∃ row, answer = .binding row ∧ Accounts (Served t.log) sid row := by
  have ended : t.ctl.outcome? = some (.ok response) := by rw [answered]; rfl
  obtain ⟨answer, worlds, moments, rfl, seen, among, acted⟩ := acted_run run at_i arrived writes ended
  refine ⟨answer, moments, rfl, seen.sublist among, acted, ?_⟩
  rintro sid actor rfl
  obtain ⟨row, same, accounts⟩ := accounted_run run at_i arrived writes answered
  cases same
  exact ⟨row, rfl, accounts⟩

end Runs

/-! ## A bind among the endpoints -/

def endpoint : Request → V1
  | .create payload _ => .createSubmission payload
  | .assess sid _ => .assessSubmission sid
  | .quote sid _ => .quoteSubmission sid
  | .bind sid _ => .bindSubmission sid

/-- A script of the write routes, asked for by `bob`. -/
def byBob : Choice Request (Fate Lifecycle.Reaction) (Env Lifecycle.UserAct) →
    Choice ApiRequest (Fate Lifecycle.Reaction) (Env Lifecycle.UserAct)
  | .start req => .start (Endpoints.asked "bob" (endpoint req))
  | .run i fate => .run i fate
  | .crash i => .crash i
  | .env e => .env e

def binds : Scenario.Script :=
  [.start Scenario.bind] ++ Scenario.opening 3 30 ++ Scenario.effects 3 "p" ++ Scenario.recording 3 "b" 31 ++
    Scenario.closing 3

/-- The request is a bind by `bob` that was answered with a Binding. -/
def isBound (t : ApiThread) : Bool :=
  (match Api.part "jwks" t.req with
    | some (.bind sid actor) => sid == "s" && actor == "bob"
    | _ => false) &&
  Reads.answeredBy (fun response => match response with
    | .written (.binding _) => true
    | _ => false) t

theorem binds_current : ∃ (s₀ s : ApiSys (List Lifecycle.Policy)) (row : Binding) (moments : List (World _))
    (log : Log ApiReply), Moments Endpoints.apiService (Api.requests "jwks") s₀ moments s ∧
      Acted (.bind "s" "bob") (.binding row) moments ∧ Accounts (Served log) "s" row := by
  obtain ⟨s₀, s, -, later, checked⟩ := exists_run_then Endpoints.apiService (Api.requests "jwks") anyStep anyStep
    ⟨.initial [], []⟩ (Scenario.quoted.map byBob) (binds.map byBob)
    (fun s₀ s => s₀.threads.length == 3 && s.threads[3]?.any isBound) (by decide +kernel)
  simp only [Bool.and_eq_true, beq_iff_eq, Option.any_eq_true] at checked
  obtain ⟨three, t, at_t, bound⟩ := checked
  simp only [isBound, Bool.and_eq_true] at bound
  obtain ⟨asks, answered⟩ := bound
  obtain ⟨response, control, shown⟩ := Reads.answer_of answered
  split at asks
  · rename_i sid actor writes
    simp only [Bool.and_eq_true, beq_iff_eq] at asks
    obtain ⟨rfl, rfl⟩ := asks
    obtain ⟨answer, moments, rfl, seen, acted, bind⟩ := writes_current later at_t (by omega) writes control
    obtain ⟨row, rfl, accounts⟩ := bind "s" "bob" rfl
    exact ⟨s₀, s, row, moments, t.log, seen, acted, accounts⟩
  · cases asks

end Underwriting.Current
