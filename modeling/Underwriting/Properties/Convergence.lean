import Underwriting.Bind.Stages
import Underwriting.Machine.Milestones
import Underwriting.Machine.Policies
import Underwriting.Machine.Rows
import Underwriting.Machine.Scenario
import Underwriting.Machine.Solo

/-! # Retries converge

Whatever attempts to bind have done to the policy of a submission's quote, the policy
is on its way to active, and a Binding is recorded only once it has arrived. So
a later bind that runs without faults finds the policy, takes it the rest of the way
and records it.
-/

namespace Underwriting.Convergence

open Interleaving Lifecycle
open BindService (policyNumberFor)

/-- An accepted and quoted submission without a Binding, whose policy number nobody
    else has used: no other Binding has it, and its policy, if any, is on its way. -/
structure Ready (w : World (List Policy)) (submissionId : String) (quote : Quote) : Prop where
  has : ∃ submission, w.db.Has submissionId submission
  assessed : w.db.decisionsOf submissionId ≠ []
  accepted : ∀ d ∈ Latest.tops Decision.latestKey (w.db.decisionsOf submissionId), d.outcome = Outcome.accept.value
  quoted : quote ∈ Latest.tops Quote.latestKey (w.db.quotesOf submissionId)
  unbound : ∀ b ∈ w.db.bindings, b.submissionId ≠ submissionId ∧ b.policyNumber ≠ policyNumberFor quote.id
  live : ∀ p ∈ w.pas, p.policyNumber = policyNumberFor quote.id → 1 ≤ p.status.stage
  keyed : w.db.Keyed
  unique : Unique w.pas

/-- Only attempts to bind touch the submission, and users leave its policy alone. -/
def Attempts (submissionId policyNumber : String) (s : ProgSys (List Policy)) :
    Choice Request (Fate Reaction) (Env UserAct) → Prop
  | .start req => req.underwritingOf ≠ some submissionId ∧ ∀ sid ∈ req.bindOf, sid = submissionId
  | .env (.pas a) => ∀ p ∈ s.world.pas, p.policyNumber = policyNumber → p.id ≠ a.policyId
  | .run _ _ | .crash _ | .env (.ruleset _ _) | .env (.rateTable _ _) => True

/-- The single Binding of the submission records the one policy of the number, which
    is active. -/
structure Converged (submissionId policyNumber : String) (w : World (List Policy)) (b : Binding) : Prop where
  binding : w.db.bindings.filter (·.submissionId = submissionId) = [b]
  policy : ∃ p, w.pas.filter (·.policyNumber = policyNumber) = [p] ∧ p.status = .active ∧ b.pasPolicyId = p.id

/-- The request has returned such a Binding. -/
def Returned (submissionId policyNumber : String) (answer : Answer) (w : World (List Policy)) : Prop :=
  ∃ b, answer = .binding b ∧ Converged submissionId policyNumber w b

instance (sid n : String) (s : ProgSys (List Policy)) (choice : Choice Request (Fate Reaction) (Env UserAct)) :
    Decidable (Attempts sid n s choice) :=
  match choice with
  | .start req => inferInstanceAs (Decidable (req.underwritingOf ≠ some sid ∧ ∀ other ∈ req.bindOf, other = sid))
  | .env (.pas a) => inferInstanceAs (Decidable (∀ p ∈ s.world.pas, p.policyNumber = n → p.id ≠ a.policyId))
  | .run _ _ | .crash _ | .env (.ruleset _ _) | .env (.rateTable _ _) => .isTrue trivial

section Points

/-- How far a bind at this point has taken its policy. -/
def level : Phase → ℕ
  | .bindSubmit _ _ _ => 1
  | .bindActivate _ _ _ => 2
  | .bindPublish _ _ _ | .bindInsert _ _ _ _ | .bindAudit _ _ _ _ _ | .bindCommit _ _ _ _ _ _ => 3
  | _ => 0

/-- How a bind comes to a level with its policy. -/
inductive Rise (hold : Holding) (ph : Phase) : (c : Call) → Except PyErr (Reply c) → ℕ → Prop where
  | kept {c answer k} (before : ph.held = some hold) (below : k ≤ level ph) : Rise hold ph c answer k
  | found {c answer} (finds : Phase.Finds hold ph c answer) : Rise hold ph c answer 1
  | moved {action resp} (before : ph.held = some hold) (lifts : Lifts action (level ph))
      (taken : resp.statusCode ∈ [200, 201, 409]) :
      Rise hold ph (.policyService (.transition hold.policy.id action)) (.ok resp) (level ph + 1)

variable {ph ph' : Phase} {c : Call} {answer : Except PyErr (Reply c)} {hold : Holding}

/-- A bind that has found its policy submits it next; one that holds it moves it, or
    leaves it where it is. -/
theorem level_next (leads : Phase.Leads ph c answer ph') (held : ph'.held = some hold) :
    Rise hold ph c answer (level ph') := by
  cases leads with
  | bindCreate read =>
      cases held
      exact .found (.created read)
  | bindResolve read =>
      cases held
      exact .found (.listed read)
  | bindSubmit read =>
      cases held
      exact .moved rfl lifts_submit (PolicyClient.transition_taken read)
  | bindActivate read =>
      cases held
      exact .moved rfl lifts_activate (PolicyClient.transition_taken read)
  | bindPublish | bindInsert | bindAudit => exact .kept held (Nat.le_refl 3)
  | _ => cases held

end Points

section Attempts

variable {paging : Paging} {sid : String} {quote : Quote} {w₀ : World (List Policy)} {s s' : PointSys (List Policy)}
  {choice : Choice Request (Fate Reaction) (Env UserAct)}

/-- What an attempt knows: it is a bind of the submission (or a request for another
    one), it has read the one latest quote, and its policy has come as far as it
    has taken it. -/
structure Attempt (sid : String) (quote : Quote) (store : List Policy) (t : PointThread) : Prop where
  own : ∀ other, t.req.bindOf = some other → other = sid
  foreign : t.req.underwritingOf ≠ some sid
  quoted : ∀ q, ⟨.latestQuote sid, some q⟩ ∈ t.log → q = quote
  held : ∀ hold, t.ctl.held = some hold → Reached store hold.policy.id (policyNumberFor quote.id) (level t.ctl)

/-- The submission's decisions and quotes stay, its policy is on its way, and a
    Binding of it records an active policy. -/
structure Standing (sid : String) (quote : Quote) (w₀ w : World (List Policy)) : Prop where
  decisions : w.db.decisionsOf sid = w₀.db.decisionsOf sid
  quotes : w.db.quotesOf sid = w₀.db.quotesOf sid
  others : ∀ b ∈ w.db.bindings, b.submissionId ≠ sid → b.policyNumber ≠ policyNumberFor quote.id
  bound : ∀ b ∈ w.db.bindings, b.submissionId = sid → Reached w.pas b.pasPolicyId (policyNumberFor quote.id) 3
  live : ∀ p ∈ w.pas, p.policyNumber = policyNumberFor quote.id → 1 ≤ p.status.stage
  unique : Unique w.pas

theorem Ready.standing (ready : Ready w₀ sid quote) : Standing sid quote w₀ w₀ where
  decisions := rfl
  quotes := rfl
  others b member _ := (ready.unbound b member).2
  bound b member owner := absurd owner (ready.unbound b member).1
  live := ready.live
  unique := ready.unique

/-- The latest quote is the one that is ready. -/
theorem quote_read (ready : Ready w₀ sid quote) {db : Db} (keyed : db.Keyed)
    (quotes : db.quotesOf sid = w₀.db.quotesOf sid) {pick : ℕ} {q : Quote}
    (read : db.query pick (.latestQuote sid) = some (some q)) : q = quote := by
  obtain ⟨member, above⟩ := Latest.limitOne_top (Option.some.inj read)
  obtain ⟨member', above'⟩ := Latest.mem_tops.mp ready.quoted
  rw [← quotes] at member' above'
  have same : q.latestKey = quote.latestKey := le_antisymm (above' q member) (above quote member')
  have ids : q.id = quote.id := congrArg Prod.snd (toLex.injective same)
  exact keyed.quote_eq (Db.mem_quotesOf.mp member).1 (Db.mem_quotesOf.mp member').1 ids

/-- The number of a request that finds its policy is the quote's. -/
theorem found_number {db : Db} {store : List Policy} {t : PointThread} (known : Sound db t)
    (attempt : Attempt sid quote store t) {hold : Holding} {c : Call} {answer : Except PyErr (Reply c)}
    (finds : Phase.Finds hold t.ctl c answer) : hold.request.policyNumber = policyNumberFor quote.id := by
  obtain ⟨⟨fits, -⟩, request, logged, -⟩ := known
  generalize t.ctl = ph at finds fits request logged
  have all : (hold.file.Read db ∧ hold.file.Requested hold.request) ∧ t.req.bindOf = some hold.file.submissionId ∧
      Phase.reads hold.file ⊆ t.log := by
    cases finds with
    | created | listed => exact ⟨fits, congrArg Request.bindOf request, logged⟩
  obtain ⟨⟨-, made⟩, bind, reads⟩ := all
  obtain rfl := attempt.own _ bind
  have same : hold.file.quote = quote := attempt.quoted _ (reads (by simp [Phase.reads]))
  rw [made.number, same]

theorem pas_onward (standing : Standing sid quote w₀ s.world)
    (allowed : Attempts sid (policyNumberFor quote.id) (s.map routes.map) choice)
    (stepped : step (backend (model paging)) points s choice = some s') :
    Onward (policyNumberFor quote.id) s.world.pas s'.world.pas := by
  cases pas_step stepped with
  | same kept => exact kept ▸ .refl _ _
  | user a chosen pas db =>
      subst chosen
      exact pas ▸ act_onward allowed
  | served chosen at_i next effect db => exact effect.onward standing.unique _

theorem attempt_step (exact_paging : Exact paging) (ready : Ready w₀ sid quote) (sound : AllSound s)
    (keyed : s.world.db.Keyed) (standing : Standing sid quote w₀ s.world)
    (attempts : ∀ t ∈ s.threads, Attempt sid quote s.world.pas t)
    (allowed : Attempts sid (policyNumberFor quote.id) (s.map routes.map) choice)
    (stepped : step (backend (model paging)) points s choice = some s') :
    ∀ t ∈ s'.threads, Attempt sid quote s'.world.pas t := by
  have onward := pas_onward standing allowed stepped
  have live := onward.live standing.live
  refine threads_step stepped ?others ?start ?died ?moved
  case others =>
    intro t member
    obtain ⟨own, foreign, quoted, held⟩ := attempts t member
    exact ⟨own, foreign, quoted, fun hold known => onward.reached (held hold known)⟩
  case start =>
    rintro req rfl
    refine ⟨allowed.2, allowed.1, (fun _ member => nomatch member), ?_⟩
    cases req <;> exact fun _ known => nomatch known
  case died =>
    intro t member
    obtain ⟨own, foreign, quoted, -⟩ := attempts t member
    exact ⟨own, foreign, quoted, fun _ known => nomatch known⟩
  case moved =>
    intro i fate t c rest answer session _ at_i next handled
    have member := List.mem_of_getElem? at_i
    have attempt := attempts t member
    have outcome := handle_cases handled
    refine ⟨attempt.own, attempt.foreign, fun q logged => ?_, fun hold known => ?_⟩
    · rcases Thread.mem_log_answered logged with old | ⟨value, rfl, new⟩
      · exact attempt.quoted q old
      · cases new
        obtain ⟨-, -, pick, read⟩ := outcome.query rfl rfl
        exact quote_read ready keyed standing.quotes read
    · have risen := level_next (Phase.leads_next next answer) known
      change Reached s'.world.pas hold.policy.id _ (level (rest answer))
      generalize level (rest answer) = k at risen
      cases risen with
      | kept before below => exact (onward.reached (attempt.held hold before)).weaken below
      | found finds =>
          obtain ⟨p, stored, id, number⟩ := stored_found exact_paging finds outcome
          have same := number.trans (found_number (sound t member) attempt finds)
          exact ⟨p, stored, id, same, live p stored same⟩
      | moved before lifts taken =>
          rcases outcome.served with ⟨failed, -, -⟩ | ⟨reaction, pas, -, served, same, -⟩
          · cases failed
          · rw [same]
            exact lifted standing.unique lifts (attempt.held hold before) served taken

/-- A Binding that is committed records the policy that its bind has activated. -/
theorem bound_commit {t : PointThread} {db : Db} {store : List Policy} (known : Sound db t)
    (attempt : Attempt sid quote store t) {rest} (next : t.ctl.next = some ⟨.commit, rest⟩) {b : Binding}
    (new : b ∈ t.ctl.pending.bindings) :
    b.submissionId = sid ∧ Reached store b.pasPolicyId (policyNumberFor quote.id) 3 := by
  obtain ⟨file, request, policy, published, entry, phase⟩ := Phase.commits_binding next new
  obtain ⟨fits, asked⟩ := And.intro known.kept.1 known.request
  have held := attempt.held
  rw [phase] at fits asked held
  obtain ⟨⟨read, -⟩, written, -⟩ := fits
  have owner : b.submissionId = sid := (read.owner written).trans (attempt.own _ (congrArg Request.bindOf asked))
  have id : b.pasPolicyId = policy.id := congrArg NewBinding.pasPolicyId written
  exact ⟨owner, id ▸ held ⟨file, request, policy⟩ rfl⟩

theorem standing_step (sound : AllSound s) (standing : Standing sid quote w₀ s.world)
    (attempts : ∀ t ∈ s.threads, Attempt sid quote s.world.pas t)
    (allowed : Attempts sid (policyNumberFor quote.id) (s.map routes.map) choice)
    (stepped : step (backend (model paging)) points s choice = some s') : Standing sid quote w₀ s'.world := by
  have onward := pas_onward standing allowed stepped
  have free : ∀ t ∈ s.threads, t.ctl.guarded ≠ some sid := fun t member passed =>
    (attempts t member).foreign ((sound t member).guarded_request passed)
  obtain ⟨decisions, quotes⟩ := rows_kept sound stepped free
  have rows : ∀ b ∈ s'.world.db.bindings, b ∈ s.world.db.bindings ∨
      b.submissionId = sid ∧ Reached s.world.pas b.pasPolicyId (policyNumberFor quote.id) 3 := by
    intro b member
    cases db_step sound stepped with
    | same kept => exact .inl (kept ▸ member)
    | rules rulesets rateTables chosen world =>
        rw [world] at member
        exact .inl ((List.mem_append.mp member).resolve_right fun new => nomatch new)
    | @commit i t rest chosen at_i next world =>
        rw [world] at member
        have running := List.mem_of_getElem? at_i
        exact (List.mem_append.mp member).imp_right (bound_commit (sound t running) (attempts t running) next)
  refine ⟨decisions.trans standing.decisions, quotes.trans standing.quotes, fun b member other => ?_,
    fun b member owner => ?_, onward.live standing.live, unique_step standing.unique stepped⟩
  · exact standing.others b ((rows b member).resolve_right fun new => other new.1) other
  · rcases rows b member with old | ⟨-, reached⟩
    · exact onward.reached (standing.bound b old owner)
    · exact onward.reached reached

theorem standing_run (exact_paging : Exact paging) (ready : Ready w₀ sid quote)
    (run : Run (backend (model paging)) points
      (fun s choice => Attempts sid (policyNumberFor quote.id) (s.map routes.map) choice) (idle w₀) s) :
    s.world.db.Keyed ∧ Standing sid quote w₀ s.world := by
  have both : Standing sid quote w₀ s.world ∧ ∀ t ∈ s.threads, Attempt sid quote s.world.pas t := by
    refine points_invariant run ready.keyed
      (I := fun s => Standing sid quote w₀ s.world ∧ ∀ t ∈ s.threads, Attempt sid quote s.world.pas t)
      ⟨ready.standing, fun _ member => nomatch member⟩ ?_
    intro s choice s' sound keyed ⟨standing, attempts⟩ allowed stepped
    exact ⟨standing_step sound standing attempts allowed stepped,
      attempt_step exact_paging ready sound keyed standing attempts allowed stepped⟩
  exact ⟨keyed_run run (.idle w₀) ready.keyed, both.1⟩

end Attempts

section Retry

variable {paging : Paging} {sid n : String} {w : World (List Policy)} {file : BindFile}
  {request : CreatePolicyRequest} {policy : PolicyClient.PolicyRef}

/-- A Binding of the submission with an active policy of the number is the end. -/
theorem converged (keyed : w.db.Keyed) (unique : Unique w.pas) {b : Binding} (member : b ∈ w.db.bindings)
    (owner : b.submissionId = sid) (reached : Reached w.pas b.pasPolicyId n 3) : Converged sid n w b := by
  obtain ⟨p, stored, id, number, far⟩ := reached
  subst owner
  subst number
  have alone := Db.filter_key unique.policyNumber stored
  exact ⟨Db.filter_key keyed.boundOnce member, p, alone, active_of_stage far, id.symm⟩

/-- No Binding is in the way. -/
structure Free (db : Db) (sid n : String) : Prop where
  keyed : db.Keyed
  unbound : ∀ b ∈ db.bindings, b.submissionId ≠ sid
  number : ∀ b ∈ db.bindings, b.policyNumber ≠ n

theorem Free.binding {db : Db} (free : Free db sid n) (row : Binding) (fresh : row.id ∉ db.ids)
    (owner : row.submissionId = sid) (number : row.policyNumber = n) : (db ++ { bindings := [row] }).Keyed := by
  have new : row.id ∉ db.bindings.map (·.id) := fun taken => fresh (binding_ids taken)
  have unbound : row.submissionId ∉ db.bindings.map (·.submissionId) := by
    intro taken
    obtain ⟨b, member, same⟩ := List.mem_map.mp taken
    exact free.unbound b member (same.trans owner)
  have unnumbered : row.policyNumber ∉ db.bindings.map (·.policyNumber) := by
    intro taken
    obtain ⟨b, member, same⟩ := List.mem_map.mp taken
    exact free.number b member (same.trans number)
  have keyed := free.keyed
  constructor
  case bindingId => exact Db.nodup_snoc keyed.bindingId new
  case boundOnce => exact Db.nodup_snoc keyed.boundOnce unbound
  case policyNumber => exact Db.nodup_snoc keyed.policyNumber unnumbered
  all_goals simp only [Db.append_counterparties, Db.append_submissions, Db.append_decisions, Db.append_quotes,
    Db.append_audits, Db.append_rulesets, Db.append_rateTables, List.append_nil]
  exacts [keyed.counterpartyId, keyed.submissionId, keyed.decisionId, keyed.quoteId, keyed.auditId,
    keyed.rulesetId, keyed.rateTableId, keyed.rulesetVersion, keyed.rateTableVersion]

theorem keyed_audit {db : Db} (keyed : db.Keyed) (entry : AuditEntry) (fresh : entry.id ∉ db.audits.map (·.id)) :
    (db ++ { audits := [entry] }).Keyed := by
  constructor
  case auditId => exact Db.nodup_snoc keyed.auditId fresh
  all_goals simp only [Db.append_counterparties, Db.append_submissions, Db.append_decisions, Db.append_quotes,
    Db.append_bindings, Db.append_rulesets, Db.append_rateTables, List.append_nil]
  exacts [keyed.counterpartyId, keyed.submissionId, keyed.decisionId, keyed.quoteId, keyed.bindingId,
    keyed.rulesetId, keyed.rateTableId, keyed.boundOnce, keyed.policyNumber, keyed.rulesetVersion,
    keyed.rateTableVersion]

/-- The bind is for the submission, its quote has the number, and its actor fits the
    columns. -/
structure For (sid n : String) (file : BindFile) : Prop where
  submission : file.submission.id = sid
  number : policyNumberFor file.quote.id = n
  actor : Varchar 128 file.actor

/-- Both rows of a bind fit. -/
theorem For.fits (own : For sid n file) (short : Varchar 64 policy.id) (published : Bool) :
    (BindService.newBinding file.submission file.quote policy published file.actor).Fits ∧
      (BindService.boundEntry file.submission file.quote policy published file.actor).Fits := by
  constructor
  · have status : Varchar 16 "bound" := by decide
    exact ⟨BindService.policyNumberFor_fits file.quote.id, short, status, own.actor⟩
  · have action : Varchar 64 "bind" := by decide
    exact ⟨action, own.actor, fun _ none => nomatch none⟩

theorem commit_finishes {pending : Db} {published : Bool} {row : Binding} {entry : AuditEntry}
    (keyed : (w.db ++ pending).Keyed) (unique : Unique w.pas) (member : row ∈ pending.bindings)
    (owner : row.submissionId = sid) (reached : Reached w.pas row.pasPolicyId n 3) :
    (Phase.bindCommit file request policy published row entry).Finishes paging (Returned sid n) w pending := by
  refine Phase.finishes_commit rfl keyed ?_
  change (Phase.bindRefresh _ _).Finishes _ _ _ _
  refine Phase.finishes_query rfl rfl fun pick value read => ?_
  have done : Converged sid n { w with db := w.db ++ pending } row :=
    converged (w := { w with db := w.db ++ pending }) keyed unique (List.mem_append_right _ member) owner reached
  exact Phase.finishes_ended ⟨row, rfl, done⟩

theorem insert_finishes (free : Free w.db sid n) (unique : Unique w.pas) (own : For sid n file)
    (short : Varchar 64 policy.id) (reached : Reached w.pas policy.id n 3) (published : Bool) :
    (Phase.bindInsert file request policy published).Finishes paging (Returned sid n) w .empty := by
  obtain ⟨binding, audit⟩ := own.fits short published
  refine Phase.finishes_insert rfl rfl (fun _ => rfl) binding fun stamp row added fresh inserted => ?_
  cases inserted
  have keyed := free.binding
    ⟨BindService.newBinding file.submission file.quote policy published file.actor, stamp⟩
    fresh own.submission own.number
  refine ⟨keyed, ?_⟩
  change (Phase.bindAudit _ _ _ _ _).Finishes _ _ _ _
  refine Phase.finishes_insert rfl rfl (fun _ => rfl) audit fun stamp' entry added' fresh' inserted' => ?_
  cases inserted'
  have both := keyed_audit keyed
    ⟨BindService.boundEntry file.submission file.quote policy published file.actor, stamp'⟩ fun taken =>
      fresh' (audit_ids ((List.append_nil w.db.audits) ▸ taken))
  rw [Db.append_assoc] at both
  exact ⟨both, commit_finishes both unique (List.mem_singleton_self _) own.submission reached⟩

/-- The publisher may fail, the bind goes on. -/
theorem publish_finishes (free : Free w.db sid n) (unique : Unique w.pas) (own : For sid n file)
    (short : Varchar 64 policy.id) (reached : Reached w.pas policy.id n 3) :
    (Phase.bindPublish file request policy).Finishes paging (Returned sid n) w .empty := by
  refine Phase.finishes_publish rfl fun answer delivered => ?_
  cases answer with
  | ok _ => exact insert_finishes (w := { w with delivered }) free unique own short reached true
  | error _ => exact insert_finishes (w := { w with delivered }) free unique own short reached false

theorem activate_finishes (free : Free w.db sid n) (unique : Unique w.pas) (own : For sid n file)
    (short : Varchar 64 policy.id) (reached : Reached w.pas policy.id n 2) :
    (Phase.bindActivate file request policy).Finishes paging (Returned sid n) w .empty := by
  refine Phase.finishes_request rfl (fun _ other => nomatch other) fun newId resp after _ served => ?_
  have read := transition_served unique reached served
  have active := lifted unique lifts_activate reached served (PolicyClient.transition_taken read)
  change (Phase.onOk _ _ (PolicyClient.readTransition policy.id "activate" resp)).Finishes _ _ _ _
  rw [read]
  exact publish_finishes (w := { w with pas := after }) free (unique.effect (serve_effect served)) own short active

theorem submit_finishes (free : Free w.db sid n) (unique : Unique w.pas) (own : For sid n file)
    (short : Varchar 64 policy.id) (reached : Reached w.pas policy.id n 1) :
    (Phase.bindSubmit file request policy).Finishes paging (Returned sid n) w .empty := by
  refine Phase.finishes_request rfl (fun _ other => nomatch other) fun newId resp after _ served => ?_
  have read := transition_served unique reached served
  have submitted := lifted unique lifts_submit reached served (PolicyClient.transition_taken read)
  change (Phase.onOk _ _ (PolicyClient.readTransition policy.id "submit" resp)).Finishes _ _ _ _
  rw [read]
  exact activate_finishes (w := { w with pas := after }) free (unique.effect (serve_effect served)) own short submitted

/-- A conflict is resolved to the policy of the number. -/
theorem resolve_finishes (exact_paging : Exact paging) (free : Free w.db sid n) (unique : Unique w.pas)
    (own : For sid n file) (number : request.policyNumber = n) {p : Policy} (member : p ∈ w.pas)
    (short : Varchar 64 p.id) (named : p.policyNumber = n) (far : 1 ≤ p.status.stage) :
    (Phase.bindResolve file request).Finishes paging (Returned sid n) w .empty := by
  subst named
  refine Phase.finishes_request rfl (fun _ other => nomatch other) fun newId resp after _ served => ?_
  obtain ⟨read, rfl⟩ := list_served exact_paging served
  rw [number, Db.find?_key unique.policyNumber member, ← number] at read
  change (Phase.onOk _ _ (PolicyClient.readListed request.policyNumber resp)).Finishes _ _ _ _
  rw [read]
  exact submit_finishes free unique own short ⟨p, member, rfl, rfl, far⟩

theorem create_finishes (exact_paging : Exact paging) (free : Free w.db sid n) (unique : Unique w.pas)
    (ids : ShortIds w.pas) (live : ∀ p ∈ w.pas, p.policyNumber = n → 1 ≤ p.status.stage) (own : For sid n file)
    (number : request.policyNumber = n) :
    (Phase.bindCreate file request).Finishes paging (Returned sid n) w .empty := by
  refine Phase.finishes_request rfl (fun _ _ => ids) fun newId resp after short served => ?_
  change (Phase.onOk _ _ (PolicyClient.readCreated resp)).Finishes _ _ _ _
  rcases create_served served with ⟨read, stored⟩ | ⟨read, rfl, p, member, named⟩
  · rw [read]
    refine submit_finishes (w := { w with pas := after }) free (unique.effect (serve_effect served)) own short ?_
    refine ⟨.ofRequest request newId, ?_, rfl, number, Nat.le_refl 1⟩
    rw [stored]
    exact List.mem_append_right _ (List.mem_singleton_self _)
  · rw [read]
    have mine : p.policyNumber = n := named.trans number
    exact resolve_finishes exact_paging free unique own number member (ids.fits p member) mine (live p member mine)

theorem clock_finishes (exact_paging : Exact paging) (free : Free w.db sid n) (unique : Unique w.pas)
    (ids : ShortIds w.pas) (live : ∀ p ∈ w.pas, p.policyNumber = n → 1 ≤ p.status.stage) (own : For sid n file)
    (holder : String) :
    (Phase.bindClock file holder).Finishes paging (Returned sid n) w .empty := by
  refine Phase.finishes_now rfl fun time early => ?_
  obtain ⟨request, created, number⟩ :=
    BindService.request_made file.submission holder (policyNumberFor file.quote.id) early
  change (Phase.onOk _ _ (BindService.createRequest _ _ _ time)).Finishes _ _ _ _
  rw [created]
  exact create_finishes (w := w.tick time) exact_paging free unique ids live own (number.trans own.number)

end Retry

section Start

variable {paging : Paging} {sid actor : String} {quote : Quote} {w : World (List Policy)} {submission : Submission}

/-- The submission is accepted and quoted, and its policy is on its way. -/
structure Open (sid : String) (quote : Quote) (w : World (List Policy)) : Prop where
  assessed : w.db.decisionsOf sid ≠ []
  accepted : ∀ d ∈ Latest.tops Decision.latestKey (w.db.decisionsOf sid), d.outcome = Outcome.accept.value
  latest : ∀ pick found, w.db.query pick (.latestQuote sid) = some found → found = some quote
  live : ∀ p ∈ w.pas, p.policyNumber = policyNumberFor quote.id → 1 ≤ p.status.stage
  unique : Unique w.pas
  ids : ShortIds w.pas

theorem quote_finishes (exact_paging : Exact paging) (opened : Open sid quote w) (named : Varchar 128 actor)
    (free : Free w.db sid (policyNumberFor quote.id)) (owner : submission.id = sid) (decision : Decision) :
    (Phase.bindQuote sid actor submission decision).Finishes paging
      (Returned sid (policyNumberFor quote.id)) w .empty := by
  refine Phase.finishes_query rfl rfl fun pick found read => ?_
  obtain rfl := opened.latest pick found read
  change (Phase.bindHolder _).Finishes _ _ _ _
  refine Phase.finishes_query rfl rfl fun pick holder read => ?_
  have own : For sid (policyNumberFor quote.id) ⟨sid, actor, submission, decision, quote⟩ :=
    ⟨owner, rfl, named⟩
  cases holder with
  | none => exact clock_finishes exact_paging free opened.unique opened.ids opened.live own _
  | some counterparty => exact clock_finishes exact_paging free opened.unique opened.ids opened.live own _

theorem decision_finishes (exact_paging : Exact paging) (opened : Open sid quote w) (named : Varchar 128 actor)
    (free : Free w.db sid (policyNumberFor quote.id)) (owner : submission.id = sid) :
    (Phase.bindDecision sid actor submission).Finishes paging (Returned sid (policyNumberFor quote.id)) w .empty := by
  refine Phase.finishes_query rfl rfl fun pick found read => ?_
  cases found with
  | none => exact absurd (Latest.limitOne_eq_none.mp (Option.some.inj read)) opened.assessed
  | some decision =>
      have accepted := opened.accepted decision (Latest.mem_tops.mpr (Latest.limitOne_top (Option.some.inj read)))
      change (if decision.outcome ≠ Outcome.accept.value then _ else _ : Phase).Finishes _ _ _ _
      rw [if_neg (not_not.mpr accepted)]
      exact quote_finishes exact_paging opened named free owner decision

/-- A fault-free bind returns the Binding, whether it finds or makes it. -/
theorem bind_finishes (exact_paging : Exact paging) (keyed : w.db.Keyed) (opened : Open sid quote w)
    (named : Varchar 128 actor) (has : w.db.Has sid submission)
    (others : ∀ b ∈ w.db.bindings, b.submissionId ≠ sid → b.policyNumber ≠ policyNumberFor quote.id)
    (bound : ∀ b ∈ w.db.bindings, b.submissionId = sid → Reached w.pas b.pasPolicyId (policyNumberFor quote.id) 3) :
    (Phase.bindSubmission sid actor).Finishes paging (Returned sid (policyNumberFor quote.id)) w .empty := by
  obtain ⟨stored, owner⟩ := has
  refine Phase.finishes_query rfl rfl fun pick found read => ?_
  have located : w.db.submissions.find? (·.id = sid) = some submission :=
    owner ▸ Db.find?_key keyed.submissionId stored
  obtain rfl : some submission = found := located.symm.trans (Option.some.inj read)
  change (Phase.bindCheck _ _ _).Finishes _ _ _ _
  refine Phase.finishes_query rfl rfl fun pick existing check => ?_
  cases existing with
  | some b =>
      have found : w.db.bindings.find? (·.submissionId = sid) = some b := Option.some.inj check
      have member := List.mem_of_find?_eq_some found
      have own : b.submissionId = sid := by simpa using List.find?_some found
      exact Phase.finishes_ended ⟨b, rfl, converged keyed opened.unique member own (bound b member own)⟩
  | none =>
      have unbound : ∀ b ∈ w.db.bindings, b.submissionId ≠ sid := fun b member own =>
        not_bound check ⟨b, member, own⟩
      apply decision_finishes exact_paging opened named ?_ owner
      exact ⟨keyed, unbound, fun b member => others b member (unbound b member)⟩

theorem retry_succeeds (exact_paging : Exact paging) {w₀ : World (List Policy)} (ready : Ready w₀ sid quote)
    {s : ProgSys (List Policy)}
    (run : Run (backend (model paging)) requests (Attempts sid (policyNumberFor quote.id)) (idle w₀) s)
    (ids : ShortIds s.world.pas) (named : Varchar 128 actor) :
    (route (.bind sid actor)).Succeeds (backend (model paging)) FaultFree (Returned sid (policyNumberFor quote.id))
      s.world .empty := by
  obtain ⟨s, lifted, rfl⟩ := lift_idle run
  obtain ⟨keyed, standing⟩ := standing_run exact_paging ready lifted
  obtain ⟨submission, has⟩ := ready.has
  have opened : Open sid quote s.world := by
    refine ⟨standing.decisions ▸ ready.assessed, standing.decisions ▸ ready.accepted, fun pick found read => ?_,
      standing.live, standing.unique, ids⟩
    cases found with
    | none =>
        have empty := Latest.limitOne_eq_none.mp (Option.some.inj read)
        rw [standing.quotes] at empty
        cases empty ▸ (Latest.mem_tops.mp ready.quoted).1
    | some q => rw [quote_read ready keyed standing.quotes read]
  rw [← Phase.start_prog]
  exact bind_finishes exact_paging keyed opened named (Phase.has_grows has (run_grows lifted)) standing.others standing.bound

/-- Take an accepted and quoted submission that nobody else touches. After any attempts
    to bind it, whatever failed in them, a bind that runs alone and without faults, for an
    actor and with policy ids that fit their columns, succeeds: it returns the single
    Binding of the submission, which records the one policy of the quote's number, and
    the policy is active. -/
theorem retry_converges (exact_paging : Exact paging) {w₀ : World (List Policy)} (ready : Ready w₀ sid quote)
    {s : ProgSys (List Policy)}
    (run : Run (backend (model paging)) requests (Attempts sid (policyNumberFor quote.id)) (idle w₀) s)
    (ids : ShortIds s.world.pas) (named : Varchar 128 actor) :
    (route (.bind sid actor)).Succeeds (backend (model paging)) FaultFree (Returned sid (policyNumberFor quote.id))
        s.world .empty ∧
      ∀ s₁ s₂, step (backend (model paging)) requests s (.start (.bind sid actor)) = some s₁ →
        Run (backend (model paging)) requests (Alone FaultFree s.threads.length) s₁ s₂ →
          ∀ t, s₂.threads[s.threads.length]? = some t → ¬ t.Live requests →
            ∃ b, t.ctl = .ret (.binding b) ∧ Converged sid (policyNumberFor quote.id) s₂.world b := by
  have succeeds := retry_succeeds exact_paging ready run ids named
  refine ⟨succeeds, fun s₁ s₂ started alone t found ended => ?_⟩
  obtain ⟨answer, returned, b, rfl, converged⟩ := succeeds.returned started alone found ended
  exact ⟨b, returned, converged⟩

/-- An accepted and quoted submission that nobody has tried to bind. -/
def file : World (List Policy) where
  db := {
    submissions := [⟨⟨"c", "commercial_property", 100000, "office", "FR", "75001", "fire", none⟩, ⟨"s", 2⟩⟩]
    decisions := [⟨⟨"s", "accept", [], 1, "ann"⟩, ⟨"d", 10⟩⟩]
    quotes := [latest] }
  pas := []
  delivered := []
  clock := 20
where
  latest : Quote := ⟨⟨"s", 15000, "EUR", 1, .obj [], "ann", none, none, none, none, none⟩, ⟨"q", 20⟩⟩

/-- The create takes effect and is lost, then the submit is, then the commit. -/
def attempts : Scenario.Script :=
  [.start Scenario.bind] ++ Scenario.opening 0 30 ++ Scenario.drive 0 [.pas (.fail "p" true none)] ++
    [.start Scenario.bind] ++ Scenario.opening 1 40 ++
    Scenario.drive 1 [Scenario.served "", Scenario.served "", .pas (.fail "" true none)] ++
    [.start Scenario.bind] ++ Scenario.opening 2 50 ++ Scenario.drive 2 [Scenario.served ""] ++
    Scenario.effects 2 "" ++ Scenario.recording 2 "b" 51 ++ Scenario.drive 2 [.lost]

theorem file_ready : Ready file "s" file.latest where
  has := ⟨_, List.mem_singleton_self _, rfl⟩
  assessed := by decide
  accepted := by decide
  quoted := Latest.mem_tops.mpr ⟨.head _, by decide⟩
  unbound := fun _ member => nomatch member
  live := fun _ member => nomatch member
  keyed := by decide
  unique := .nil

theorem attempts_converge : ∃ s,
    Run Scenario.service requests (Attempts "s" (policyNumberFor file.latest.id)) (idle file) s ∧
      s.world.db.bindings.length = 0 ∧
      ((route (.bind "s" "bob")).Succeeds Scenario.service FaultFree (Returned "s" (policyNumberFor file.latest.id))
          s.world .empty ∧
        ∀ s₁ s₂, step Scenario.service requests s (.start (.bind "s" "bob")) = some s₁ →
          Run Scenario.service requests (Alone FaultFree s.threads.length) s₁ s₂ →
            ∀ t, s₂.threads[s.threads.length]? = some t → ¬ t.Live requests →
              ∃ b, t.ctl = .ret (.binding b) ∧ Converged "s" (policyNumberFor file.latest.id) s₂.world b) := by
  obtain ⟨s, run, failed⟩ := exists_run Scenario.service requests
    (Attempts "s" (policyNumberFor file.latest.id)) (idle file) attempts
    (fun s => s.world.db.bindings.length == 0 && s.world.pas.map (·.id) == ["p"]) (by decide +kernel)
  obtain ⟨none, ids⟩ := Bool.and_eq_true_iff.mp failed
  have named : ∀ p ∈ s.world.pas, p.id = "p" := fun p member =>
    List.mem_singleton.mp (eq_of_beq ids ▸ List.mem_map_of_mem member)
  have short : ShortIds s.world.pas := by
    refine ⟨fun p member => ?_, "", by decide, fun p member => ?_⟩
    · rw [named p member]
      decide
    · rw [named p member]
      decide
  exact ⟨s, run, by simpa using none, retry_converges byNumber_exact file_ready run short (by decide)⟩

end Start

end Underwriting.Convergence
