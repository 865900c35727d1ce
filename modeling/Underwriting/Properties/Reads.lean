import Underwriting.Lib.Instants
import Underwriting.Properties.Endpoints
import Underwriting.Properties.Inbox
import Underwriting.Properties.Ledger

/-! # What the GET endpoints answer

A GET makes one or two queries while other requests commit. Its answer is that of one
moment between its arrival and its end (the inbox is of two: the badges may be newer
than the rows). So what an earlier answer has shown, a later one does not take back.
-/

namespace Underwriting.Reads

open Interleaving
open Endpoints (asked opened apiService)

/-! ## The answer of a moment -/

/-- What an item of the inbox tells of a row of the query: the submission, the outcome of the
    decision beside it, and whether the submission is bound in a store. -/
structure Lists (db : Db) (row : Submission × Option Decision) (item : SubmissionListItem) : Prop where
  submission : item.toSubmissionRead.Copies row.1
  outcome : item.latestOutcome.map Outcome.value = row.2.map (·.outcome)
  bound : item.bound = true ↔ db.Bound row.1.id

/-- The texts of the row are members of their enums. -/
structure Readable (row : Submission × Option Decision) : Prop where
  lineOfBusiness : ∃ lob : LineOfBusiness, lob.value = row.1.lineOfBusiness
  occupancy : ∃ occupancy : Occupancy, occupancy.value = row.1.occupancy
  outcome : ∀ d, row.2 = some d → ∃ o : Outcome, o.value = d.outcome

/-- One page of the inbox: the rows of a moment, one item for each, the badges of a later
    moment. A row that is not readable is an exception. -/
def Page (before after : Db) (query : ListQuery) (result : Except PyErr Response) : Prop :=
  ∃ pick rows, rows = ((before.inboxOrdered query.outcome pick).drop query.offset).take query.limit ∧
    ((∃ items, result = .ok (.inbox items) ∧ List.Forall₂ (Lists after) rows items) ∨
      result = .error .value ∧ ∃ row ∈ rows, ¬Readable row)

/-- What a GET may answer, with these committed rows at its last query; only the inbox
    tells of an earlier moment too. -/
inductive Seen (before after : Db) : V1 → Except PyErr Response → Prop where
  | inbox {query result} (page : Page before after query result) : Seen before after (.listSubmissions query) result
  | detail {row decision} (stored : row ∈ after.submissions)
      (latest : decision ∈ after.decisionsOf row.id ∧ ∀ d ∈ after.decisionsOf row.id, d.latestKey ≤ decision.latestKey) :
      Seen before after (.getSubmission row.id) (.ok (.detail row (some decision)))
  | unassessed {row} (stored : row ∈ after.submissions) (empty : after.decisionsOf row.id = []) :
      Seen before after (.getSubmission row.id) (.ok (.detail row none))
  | quote {row quote} (stored : row ∈ after.submissions)
      (latest : quote ∈ after.quotesOf row.id ∧ ∀ q ∈ after.quotesOf row.id, q.latestKey ≤ quote.latestKey) :
      Seen before after (.getQuote row.id) (.ok (.quote quote))
  | unquoted {row} (stored : row ∈ after.submissions) (empty : after.quotesOf row.id = []) :
      Seen before after (.getQuote row.id) (.error (.http 404 "no quote for submission"))
  | binding {row binding} (stored : row ∈ after.submissions) (bound : binding ∈ after.bindings)
      (owner : binding.submissionId = row.id) : Seen before after (.getBinding row.id) (.ok (.binding binding))
  | unbound {row} (stored : row ∈ after.submissions) (free : ¬after.Bound row.id) :
      Seen before after (.getBinding row.id) (.error (.http 404 "submission is not bound"))
  | rateTables {rows} (all : rows.Perm after.rateTables) (newest : rows.Pairwise fun a b => b.version ≤ a.version) :
      Seen before after .listRateTables (.ok (.rateTables rows))
  | audit {row entries} (stored : row ∈ after.submissions) (all : entries.Perm (after.auditsOf row.id))
      (oldest : entries.Pairwise fun a b => a.time ≤ b.time) :
      Seen before after (.getSubmissionAudit row.id) (.ok (.audit entries))
  | missing {sid route} (asked : route ∈ [V1.getSubmission sid, .getQuote sid, .getBinding sid, .getSubmissionAudit sid])
      (unknown : ∀ row ∈ after.submissions, row.id ≠ sid) :
      Seen before after route (.error (.http 404 "submission not found"))
  | lost {route err} (failed : err = .outage ∨ err = .died) : Seen before after route (.error err)

variable {σ φ υ : Type} {P : PasModel σ φ υ} {jwksUrl : String}

/-- The store has grown. -/
def Later (w w' : World σ) : Prop := w.db.Grows w'.db

theorem handled_later {w w' : World σ} {pending pending' : Db} {c : ApiCall} {fate : Fate φ} {answer}
    (handled : (Api.backend P).handle w pending c fate = some (answer, w', pending')) : Later w w' := by
  cases c with
  | service c => exact (handle_cases handled).grows
  | read c => cases fate <;> cases handled <;> exact .refl _

theorem step_later {s s' : ApiSys σ} {choice}
    (stepped : step (Api.backend P) (Api.requests jwksUrl) s choice = some s') : Later s.world s'.world := by
  cases step_cases stepped with
  | start | crash => exact .refl _
  | run _ _ handled => exact handled_later handled
  | env e => exact disturb_grows P s.world e

theorem run_later {s s' : ApiSys σ} {ok} (run : Run (Api.backend P) (Api.requests jwksUrl) ok s s') :
    Later s.world s'.world := by
  induction run with
  | refl => exact .refl _
  | tail _ _ stepped ih => exact ih.trans (step_later stepped)

/-! ## The six handlers -/

theorem ofService_bind {α β : Type} (program : Program α) (next : α → Program β) :
    ofService (program >>= next) = ofService program >>= fun value => ofService (next value) :=
  Prog.rename_bind ..

theorem ofReads_bind {α β : Type} (program : ReadProgram α) (next : α → ReadProgram β) :
    ofReads (program >>= next) = ofReads program >>= fun value => ofReads (next value) :=
  Prog.rename_bind ..

section Handlers

variable {α : Type} {post : List (World σ) → World σ → Db → Except PyErr α → Prop} {past : List (World σ)}
  {w : World σ} {pending : Db}

/-- A query, then what its answer leads to. -/
theorem watches_query {c : Call} (kind : c.kind = .query) {next : Reply c → ApiProgram α}
    (answered : ∀ w₁, Later w w₁ → ∀ pick reply, w₁.db.query pick c = some reply →
      (next reply).Watches (Api.backend P) Later post (past ++ [w]) w₁ pending)
    (lost : ∀ w₁, Later w w₁ → post (past ++ [w]) w₁ pending (.error .outage)) :
    (ofService (ask c) >>= next).Watches (Api.backend P) Later post past w pending := by
  intro w₁ later fate answer w₂ session handled
  obtain ⟨rfl, rfl, ⟨-, rfl⟩ | ⟨pick, reply, rfl, found⟩⟩ := (handle_cases (P := P) handled).query_cases kind
  · exact lost w₂ later
  · exact answered w₂ later pick reply found

theorem watches_select {c : ReadCall} {next : ReadReply c → ApiProgram α}
    (answered : ∀ w₁, Later w w₁ → ∀ pick,
      (next (w₁.db.read pick c)).Watches (Api.backend P) Later post (past ++ [w]) w₁ pending)
    (lost : ∀ w₁, Later w w₁ → post (past ++ [w]) w₁ pending (.error .outage)) :
    (ofReads (select c) >>= next).Watches (Api.backend P) Later post past w pending := by
  intro w₁ later fate answer w₂ session handled
  cases fate <;> cases handled
  case lost => exact lost w₁ later
  case read pick => exact answered w₁ later pick

/-- The submission of a file, or that there is none. -/
theorem watches_existing {sid : String} {next : Submission → ApiProgram α}
    (found : ∀ w₁, Later w w₁ → ∀ row ∈ w₁.db.submissions, row.id = sid →
      (next row).Watches (Api.backend P) Later post (past ++ [w]) w₁ pending)
    (missing : ∀ w₁, Later w w₁ → (∀ row ∈ w₁.db.submissions, row.id ≠ sid) →
      post (past ++ [w]) w₁ pending (.error (.http 404 "submission not found")))
    (lost : ∀ w₁, Later w w₁ → post (past ++ [w]) w₁ pending (.error .outage)) :
    (ofService (Routes.existing sid) >>= next).Watches (Api.backend P) Later post past w pending := by
  intro w₁ later fate answer w₂ session handled
  obtain ⟨rfl, rfl, ⟨-, rfl⟩ | ⟨pick, reply, rfl, read⟩⟩ := (handle_cases (P := P) handled).query_cases rfl
  · exact lost w₂ later
  · obtain rfl := Option.some.inj read
    cases looked : w₂.db.submissions.find? (·.id = sid) with
    | none =>
        exact missing w₂ later fun row member => by simpa using List.find?_eq_none.mp looked row member
    | some row =>
        exact found w₂ later row (List.mem_of_find?_eq_some looked) (by simpa using List.find?_some looked)

/-- A submission that was asked for is in the answer if it is bound. -/
theorem mem_boundAmong {db : Db} {ids : List String} {sid : String} (asked : sid ∈ ids) :
    sid ∈ (db.bindings.filter (·.submissionId ∈ ids)).map (·.submissionId) ↔ db.Bound sid := by
  rw [List.mem_map]
  constructor
  · rintro ⟨b, member, owner⟩
    exact ⟨b, (List.mem_filter.mp member).1, owner⟩
  · rintro ⟨b, member, rfl⟩
    exact ⟨b, List.mem_filter.mpr ⟨member, decide_eq_true asked⟩, rfl⟩

theorem listItem_lists {db : Db} {boundIds : List String} {row : Submission × Option Decision}
    (badge : row.1.id ∈ boundIds ↔ db.Bound row.1.id) :
    (∃ item, SubmissionService.listItem boundIds row = .ok item ∧ Lists db row item) ∨
      SubmissionService.listItem boundIds row = .error .value ∧ ¬Readable row := by
  cases built : SubmissionService.listItem boundIds row with
  | ok item =>
      obtain ⟨validated, shown, flag⟩ := SubmissionService.listItem_ok built
      refine .inl ⟨item, rfl, modelValidate_ok validated, SubmissionService.latestOutcome_ok shown, ?_⟩
      rw [flag, decide_eq_true_iff, badge]
  | error err =>
      refine .inr ⟨congrArg Except.error (listItem_error built), fun readable => ?_⟩
      obtain ⟨read, validated⟩ := modelValidate_iff.mpr ⟨readable.lineOfBusiness, readable.occupancy⟩
      obtain ⟨outcome, shown⟩ : ∃ outcome, SubmissionService.latestOutcome row.2 = .ok outcome := by
        cases found : row.2 with
        | none => exact ⟨none, rfl⟩
        | some d =>
            obtain ⟨o, named⟩ := readable.outcome d found
            obtain ⟨o', known⟩ := o.ofValue_value
            rw [named] at known
            exact ⟨some o', by simp only [SubmissionService.latestOutcome, known]; rfl⟩
      obtain ⟨item, made⟩ := SubmissionService.exists_listItem validated shown boundIds
      cases built.symm.trans made

/-- The loop over the rows gives an item for each, or meets one that is not readable. -/
theorem items_list {db : Db} {boundIds : List String} {rows : List (Submission × Option Decision)}
    (badges : ∀ row ∈ rows, row.1.id ∈ boundIds ↔ db.Bound row.1.id) :
    (∃ items, rows.mapM (SubmissionService.listItem boundIds) = .ok items ∧ List.Forall₂ (Lists db) rows items) ∨
      rows.mapM (SubmissionService.listItem boundIds) = .error .value ∧ ∃ row ∈ rows, ¬Readable row := by
  induction rows with
  | nil => exact .inl ⟨[], rfl, .nil⟩
  | cons row rest ih =>
      rw [List.mapM_cons]
      rcases listItem_lists (badges row List.mem_cons_self) with ⟨item, made, lists⟩ | ⟨failed, unreadable⟩
      · rw [made]
        rcases ih fun other member => badges other (List.mem_cons_of_mem _ member) with
          ⟨items, built, each⟩ | ⟨failed, other, member, unreadable⟩
        · rw [built]
          exact .inl ⟨item :: items, rfl, .cons lists each⟩
        · rw [failed]
          exact .inr ⟨rfl, other, List.mem_cons_of_mem _ member, unreadable⟩
      · rw [failed]
        exact .inr ⟨rfl, row, List.mem_cons_self, unreadable⟩

/-- A GET is to answer as of its last moment, the inbox as of its two. -/
def Sees (route : V1) (past : List (World σ)) (w : World σ) (_ : Db) (result : Except PyErr Response) : Prop :=
  ∃ w₁, (w₁ = w ∨ ∃ front, past = front ++ [w₁]) ∧ Seen w₁.db w.db route result

theorem Sees.now {route : V1} {past : List (World σ)} {w : World σ} {pending : Db} {result : Except PyErr Response}
    (seen : Seen w.db w.db route result) : Sees route past w pending result :=
  ⟨w, .inl rfl, seen⟩

theorem sees_detail (sid : String) : (ofService (Routes.getSubmission sid)).Watches (Api.backend P) Later
    (Sees (.getSubmission sid)) past w pending := by
  rw [Routes.getSubmission, ofService_bind]
  refine watches_existing (fun w₁ _ row stored owner => ?_) (fun w₁ _ unknown => ?_) fun w₁ _ => .now (.lost (.inl rfl))
  · rw [ofService_bind]
    refine watches_query rfl (fun w₂ later pick reply found => ?_) fun w₂ _ => .now (.lost (.inl rfl))
    subst owner
    have stored := later.submission stored
    have found : Latest.limitOne Decision.latestKey (w₂.db.decisionsOf row.id) pick = reply := Option.some.inj found
    cases reply with
    | none => exact .now (.unassessed stored (Latest.limitOne_eq_none.mp found))
    | some decision => exact .now (.detail stored (Latest.limitOne_top found))
  · exact .now (.missing (by simp) unknown)

theorem sees_quote (sid : String) : (ofService (Routes.getQuote sid)).Watches (Api.backend P) Later
    (Sees (.getQuote sid)) past w pending := by
  rw [Routes.getQuote, ofService_bind]
  refine watches_existing (fun w₁ _ row stored owner => ?_) (fun w₁ _ unknown => ?_) fun w₁ _ => .now (.lost (.inl rfl))
  · rw [ofService_bind]
    refine watches_query rfl (fun w₂ later pick reply found => ?_) fun w₂ _ => .now (.lost (.inl rfl))
    subst owner
    have stored := later.submission stored
    have found : Latest.limitOne Quote.latestKey (w₂.db.quotesOf row.id) pick = reply := Option.some.inj found
    cases reply with
    | none => exact .now (.unquoted stored (Latest.limitOne_eq_none.mp found))
    | some quote => exact .now (.quote stored (Latest.limitOne_top found))
  · exact .now (.missing (by simp) unknown)

theorem sees_binding (sid : String) : (ofService (Routes.getBinding sid)).Watches (Api.backend P) Later
    (Sees (.getBinding sid)) past w pending := by
  rw [Routes.getBinding, ofService_bind]
  refine watches_existing (fun w₁ _ row stored owner => ?_) (fun w₁ _ unknown => ?_) fun w₁ _ => .now (.lost (.inl rfl))
  · rw [ofService_bind]
    refine watches_query rfl (fun w₂ later pick reply found => ?_) fun w₂ _ => .now (.lost (.inl rfl))
    subst owner
    have stored := later.submission stored
    have found : w₂.db.bindings.find? (·.submissionId = row.id) = reply := Option.some.inj found
    cases reply with
    | none =>
        refine .now (.unbound stored ?_)
        rintro ⟨b, member, owner⟩
        exact absurd owner (by simpa using List.find?_eq_none.mp found b member)
    | some binding =>
        exact .now (.binding stored (List.mem_of_find?_eq_some found) (by simpa using List.find?_some found))
  · exact .now (.missing (by simp) unknown)

theorem sees_rateTables : (ofReads Routes.listRateTables).Watches (Api.backend P) Later
    (Sees .listRateTables) past w pending := by
  rw [Routes.listRateTables, ofReads_bind]
  refine watches_select (fun w₁ _ pick => ?_) fun w₁ _ => .now (.lost (.inl rfl))
  have newest := Latest.orderBy_sorted (fun t : RateTable => OrderDual.toDual t.version) w₁.db.rateTables pick
  exact .now (.rateTables (Latest.orderBy_perm ..) newest)

theorem sees_audit (sid : String) : (Routes.getSubmissionAudit sid).Watches (Api.backend P) Later
    (Sees (.getSubmissionAudit sid)) past w pending := by
  refine watches_existing (fun w₁ _ row stored owner => ?_) (fun w₁ _ unknown => ?_) fun w₁ _ => .now (.lost (.inl rfl))
  · refine watches_select (fun w₂ later pick => ?_) fun w₂ _ => .now (.lost (.inl rfl))
    subst owner
    exact .now (.audit (later.submission stored) (Latest.orderBy_perm ..) (Latest.orderBy_sorted ..))
  · exact .now (.missing (by simp) unknown)

/-- The rows come from the first query, the badges from the second; an empty page
    needs no badges. -/
theorem sees_inbox (query : ListQuery) : (ofReads (Routes.listSubmissions query)).Watches (Api.backend P) Later
    (Sees (.listSubmissions query)) past w pending := by
  rw [Routes.listSubmissions, ofReads_bind, SubmissionService.listSubmissions, ofReads_bind, Prog.bind_assoc]
  refine watches_select (fun w₁ _ pick => ?_) fun w₁ _ => .now (.lost (.inl rfl))
  generalize page : w₁.db.read pick (.inbox query.outcome query.limit query.offset) = rows
  have page : ((w₁.db.inboxOrdered query.outcome pick).drop query.offset).take query.limit = rows := page
  cases rows with
  | nil => exact .now (.inbox ⟨pick, [], page.symm, .inl ⟨[], rfl, .nil⟩⟩)
  | cons first rest =>
      change Prog.Watches (Api.backend P) _ _ (ofReads (Session.boundAmong _ >>= _) >>= _) _ _ _
      rw [ofReads_bind, Prog.bind_assoc]
      refine watches_select (fun w₂ later pick' => ?_) fun w₂ _ => .now (.lost (.inl rfl))
      have outcome : ∀ result : Except PyErr (List SubmissionListItem),
          ((ofReads (Prog.ofExcept result) >>= fun items => ofReads (pure (Response.inbox items))) : ApiProgram Response) =
            Prog.ofExcept (result.map Response.inbox) := by
        intro result
        cases result <;> rfl
      rw [outcome]
      apply Prog.watches_ofExcept
      refine ⟨w₁, .inr ⟨_, rfl⟩, .inbox ⟨pick, _, page.symm, ?_⟩⟩
      have badges : ∀ row ∈ first :: rest, _ ↔ w₂.db.Bound row.1.id := fun row member =>
        mem_boundAmong (List.mem_map_of_mem (f := fun row : Submission × Option Decision => row.1.id) member)
      rcases items_list badges with ⟨items, built, each⟩ | ⟨failed, unreadable⟩
      · exact .inl ⟨items, congrArg (Except.map Response.inbox) built, each⟩
      · exact .inr ⟨congrArg (Except.map Response.inbox) failed, unreadable⟩

end Handlers

/-! ## Requests in a run -/

/-- What a request that writes nothing ends with: what it sees, or why it is refused. -/
def Ends (jwksUrl : String) (request : ApiRequest) (past : List (World σ)) (w : World σ) (pending : Db)
    (result : Except PyErr Response) : Prop :=
  Api.part jwksUrl request = none → Sees request.route past w pending result ∨
    ∃ err, Api.resolve jwksUrl request = .error err ∧ result = .error err

theorem handler_sees {actor : Except PyErr String} {endpoint : V1} {handler : ApiProgram Response}
    (called : endpoint.handler actor = .ok handler) (reads : ∀ name, endpoint.request? name = none)
    {past : List (World σ)} {w : World σ} {pending : Db} :
    handler.Watches (Api.backend P) Later (Sees endpoint) past w pending := by
  cases endpoint with
  | createSubmission | assessSubmission | quoteSubmission | bindSubmission => cases reads ""
  | listSubmissions query => cases called; exact sees_inbox query
  | getSubmission sid => cases called; exact sees_detail sid
  | getQuote sid => cases called; exact sees_quote sid
  | getBinding sid => cases called; exact sees_binding sid
  | listRateTables => cases called; exact sees_rateTables
  | getSubmissionAudit sid => cases called; exact sees_audit sid

theorem respond_ends (request : ApiRequest) (past : List (World σ)) (w : World σ) (pending : Db) :
    (Api.respond jwksUrl request).Watches (Api.backend P) Later (Ends jwksUrl request) past w pending := by
  cases resolved : Api.resolve jwksUrl request with
  | error err =>
      simp only [Api.respond, resolved]
      exact fun _ => .inr ⟨err, resolved, rfl⟩
  | ok handler =>
      simp only [Api.respond, resolved]
      obtain ⟨_, passed, called⟩ := bind_ok resolved
      rcases Api.handler_cases called with ⟨name, req, named, writes, -⟩ | ⟨reads, -⟩
      · apply Prog.watches_of_forall
        intro past w pending result free
        simp only [Api.part, passed, named, writes, reduceCtorEq] at free
      · exact (handler_sees called reads).imp fun _ _ _ _ seen _ => .inl seen

theorem part_of_reads {request : ApiRequest} (reads : request.route.requiredScope = "underwriting:read") :
    Api.part jwksUrl request = none := by
  have free : ∀ name, request.route.request? name = none := by
    intro name
    have other : ¬("underwriting:write" = "underwriting:read") := by decide
    cases endpoint : request.route <;> rw [endpoint] at reads <;> first | rfl | exact absurd reads other
  simp only [Api.part]
  split
  · exact free _
  · rfl

variable (P jwksUrl) in
/-- The result was there to be seen between two states, unless the request was refused. -/
def SeenBetween (s₀ s : ApiSys σ) (request : ApiRequest) (result : Except PyErr Response) : Prop :=
  (∃ err, Api.resolve jwksUrl request = .error err ∧ result = .error err) ∨
    ∃ s₁ s₂, Run (Api.backend P) (Api.requests jwksUrl) anyStep s₀ s₁ ∧
      Run (Api.backend P) (Api.requests jwksUrl) anyStep s₁ s₂ ∧
      Run (Api.backend P) (Api.requests jwksUrl) anyStep s₂ s ∧ Seen s₁.world.db s₂.world.db request.route result

theorem seen_run {s₀ s : ApiSys σ} (run : Run (Api.backend P) (Api.requests jwksUrl) anyStep s₀ s) {i : ℕ}
    {t : ApiThread} (at_i : s.threads[i]? = some t) (arrived : s₀.threads.length ≤ i)
    (free : Api.part jwksUrl t.req = none) {result : Except PyErr Response} (ended : t.ctl.outcome? = some result) :
    SeenBetween P jwksUrl s₀ s t.req result := by
  have watching : t.Watching Later (Ends jwksUrl) (Api.respond jwksUrl) .died (Api.backend P) s₀ s :=
    watches_run (fun _ => .refl _) .trans step_later (fun req w => respond_ends req [] w .empty) run i t at_i arrived
  rcases watched watching ended with rfl | ⟨past, s₁, visits, since, ends⟩
  · exact .inr ⟨s, s, run, .refl, .refl, .lost (.inr rfl)⟩
  · rcases ends free with ⟨w₁, placed, seen⟩ | refused
    · refine .inr ?_
      rcases placed with rfl | ⟨front, rfl⟩
      · exact ⟨s₁, s₁, visits.run, .refl, since, seen⟩
      · obtain ⟨s', rfl, before, after⟩ := visits.before
        exact ⟨s', s₁, before, after, since, seen⟩
    · exact .inl refused

/-- A GET is answered as of one moment since its arrival, the inbox as of two, or it
    is refused at its scope. -/
theorem reads_linearize {s₀ s : ApiSys σ} (run : Run (Api.backend P) (Api.requests jwksUrl) anyStep s₀ s) {i : ℕ}
    {t : ApiThread} (at_i : s.threads[i]? = some t) (arrived : s₀.threads.length ≤ i)
    (reads : t.req.route.requiredScope = "underwriting:read") {result : Except PyErr Response}
    (ended : t.ctl.outcome? = some result) : SeenBetween P jwksUrl s₀ s t.req result :=
  seen_run run at_i arrived (part_of_reads reads) ended

/-! ## Later reads -/

/-- What an answer shows is stored: a row, or of an item of the inbox its submission, a decision
    with its outcome, and a Binding if it has the badge. -/
def Shows : Response → Db → Prop
  | .written (.submission row), db => row ∈ db.submissions
  | .written (.decision row), db => row ∈ db.decisions
  | .written (.quote row), db | .quote row, db => row ∈ db.quotes
  | .written (.binding row), db | .binding row, db => row ∈ db.bindings
  | .inbox items, db => ∀ item ∈ items, (∃ file ∈ db.submissions, item.toSubmissionRead.Copies file) ∧
      (∀ o, item.latestOutcome = some o → ∃ d ∈ db.decisionsOf item.id, d.outcome = o.value) ∧
        (item.bound = true → db.Bound item.id)
  | .detail file decision, db => file ∈ db.submissions ∧ ∀ d, decision = some d → d ∈ db.decisionsOf file.id
  | .rateTables rows, db => rows ⊆ db.rateTables
  | .audit entries, db => entries ⊆ db.audits

theorem Shows.grows {response : Response} {db db' : Db} (shows : Shows response db) (grown : db.Grows db') :
    Shows response db' := by
  cases response with
  | written answer =>
      cases answer with
      | submission row => exact grown.submission shows
      | decision row => exact grown.decision shows
      | quote row => exact grown.quote shows
      | binding row => exact grown.binding shows
  | quote row => exact grown.quote shows
  | binding row => exact grown.binding shows
  | inbox items =>
      intro item member
      obtain ⟨⟨file, stored, copies⟩, decided, bound⟩ := shows item member
      refine ⟨⟨file, grown.submission stored, copies⟩, fun o known => ?_, fun badge => (bound badge).grows grown⟩
      obtain ⟨d, owned, same⟩ := decided o known
      exact ⟨d, Phase.decisionsOf_grows owned grown, same⟩
  | detail file decision =>
      exact ⟨grown.submission shows.1, fun d found => Phase.decisionsOf_grows (shows.2 d found) grown⟩
  | rateTables rows => exact fun row member => grown.rateTable (shows member)
  | audit entries => exact fun row member => grown.audit (shows member)

/-- The result is no 404, and an answer if there is one tells this. -/
def Tells (result : Except PyErr Response) (told : Response → Prop) : Prop :=
  (∀ detail, result ≠ .error (.http 404 detail)) ∧ ∀ response, result = .ok response → told response

/-- The result of a GET takes back nothing of what was stored; the inbox shows an outcome of the
    rows stored now. -/
structure Follows (told now : Db) (route : V1) (result : Except PyErr Response) : Prop where
  submission : ∀ row ∈ told.submissions, route ∈ [V1.getSubmission row.id, .getQuote row.id, .getBinding row.id,
    .getSubmissionAudit row.id] → result ≠ .error (.http 404 "submission not found")
  decision : ∀ row ∈ told.decisions, route = .getSubmission row.submissionId → Tells result fun response =>
    ∃ file decision, response = .detail file (some decision) ∧ row.latestKey ≤ decision.latestKey
  quote : ∀ row ∈ told.quotes, route = .getQuote row.submissionId → Tells result fun response =>
    ∃ quote, response = .quote quote ∧ row.latestKey ≤ quote.latestKey
  binding : ∀ row ∈ told.bindings, route = .getBinding row.submissionId → Tells result (· = .binding row)
  audit : ∀ row ∈ told.audits, route = .getSubmissionAudit row.submissionId →
    ∀ entries, result = .ok (.audit entries) → row ∈ entries
  rateTable : ∀ row ∈ told.rateTables, route = .listRateTables → ∀ rows, result = .ok (.rateTables rows) → row ∈ rows
  badge : ∀ row ∈ told.bindings, ∀ items, result = .ok (.inbox items) → ∀ item ∈ items, item.id = row.submissionId →
    item.bound = true
  outcome : ∀ row ∈ told.decisions, ∀ items, result = .ok (.inbox items) → ∀ item ∈ items,
    item.id = row.submissionId → ∃ d ∈ now.decisionsOf item.id, row.latestKey ≤ d.latestKey ∧
      item.latestOutcome.map Outcome.value = some d.outcome

/-- Every row has its submission. -/
structure Filed (db : Db) : Prop where
  decisions : ∀ row ∈ db.decisions, ∃ file ∈ db.submissions, file.id = row.submissionId
  quotes : ∀ row ∈ db.quotes, ∃ file ∈ db.submissions, file.id = row.submissionId
  bindings : ∀ row ∈ db.bindings, ∃ file ∈ db.submissions, file.id = row.submissionId

theorem Filed.of_sourced {db : Db} (sourced : db.Sourced) : Filed db := by
  constructor
  · intro row member
    obtain ⟨file, read, written⟩ := sourced.decisions row member
    exact ⟨file.submission, read.has.1, read.has.2.trans (read.owner written).symm⟩
  · intro row member
    obtain ⟨file, read, written⟩ := sourced.quotes row member
    exact ⟨file.submission, read.has.1, read.has.2.trans (read.owner written).symm⟩
  · intro row member
    obtain ⟨file, policy, published, read, written⟩ := sourced.bindings row member
    exact ⟨file.submission, read.has.1, read.has.2.trans (read.owner written).symm⟩

section Seen

variable {told before after : Db} {route : V1} {result : Except PyErr Response}

/-- One of the four GETs of a submission asks for one submission only. -/
theorem asked_inj {sid sid' : String} (asked : route ∈ [V1.getSubmission sid, .getQuote sid, .getBinding sid,
    .getSubmissionAudit sid]) (asked' : route ∈ [V1.getSubmission sid', .getQuote sid', .getBinding sid',
    .getSubmissionAudit sid']) : sid = sid' := by
  simp only [List.mem_cons, List.not_mem_nil, or_false] at asked asked'
  rcases asked with rfl | rfl | rfl | rfl <;> simpa using asked'

/-- A submission that is stored is not missing. -/
theorem Seen.known (seen : Seen before after route result) {row : Submission} (stored : row ∈ after.submissions)
    (asked : route ∈ [V1.getSubmission row.id, .getQuote row.id, .getBinding row.id, .getSubmissionAudit row.id]) :
    result ≠ .error (.http 404 "submission not found") := by
  intro failed
  cases seen with
  | missing asked' unknown => exact unknown row stored (asked_inj asked asked')
  | lost lost => rcases lost with rfl | rfl <;> cases failed
  | inbox => simp at asked
  | unquoted | unbound => simp at failed
  | detail | unassessed | quote | binding | rateTables | audit => cases failed

/-- Once a submission has a decision, its file shows one, and none that is older. -/
theorem Seen.decision {sid : String} (seen : Seen before after (.getSubmission sid) result) {row : Decision}
    (owned : row ∈ after.decisionsOf sid) (stored : ∃ file ∈ after.submissions, file.id = sid) :
    Tells result fun response => ∃ file decision, response = .detail file (some decision) ∧
      row.latestKey ≤ decision.latestKey := by
  obtain ⟨file, stored, rfl⟩ := stored
  have known := seen.known stored (by simp)
  generalize asked : V1.getSubmission file.id = route at seen
  constructor
  · intro detail failed
    cases seen with
    | missing => exact known rfl
    | lost lost => rcases lost with rfl | rfl <;> cases failed
    | detail | unassessed => cases failed
    | _ => cases asked
  · intro response answered
    cases seen with
    | @detail other decision _ latest =>
        cases answered
        obtain same := V1.getSubmission.inj asked
        exact ⟨other, decision, rfl, latest.2 row (same ▸ owned)⟩
    | unassessed _ empty =>
        rw [← V1.getSubmission.inj asked] at empty
        exact absurd owned (empty ▸ List.not_mem_nil)
    | missing | lost => cases answered
    | _ => cases asked

theorem Seen.quoted {sid : String} (seen : Seen before after (.getQuote sid) result) {row : Quote}
    (owned : row ∈ after.quotesOf sid) (stored : ∃ file ∈ after.submissions, file.id = sid) :
    Tells result fun response => ∃ quote, response = .quote quote ∧ row.latestKey ≤ quote.latestKey := by
  obtain ⟨file, stored, rfl⟩ := stored
  have known := seen.known stored (by simp)
  generalize asked : V1.getQuote file.id = route at seen
  constructor
  · intro detail failed
    cases seen with
    | missing => exact known rfl
    | lost lost => rcases lost with rfl | rfl <;> cases failed
    | unquoted _ empty =>
        rw [← V1.getQuote.inj asked] at empty
        exact absurd owned (empty ▸ List.not_mem_nil)
    | quote => cases failed
    | _ => cases asked
  · intro response answered
    cases seen with
    | @quote other quote _ latest =>
        cases answered
        obtain same := V1.getQuote.inj asked
        exact ⟨quote, rfl, latest.2 row (same ▸ owned)⟩
    | missing | lost | unquoted => cases answered
    | _ => cases asked

theorem Seen.bound {sid : String} (seen : Seen before after (.getBinding sid) result) (keyed : after.Keyed) {row : Binding}
    (member : row ∈ after.bindings) (owner : row.submissionId = sid)
    (stored : ∃ file ∈ after.submissions, file.id = sid) : Tells result (· = .binding row) := by
  obtain ⟨file, stored, rfl⟩ := stored
  have known := seen.known stored (by simp)
  generalize asked : V1.getBinding file.id = route at seen
  constructor
  · intro detail failed
    cases seen with
    | missing => exact known rfl
    | lost lost => rcases lost with rfl | rfl <;> cases failed
    | unbound _ free => exact free ⟨row, member, owner.trans (V1.getBinding.inj asked)⟩
    | binding => cases failed
    | _ => cases asked
  · intro response answered
    cases seen with
    | @binding other binding _ bound owner' =>
        cases answered
        have same := owner.trans ((V1.getBinding.inj asked).trans owner'.symm)
        rw [List.inj_on_of_nodup_map keyed.boundOnce member bound same]
    | missing | lost | unbound => cases answered
    | _ => cases asked

/-- An item of a page has its row in the query. -/
theorem Page.row {query : ListQuery} {items : List SubmissionListItem}
    (page : Page before after query (.ok (.inbox items))) {item : SubmissionListItem} (member : item ∈ items) :
    ∃ row ∈ before.inboxRows, Lists after row item := by
  obtain ⟨pick, rows, cut, ⟨built, same, each⟩ | ⟨failed, -⟩⟩ := page
  · cases same
    obtain ⟨i, at_i⟩ := List.getElem?_of_mem member
    obtain ⟨row, at_row, lists⟩ := forall₂_at each at_i
    have ordered := List.mem_of_mem_drop (List.mem_of_mem_take (cut ▸ List.mem_of_getElem? at_row))
    exact ⟨row, (List.mem_filter.mp ((Latest.orderBy_perm ..).mem_iff.mp ordered)).1, lists⟩
  · cases failed

/-- The badges are those of the later moment. -/
theorem Page.badge {query : ListQuery} {items : List SubmissionListItem}
    (page : Page before after query (.ok (.inbox items))) {item : SubmissionListItem} (member : item ∈ items)
    (bound : after.Bound item.id) : item.bound = true := by
  obtain ⟨row, -, lists⟩ := page.row member
  exact lists.bound.mpr (lists.submission.id ▸ bound)

/-- The outcome of an item is that of a latest decision of the first moment. -/
theorem Page.outcome {query : ListQuery} {items : List SubmissionListItem}
    (page : Page before after query (.ok (.inbox items))) {item : SubmissionListItem} (member : item ∈ items)
    {row : Decision} (owned : row ∈ before.decisionsOf item.id) : ∃ d ∈ before.decisionsOf item.id,
      row.latestKey ≤ d.latestKey ∧ item.latestOutcome.map Outcome.value = some d.outcome := by
  obtain ⟨found, listed, lists⟩ := page.row member
  obtain ⟨-, top, none⟩ := Inbox.mem_inboxRows listed
  rw [lists.submission.id] at owned ⊢
  cases decision : found.2 with
  | none => exact absurd owned (none decision ▸ List.not_mem_nil)
  | some d =>
      obtain ⟨stored, above⟩ := Latest.mem_tops.mp (top d decision)
      exact ⟨d, stored, above row owned, by rw [lists.outcome, decision, Option.map_some]⟩

theorem Seen.follows {now : Db} (seen : Seen before after route result) (early : told.Grows before)
    (grown : before.Grows after) (later : after.Grows now) (keyed : after.Keyed) (filed : Filed after) :
    Follows told now route result := by
  have within := early.trans grown
  constructor
  · exact fun row member => seen.known (within.submission member)
  · rintro row member rfl
    have stored := within.decision member
    exact seen.decision (Db.mem_decisionsOf.mpr ⟨stored, rfl⟩) (filed.decisions row stored)
  · rintro row member rfl
    have stored := within.quote member
    exact seen.quoted (Db.mem_quotesOf.mpr ⟨stored, rfl⟩) (filed.quotes row stored)
  · rintro row member rfl
    have stored := within.binding member
    exact seen.bound keyed stored rfl (filed.bindings row stored)
  · rintro row member asked entries rfl
    cases seen with
    | inbox page => cases asked
    | @audit file _ _ all _ =>
        refine all.mem_iff.mpr (List.mem_filter.mpr ⟨within.audit member, decide_eq_true ?_⟩)
        exact (V1.getSubmissionAudit.inj asked).symm
  · rintro row member rfl rows rfl
    cases seen with
    | rateTables all _ => exact all.mem_iff.mpr (within.rateTable member)
  · rintro row member items rfl item listed owner
    cases seen with
    | inbox page => exact page.badge listed ⟨row, within.binding member, owner.symm⟩
  · rintro row member items rfl item listed owner
    cases seen with
    | inbox page =>
        obtain ⟨d, owned, newer, same⟩ := page.outcome listed
          (Db.mem_decisionsOf.mpr ⟨early.decision member, owner.symm⟩)
        exact ⟨d, Phase.decisionsOf_grows owned (grown.trans later), newer, same⟩

end Seen

/-- Only what is stored is shown. -/
theorem Seen.shows {before after : Db} {route : V1} {response : Response}
    (seen : Seen before after route (.ok response)) (grown : before.Grows after) : Shows response after := by
  cases seen with
  | @inbox query _ page =>
      have items : ∃ items, response = .inbox items := by
        obtain ⟨-, -, -, ⟨items, same, -⟩ | ⟨failed, -⟩⟩ := page
        · exact ⟨items, Except.ok.inj same⟩
        · cases failed
      obtain ⟨items, rfl⟩ := items
      intro item member
      obtain ⟨row, listed, lists⟩ := page.row member
      obtain ⟨stored, top, -⟩ := Inbox.mem_inboxRows listed
      refine ⟨⟨row.1, grown.submission stored, lists.submission⟩, fun o known => ?_, fun badge => ?_⟩
      · have named := lists.outcome
        rw [known] at named
        obtain ⟨d, found, same⟩ := Option.map_eq_some_iff.mp named.symm
        have owned := (Latest.mem_tops.mp (top d found)).1
        exact ⟨d, lists.submission.id ▸ Phase.decisionsOf_grows owned grown, same⟩
      · exact lists.submission.id ▸ lists.bound.mp badge
  | detail stored latest =>
      refine ⟨stored, fun d found => ?_⟩
      cases found
      exact latest.1
  | unassessed stored => exact ⟨stored, fun _ found => nomatch found⟩
  | quote stored latest => exact (Db.mem_quotesOf.mp latest.1).1
  | binding stored bound => exact bound
  | rateTables all => exact all.subset
  | audit stored all => exact List.Subset.trans all.subset (List.filter_sublist (l := after.audits)).subset

/-! ## The store of the API -/

section Store

variable {pas : σ} {s : ApiSys σ}

theorem store_run (run : Run (Api.backend P) (Api.requests jwksUrl) anyStep ⟨.initial pas, []⟩ s) :
    s.world.db.Keyed ∧ Filed s.world.db := by
  apply Api.invariant (I := fun w => w.db.Keyed ∧ Filed w.db) ?_ run
  intro r reached
  obtain ⟨r, lifted, rfl⟩ := lift_idle reached
  exact ⟨keyed_initial lifted, .of_sourced (sourced_run lifted)⟩

/-- What a request is answered with is in the store. -/
theorem shown_stored (run : Run (Api.backend P) (Api.requests jwksUrl) anyStep ⟨.initial pas, []⟩ s) {t : ApiThread}
    (member : t ∈ s.threads) {response : Response} (answered : t.ctl = .ret response) :
    Shows response s.world.db := by
  cases part : Api.part jwksUrl t.req with
  | none =>
      obtain ⟨i, at_i⟩ := List.getElem?_of_mem member
      have ended : t.ctl.outcome? = some (.ok response) := by rw [answered]; rfl
      rcases seen_run run at_i (Nat.zero_le i) part ended with ⟨err, -, failed⟩ | ⟨s₁, s₂, -, middle, after, seen⟩
      · cases failed
      · exact (seen.shows (run_later middle)).grows (run_later after)
  | some req =>
      obtain ⟨r, reached, within⟩ := Api.writes_run run
      obtain ⟨u, at_u, runs⟩ := within.threads.runs_of_part member part
      have outcome := runs.outcome
      rw [answered] at outcome
      cases control : u.ctl with
      | ret answer =>
          rw [control] at outcome
          obtain rfl := Except.ok.inj (Option.some.inj outcome)
          have stored := Ledger.answered_stored reached at_u control
          rw [within.world] at stored
          cases answer with
          | submission row => exact Ledger.submission_rows.mp stored
          | decision row => exact Ledger.decision_rows.mp stored
          | quote row => exact Ledger.quote_rows.mp stored
          | binding row => exact Ledger.binding_rows.mp stored
      | raise err =>
          rw [control] at outcome
          cases outcome
      | call c rest =>
          rw [control] at outcome
          cases outcome

end Store

/-- Whatever an answer has shown is stored, and no GET that arrives after it takes back what is:
    neither a submission, nor a decision, a quote or a Binding for an older one or none, nor an
    audit entry, a rate table, or in the inbox an outcome or the badge of a bound file. -/
theorem reads_follow {pas : σ} {s₁ s₂ : ApiSys σ}
    (before : Run (Api.backend P) (Api.requests jwksUrl) anyStep ⟨.initial pas, []⟩ s₁) {t : ApiThread}
    (member : t ∈ s₁.threads) {response : Response} (answered : t.ctl = .ret response)
    (later : Run (Api.backend P) (Api.requests jwksUrl) anyStep s₁ s₂) {i : ℕ} {u : ApiThread}
    (at_i : s₂.threads[i]? = some u) (arrived : s₁.threads.length ≤ i)
    (reads : u.req.route.requiredScope = "underwriting:read") {result : Except PyErr Response}
    (ended : u.ctl.outcome? = some result) (admitted : ∃ handler, Api.resolve jwksUrl u.req = .ok handler) :
    Shows response s₁.world.db ∧ Follows s₁.world.db s₂.world.db u.req.route result := by
  refine ⟨shown_stored before member answered, ?_⟩
  rcases seen_run later at_i arrived (part_of_reads reads) ended with
    ⟨err, refused, -⟩ | ⟨s, s', first, second, third, seen⟩
  · obtain ⟨handler, resolved⟩ := admitted
    cases refused.symm.trans resolved
  · have reached := first.trans second
    obtain ⟨keyed, filed⟩ := store_run (before.trans reached)
    exact seen.follows (run_later first) (run_later second) (run_later third) keyed filed

/-! ## A desk with a reader -/

/-- The request was answered with a response that fits. -/
def answeredBy (fits : Response → Bool) (t : ApiThread) : Bool :=
  match t.ctl with
  | .ret response => fits response
  | _ => false

theorem answer_of {fits : Response → Bool} {t : ApiThread} (answered : answeredBy fits t = true) :
    ∃ response, t.ctl = .ret response ∧ fits response = true := by
  rw [answeredBy] at answered
  split at answered
  · rename_i response control
    exact ⟨response, control, answered⟩
  · cases answered

/-- `ann` opens the file that `bob` has created. -/
def looked : List (Choice ApiRequest (Fate Lifecycle.Reaction) (Env Lifecycle.UserAct)) :=
  [.start (asked "ann" (.getSubmission "s")), .run 2 Scenario.read, .run 2 Scenario.read]

def isCreated : Response → Bool
  | .written (.submission row) => row.id == "s"
  | _ => false

def isDetail : Response → Bool
  | .detail row _ => row.id == "s"
  | _ => false

/-- A GET of the file that was let through. -/
def opensFile (t : ApiThread) : Bool :=
  answeredBy isDetail t && t.req.route.requiredScope == "underwriting:read" && (Api.resolve "jwks" t.req).toBool

theorem desk_looked : ∃ s₁ s₂ : ApiSys (List Lifecycle.Policy),
    Run apiService (Api.requests "jwks") anyStep ⟨.initial [], []⟩ s₁ ∧
      Run apiService (Api.requests "jwks") anyStep s₁ s₂ ∧ s₁.threads.length = 2 ∧
      (∃ t ∈ s₁.threads, answeredBy isCreated t = true) ∧ ∃ u, s₂.threads[2]? = some u ∧ opensFile u = true := by
  obtain ⟨s₁, s₂, before, later, checked⟩ := exists_run_then apiService (Api.requests "jwks") anyStep anyStep
    ⟨.initial [], []⟩ opened looked (fun s₁ s₂ => s₁.threads.length == 2 && s₁.threads.any (answeredBy isCreated) &&
      s₂.threads[2]?.any opensFile) (by decide +kernel)
  simp only [Bool.and_eq_true, beq_iff_eq, List.any_eq_true, Option.any_eq_true] at checked
  exact ⟨s₁, s₂, before, later, checked.1.1, checked.1.2, checked.2⟩

/-- The file `ann` is shown was there at some moment after she asked. -/
theorem looked_linearizes : ∃ (s₁ s₂ : ApiSys (List Lifecycle.Policy)) (u : ApiThread) (response : Response),
    s₂.threads[2]? = some u ∧ u.ctl = .ret response ∧ isDetail response = true ∧
      SeenBetween (Lifecycle.model Lifecycle.byNumber) "jwks" s₁ s₂ u.req (.ok response) := by
  obtain ⟨s₁, s₂, -, later, two, -, u, at_u, opens⟩ := desk_looked
  simp only [opensFile, Bool.and_eq_true, beq_iff_eq] at opens
  obtain ⟨⟨answered, reads⟩, -⟩ := opens
  obtain ⟨response, control, detail⟩ := answer_of answered
  have ended : u.ctl.outcome? = some (.ok response) := by rw [control]; rfl
  exact ⟨s₁, s₂, u, response, at_u, control, detail, reads_linearize later at_u (by rw [two]) reads ended⟩

/-- It is the file that `bob` was answered with. -/
theorem looked_follows : ∃ (s₁ s₂ : ApiSys (List Lifecycle.Policy)) (t u : ApiThread) (created shownFile : Response),
    t ∈ s₁.threads ∧ t.ctl = .ret created ∧ isCreated created = true ∧ u ∈ s₂.threads ∧ u.ctl = .ret shownFile ∧
      isDetail shownFile = true ∧ Shows created s₁.world.db ∧
        Follows s₁.world.db s₂.world.db u.req.route (.ok shownFile) := by
  obtain ⟨s₁, s₂, before, later, two, ⟨t, member, created⟩, u, at_u, opens⟩ := desk_looked
  simp only [opensFile, Bool.and_eq_true, beq_iff_eq] at opens
  obtain ⟨⟨answered, reads⟩, admitted⟩ := opens
  obtain ⟨first, told, isFirst⟩ := answer_of created
  obtain ⟨response, control, detail⟩ := answer_of answered
  have ended : u.ctl.outcome? = some (.ok response) := by rw [control]; rfl
  have admitted : ∃ handler, Api.resolve "jwks" u.req = .ok handler := by
    cases resolved : Api.resolve "jwks" u.req with
    | ok handler => exact ⟨handler, rfl⟩
    | error err =>
        rw [resolved] at admitted
        cases admitted
  exact ⟨s₁, s₂, t, u, first, response, member, told, isFirst, List.mem_of_getElem? at_u, control, detail,
    reads_follow before member told later at_u (by rw [two]) reads ended admitted⟩

end Underwriting.Reads
