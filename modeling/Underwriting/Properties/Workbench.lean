import Underwriting.Properties.Refused
import Underwriting.Properties.Scopes
import Underwriting.Workbench.SubmissionPage

/-! # The buttons of the page and the answers of the API

The page is made of four reads, and other requests commit before one of its buttons
is used. As long as nothing is decided, quoted or bound for the submission meanwhile,
the API does what the page has promised.
-/

namespace Underwriting.Workbench

open Interleaving
open Answered (ClientErrors)
open Current (Accounts Acted Served)
open Reads (Seen SeenBetween run_later)
open Refused (Newest Refusal)

variable {σ φ υ : Type} {P : PasModel σ φ υ} {jwksUrl : String}

/-- A GET that arrived after `s₀` has settled with this. -/
def Settles {α : Type} (s₀ s : ApiSys σ) (route : V1) (wrap : α → Response) (result : Except PyErr α) : Prop :=
  ∃ i t, s₀.threads.length ≤ i ∧ s.threads[i]? = some t ∧ t.req.route = route ∧
    t.ctl.outcome? = some (result.map wrap)

/-- The page of a submission asks for the submission first, then for the rest. -/
structure Loads (P : PasModel σ φ υ) (jwksUrl sid : String) (s₀ s₁ s₂ : ApiSys σ) (fetched : Fetched) : Prop where
  first : Run (Api.backend P) (Api.requests jwksUrl) anyStep s₀ s₁
  submission : Settles s₀ s₁ (.getSubmission sid) (fun data => .detail data.1 data.2) fetched.submission
  second : Run (Api.backend P) (Api.requests jwksUrl) anyStep s₁ s₂
  quote : Settles s₁ s₂ (.getQuote sid) .quote fetched.quote
  binding : Settles s₁ s₂ (.getBinding sid) .binding fetched.binding
  audit : Settles s₁ s₂ (.getSubmissionAudit sid) .audit fetched.audit

/-! ## What has changed -/

/-- A decision has been made. -/
def NewDecision (db db' : Db) (sid : String) : Prop := ∃ d ∈ db'.decisionsOf sid, d ∉ db.decisionsOf sid

/-- The submission has been quoted. -/
def NewQuote (db db' : Db) (sid : String) : Prop := ∃ q ∈ db'.quotesOf sid, q ∉ db.quotesOf sid

/-- The submission has been bound. -/
def NewBinding (db db' : Db) (sid : String) : Prop := db'.Bound sid ∧ ¬db.Bound sid

/-- Two decisions bear one time. -/
def Tied (db : Db) (sid : String) : Prop :=
  ∃ d ∈ db.decisionsOf sid, ∃ d' ∈ db.decisionsOf sid, d.latestKey = d'.latestKey ∧ d ≠ d'

/-- Why an action is carried out that the page has disabled. -/
inductive Excused (page : SubmissionDetailPage) (sid : String) (db db' : Db) (log : Log ApiReply) :
    Kind → Response → Prop where
  /-- The page shows no Binding, and the decision is not the one it shows. -/
  | quoted {response} (unbound : page.binding = none) (changed : NewDecision db db' sid ∨ Tied db' sid) :
      Excused page sid db db' log .quote response
  /-- The Binding that the page shows is returned. -/
  | shown {row} (shown : page.binding = some row) : Excused page sid db db' log .bind (.written (.binding row))
  /-- The page shows none, and the request's own check has found the Binding of another. -/
  | found {row} (unbound : page.binding = none) (check : Served log (.bindingBySubmission sid) (some row))
      (changed : NewBinding db db' sid) : Excused page sid db db' log .bind (.written (.binding row))
  /-- The page shows none, and what it has missed has come up. -/
  | bound {row} (unbound : page.binding = none)
      (decided : (∀ d, page.decision = some d → d.outcome ≠ Outcome.accept.value) → NewDecision db db' sid ∨ Tied db' sid)
      (quoted : page.quote = none → NewQuote db db' sid) :
      Excused page sid db db' log .bind (.written (.binding row))

/-- What the page promises of an action, and the API keeps unless the rows have changed. -/
structure Agrees (page : SubmissionDetailPage) (kind : Kind) (sid : String) (db db' : Db) (log : Log ApiReply)
    (outcome : Except PyErr Response) : Prop where
  /-- An enabled action is not refused for what the page has shown. -/
  enabled : ActionBar.enabled page kind = true → ∀ status detail, outcome = .error (.http status detail) →
    status = 503 ∨ detail = "policy already exists in the policy service but could not be resolved" ∨
      NewBinding db db' sid ∨ NewDecision db db' sid ∨ Tied db' sid
  /-- A disabled one is not carried out; a bind of a bound file finds the Binding. -/
  disabled : ActionBar.enabled page kind = false → ∀ response, outcome = .ok response →
    Excused page sid db db' log kind response

/-- Two latest decisions, of an earlier and a later moment, are one unless something has changed. -/
theorem newest_same {db₀ db db' db₃ : Db} {sid : String} {d d' : Decision} (newest : Newest db sid d)
    (newest' : Newest db' sid d') (before : db₀.Grows db) (between : db.Grows db') (after : db'.Grows db₃) :
    NewDecision db₀ db₃ sid ∨ Tied db₃ sid ∨ d = d' := by
  have stored' := Phase.decisionsOf_grows newest'.1 after
  by_cases old : d' ∈ db₀.decisionsOf sid
  · have below := newest.2 d' (Phase.decisionsOf_grows old before)
    have above := newest'.2 d (Phase.decisionsOf_grows newest.1 between)
    by_cases same : d = d'
    · exact .inr (.inr same)
    · exact .inr (.inl ⟨d, Phase.decisionsOf_grows newest.1 (between.trans after), d', stored', le_antisymm above below, same⟩)
  · exact .inl ⟨d', stored', old⟩

/-! ## What the page has shown -/

section Shown

variable {before after : Db} {sid : String}

theorem seen_detail {row : Submission} {decision : Option Decision}
    (seen : Seen before after (.getSubmission sid) (.ok (.detail row decision))) :
    (row ∈ after.submissions ∧ row.id = sid) ∧ (∀ d, decision = some d → Newest after sid d) ∧
      (decision = none → after.decisionsOf sid = []) := by
  generalize asked : V1.getSubmission sid = route at seen
  cases seen with
  | detail stored latest =>
      obtain rfl := V1.getSubmission.inj asked
      refine ⟨⟨stored, rfl⟩, ?_, by simp⟩
      rintro d ⟨⟩
      exact latest
  | unassessed stored empty =>
      obtain rfl := V1.getSubmission.inj asked
      exact ⟨⟨stored, rfl⟩, by simp, fun _ => empty⟩
  | _ => cases asked

theorem seen_quote {quote : Quote} (seen : Seen before after (.getQuote sid) (.ok (.quote quote))) :
    quote ∈ after.quotesOf sid := by
  generalize asked : V1.getQuote sid = route at seen
  cases seen with
  | quote stored latest =>
      obtain rfl := V1.getQuote.inj asked
      exact latest.1
  | _ => cases asked

theorem seen_binding {binding : Binding} (seen : Seen before after (.getBinding sid) (.ok (.binding binding))) :
    binding ∈ after.bindings ∧ binding.submissionId = sid := by
  generalize asked : V1.getBinding sid = route at seen
  cases seen with
  | binding stored bound owner =>
      obtain rfl := V1.getBinding.inj asked
      exact ⟨bound, owner⟩
  | _ => cases asked

/-- Without the submission there would be no page, so a 404 says that it has no quote. -/
theorem seen_unquoted {detail : String} (seen : Seen before after (.getQuote sid) (.error (.http 404 detail)))
    {row : Submission} (stored : row ∈ after.submissions) (same : row.id = sid) : after.quotesOf sid = [] := by
  generalize asked : V1.getQuote sid = route at seen
  cases seen with
  | unquoted stored empty =>
      obtain rfl := V1.getQuote.inj asked
      exact empty
  | missing among unknown =>
      subst asked
      exact absurd (same.trans (Reads.asked_inj (by simp) among)) (unknown row stored)
  | lost failed => rcases failed with same | same <;> cases same
  | _ => cases asked

/-- In the same way that it is not bound. -/
theorem seen_unbound {detail : String} (seen : Seen before after (.getBinding sid) (.error (.http 404 detail)))
    {row : Submission} (stored : row ∈ after.submissions) (same : row.id = sid) : ¬after.Bound sid := by
  generalize asked : V1.getBinding sid = route at seen
  cases seen with
  | unbound stored free =>
      obtain rfl := V1.getBinding.inj asked
      exact free
  | missing among unknown =>
      subst asked
      exact absurd (same.trans (Reads.asked_inj (by simp) among)) (unknown row stored)
  | lost failed => rcases failed with same | same <;> cases same
  | _ => cases asked

end Shown

/-- A GET that is not let through is not answered with a 404. -/
theorem resolve_status {request : ApiRequest} {detail : String} :
    Api.resolve jwksUrl request ≠ .error (.http 404 detail) := by
  intro refused
  by_cases on : jwksUrl = ""
  · obtain ⟨route, authorization, decode⟩ := request
    subst on
    cases route <;> cases refused
  · by_cases admits : Scopes.Admits jwksUrl request
    · obtain ⟨handler, resolved, -⟩ := Scopes.resolve_admitted on admits
      cases refused.symm.trans resolved
    · obtain ⟨status, other, code, resolved⟩ := Scopes.resolve_refused on admits
      cases refused.symm.trans resolved
      omega

/-- A GET that has settled with an answer or a 404 has seen some rows that were
    committed since it arrived. -/
theorem settles_seen {α : Type} {s₀ s : ApiSys σ} {route : V1} {wrap : α → Response} {result : Except PyErr α}
    (run : Run (Api.backend P) (Api.requests jwksUrl) anyStep s₀ s) (settles : Settles s₀ s route wrap result)
    (reads : route.requiredScope = "underwriting:read")
    (plain : ∀ err, result = .error err → ∃ detail, err = .http 404 detail) :
    ∃ before after : Db, s₀.world.db.Grows after ∧ after.Grows s.world.db ∧ Seen before after route (result.map wrap) := by
  obtain ⟨i, t, arrived, at_i, rfl, ended⟩ := settles
  rcases Reads.seen_run run at_i arrived (Reads.part_of_reads reads) ended with ⟨err, refused, failed⟩ | seen
  · cases result with
    | ok value => cases failed
    | error err' =>
        obtain ⟨detail, rfl⟩ := plain err' rfl
        cases failed
        exact absurd refused resolve_status
  · obtain ⟨s₁, s₂, first, second, last, seen⟩ := seen
    exact ⟨_, _, run_later (first.trans second), run_later last, seen⟩

/-- What the rows were when the page read them, between two states of the store. -/
structure Shows (page : SubmissionDetailPage) (sid : String) (db₀ db₂ : Db) : Prop where
  stored : page.submission ∈ db₂.submissions ∧ page.submission.id = sid
  decision : ∃ db, db₀.Grows db ∧ db.Grows db₂ ∧ (∀ d, page.decision = some d → Newest db sid d) ∧
    (page.decision = none → db.decisionsOf sid = [])
  quote : ∀ q, page.quote = some q → q ∈ db₂.quotesOf sid
  unquoted : page.quote = none → db₀.quotesOf sid = []
  unbound : page.binding = none → ¬db₀.Bound sid
  binding : ∀ b, page.binding = some b → b ∈ db₂.bindings ∧ b.submissionId = sid

theorem shows_of_loads {sid : String} {s₀ s₁ s₂ : ApiSys σ} {fetched : Fetched} {page : SubmissionDetailPage}
    (loads : Loads P jwksUrl sid s₀ s₁ s₂ fetched) (rendered : SubmissionDetailPage.render fetched = .ok (some page)) :
    Shows page sid s₀.world.db s₂.world.db := by
  obtain ⟨answered, quoted, bound⟩ := render_ok rendered
  have first := run_later loads.first
  have second := run_later loads.second
  have submission := loads.submission
  rw [answered] at submission
  obtain ⟨_, db, since, until₁, seen⟩ := settles_seen loads.first submission rfl fun err same => by cases same
  obtain ⟨⟨stored, same⟩, decided, undecided⟩ := seen_detail seen
  have stored := until₁.submission stored
  constructor
  · exact ⟨second.submission stored, same⟩
  · exact ⟨db, since, until₁.trans second, decided, undecided⟩
  · intro q shown
    have quote := loads.quote
    rw [orNull_some (quoted.trans (congrArg _ shown))] at quote
    obtain ⟨_, db, since, until₂, seen⟩ := settles_seen loads.second quote rfl fun err same => by cases same
    exact Phase.quotesOf_grows (seen_quote seen) until₂
  · intro shown
    obtain ⟨detail, missing⟩ := orNull_none (quoted.trans (congrArg _ shown))
    have quote := loads.quote
    rw [missing] at quote
    obtain ⟨_, db, since, until₂, seen⟩ := settles_seen loads.second quote rfl fun err same => by
      cases same
      exact ⟨detail, rfl⟩
    have empty := seen_unquoted seen (since.submission stored) same
    refine List.eq_nil_iff_forall_not_mem.mpr fun q member => ?_
    exact absurd (Phase.quotesOf_grows member (first.trans since)) (empty ▸ List.not_mem_nil)
  · intro shown
    obtain ⟨detail, missing⟩ := orNull_none (bound.trans (congrArg _ shown))
    have binding := loads.binding
    rw [missing] at binding
    obtain ⟨_, db, since, until₂, seen⟩ := settles_seen loads.second binding rfl fun err same => by
      cases same
      exact ⟨detail, rfl⟩
    have free := seen_unbound seen (since.submission stored) same
    exact fun taken => free (taken.grows (first.trans since))
  · intro b shown
    have binding := loads.binding
    rw [orNull_some (bound.trans (congrArg _ shown))] at binding
    obtain ⟨_, db, since, until₂, seen⟩ := settles_seen loads.second binding rfl fun err same => by cases same
    obtain ⟨member, owner⟩ := seen_binding seen
    exact ⟨until₂.binding member, owner⟩

/-! ## Using a button -/

/-- The request that an action comes to, as the actor of its token. -/
def Kind.request (sid actor : String) : Kind → Request
  | .assess => .assess sid actor
  | .quote => .quote sid actor
  | .bind => .bind sid actor

theorem part_post {request : ApiRequest} {kind : Kind} {sid : String} (asks : request.route = kind.post sid)
    {req : Request} (writes : Api.part jwksUrl request = some req) : ∃ actor, req = kind.request sid actor := by
  unfold Api.part at writes
  split at writes
  · rename_i actor _ _
    rw [asks] at writes
    cases kind <;> cases writes <;> exact ⟨actor, rfl⟩
  · cases writes

section Clicked

variable {page : SubmissionDetailPage} {sid actor : String} {kind : Kind} {db₀ db₂ db db₃ : Db}

theorem enabled_unbound (enabled : ActionBar.enabled page kind = true) : page.binding = none := by
  cases kind with
  | assess => exact enabled_assess.mp enabled
  | quote => exact (enabled_quote.mp enabled).1
  | bind => exact (enabled_bind.mp enabled).1

namespace Shows

theorem known (shows : Shows page sid db₀ db₂) (since : db₂.Grows db) : ¬∀ row ∈ db.submissions, row.id ≠ sid :=
  fun unknown => unknown _ (since.submission shows.stored.1) shows.stored.2

theorem assessed (shows : Shows page sid db₀ db₂) (since : db₂.Grows db) {d : Decision} (shown : page.decision = some d) :
    db.decisionsOf sid ≠ [] := by
  obtain ⟨_, -, until₂, decided, -⟩ := shows.decision
  exact List.ne_nil_of_mem (Phase.decisionsOf_grows (decided d shown).1 (until₂.trans since))

/-- A page without a Binding began to load before there was one. -/
theorem frozen (shows : Shows page sid db₀ db₂) (later : db.Grows db₃) (unbound : page.binding = none)
    (bound : db.Bound sid) : NewBinding db₀ db₃ sid :=
  ⟨bound.grows later, shows.unbound unbound⟩

/-- A file that is not bound is shown without a Binding. -/
theorem free (shows : Shows page sid db₀ db₂) (since : db₂.Grows db) (unbound : ¬db.Bound sid) : page.binding = none := by
  cases shown : page.binding with
  | none => rfl
  | some b =>
      obtain ⟨bound, owner⟩ := shows.binding b shown
      exact absurd ⟨b, since.binding bound, owner⟩ unbound

/-- The latest decision is the one that is shown, unless something has changed. -/
theorem latest (shows : Shows page sid db₀ db₂) (since : db₂.Grows db) (later : db.Grows db₃) {decision : Decision}
    (newest : Newest db sid decision) : NewDecision db₀ db₃ sid ∨ Tied db₃ sid ∨ page.decision = some decision := by
  obtain ⟨_, before, until₂, decided, undecided⟩ := shows.decision
  cases shown : page.decision with
  | none =>
      refine .inl ⟨decision, Phase.decisionsOf_grows newest.1 later, fun old => ?_⟩
      exact absurd (undecided shown) (List.ne_nil_of_mem (Phase.decisionsOf_grows old before))
  | some d =>
      rcases newest_same (decided d shown) newest before (until₂.trans since) later with made | tied | rfl
      · exact .inl made
      · exact .inr (.inl tied)
      · exact .inr (.inr rfl)

/-- A page that shows no quote began to load before there was one. -/
theorem quoted (shows : Shows page sid db₀ db₂) (later : db.Grows db₃) {quote : Quote} (stored : quote ∈ db.quotesOf sid)
    (missing : page.quote = none) : NewQuote db₀ db₃ sid :=
  ⟨quote, Phase.quotesOf_grows stored later, fun old => absurd old (shows.unquoted missing ▸ List.not_mem_nil)⟩

/-- A page that shows a Binding shows the one there is. -/
theorem same_binding (shows : Shows page sid db₀ db₂) (since : db₂.Grows db) (later : db.Grows db₃) (keyed : db₃.Keyed)
    {shown row : Binding} (is_shown : page.binding = some shown) (bound : row ∈ db.bindings)
    (owner : row.submissionId = sid) : shown = row := by
  obtain ⟨member, same⟩ := shows.binding shown is_shown
  exact List.inj_on_of_nodup_map keyed.boundOnce (later.binding (since.binding member)) (later.binding bound)
    (same.trans owner.symm)

end Shows

theorem assess_refused (shows : Shows page sid db₀ db₂) (since : db₂.Grows db) (later : db.Grows db₃)
    (unbound : page.binding = none) {status : ℕ} {detail : String} (refusal : Refusal db (.assess sid actor) status detail) :
    status = 503 ∨ NewBinding db₀ db₃ sid := by
  cases refusal with
  | missing asks unknown =>
      cases asks
      exact absurd unknown (shows.known since)
  | assessFrozen bound => exact .inr (shows.frozen later unbound bound)
  | noRuleset => exact .inl rfl

theorem quote_refused (shows : Shows page sid db₀ db₂) (since : db₂.Grows db) (later : db.Grows db₃)
    (unbound : page.binding = none) {d : Decision} (shown : page.decision = some d)
    (undeclined : d.outcome ≠ Outcome.decline.value) {status : ℕ} {detail : String}
    (refusal : Refusal db (.quote sid actor) status detail) :
    status = 503 ∨ NewBinding db₀ db₃ sid ∨ NewDecision db₀ db₃ sid ∨ Tied db₃ sid := by
  cases refusal with
  | missing asks unknown =>
      cases asks
      exact absurd unknown (shows.known since)
  | quoteFrozen bound => exact .inr (.inl (shows.frozen later unbound bound))
  | unassessed empty => exact absurd empty (shows.assessed since shown)
  | declined newest declined =>
      rcases shows.latest since later newest with made | tied | same
      · exact .inr (.inr (.inl made))
      · exact .inr (.inr (.inr tied))
      · cases shown.symm.trans same
        exact absurd declined undeclined
  | noRateTable => exact .inl rfl

theorem bind_refused (shows : Shows page sid db₀ db₂) (since : db₂.Grows db) (later : db.Grows db₃) {d : Decision}
    (shown : page.decision = some d) (accepted : d.outcome = Outcome.accept.value) {q : Quote}
    (quoted : page.quote = some q) {status : ℕ} {detail : String} (refusal : Refusal db (.bind sid actor) status detail) :
    detail = "policy already exists in the policy service but could not be resolved" ∨ NewDecision db₀ db₃ sid ∨
      Tied db₃ sid := by
  cases refusal with
  | missing asks unknown =>
      cases asks
      exact absurd unknown (shows.known since)
  | undecided empty => exact absurd empty (shows.assessed since shown)
  | unaccepted newest unaccepted =>
      rcases shows.latest since later newest with made | tied | same
      · exact .inr (.inl made)
      · exact .inr (.inr tied)
      · cases shown.symm.trans same
        exact absurd accepted unaccepted
  | unquoted empty => exact absurd empty (List.ne_nil_of_mem (Phase.quotesOf_grows (shows.quote q quoted) since))
  | unresolved => exact .inl rfl

/-- A refusal after the page was shown, of an action that the page has enabled. -/
theorem enabled_refused (shows : Shows page sid db₀ db₂) (since : db₂.Grows db) (later : db.Grows db₃)
    (enabled : ActionBar.enabled page kind = true) {status : ℕ} {detail : String}
    (refusal : Refusal db (kind.request sid actor) status detail) :
    status = 503 ∨ detail = "policy already exists in the policy service but could not be resolved" ∨
      NewBinding db₀ db₃ sid ∨ NewDecision db₀ db₃ sid ∨ Tied db₃ sid := by
  cases kind with
  | assess =>
      rcases assess_refused shows since later (enabled_unbound enabled) refusal with unavailable | bound
      · exact .inl unavailable
      · exact .inr (.inr (.inl bound))
  | quote =>
      obtain ⟨unbound, d, shown, undeclined⟩ := enabled_quote.mp enabled
      rcases quote_refused shows since later unbound shown undeclined refusal with unavailable | changed
      · exact .inl unavailable
      · exact .inr (.inr changed)
  | bind =>
      obtain ⟨-, ⟨d, shown, accepted⟩, q, quoted⟩ := enabled_bind.mp enabled
      rcases bind_refused shows since later shown accepted quoted refusal with unresolved | changed
      · exact .inr (.inl unresolved)
      · exact .inr (.inr (.inr changed))

/-- A page disables the assessment of a bound file only, and that stays bound. -/
theorem assess_acted (shows : Shows page sid db₀ db₂) {moments : List (World σ)} (among : ∀ w ∈ moments, db₂.Grows w.db)
    {answer : Answer} (acted : Acted (.assess sid actor) answer moments) : ActionBar.enabled page .assess = true := by
  cases acted with
  | assessed free => exact enabled_assess.mpr (shows.free (among _ (by simp)) free)

/-- A quote of a file that the page shows to be declined, or not assessed, is of another decision. -/
theorem quote_acted (shows : Shows page sid db₀ db₂) {moments : List (World σ)}
    (among : ∀ w ∈ moments, db₂.Grows w.db ∧ w.db.Grows db₃) (disabled : ¬ActionBar.enabled page .quote = true)
    {answer : Answer} (acted : Acted (.quote sid actor) answer moments) :
    page.binding = none ∧ (NewDecision db₀ db₃ sid ∨ Tied db₃ sid) := by
  cases acted with
  | @quoted _ _ _ decision _ _ w₁ _ w₃ _ _ free _ newest undeclined =>
      have unbound := shows.free (among w₁ (by simp)).1 free
      obtain ⟨since, later⟩ := among w₃ (by simp)
      rcases shows.latest since later newest with made | tied | shown
      · exact ⟨unbound, .inl made⟩
      · exact ⟨unbound, .inr tied⟩
      · exact absurd (enabled_quote.mpr ⟨unbound, decision, shown, undeclined⟩) disabled

end Clicked

/-- The Binding that a bind is answered with is the one shown, or another's that the bind has
    found, or its own of a decision and a quote that the page has shown or missed. -/
theorem bind_excused {page : SubmissionDetailPage} {sid : String} {db₀ : Db} {s₂ s₃ : ApiSys σ}
    (shows : Shows page sid db₀ s₂.world.db) (keyed : s₃.world.db.Keyed)
    (later : Run (Api.backend P) (Api.requests jwksUrl) anyStep s₂ s₃) {i : ℕ} {t : ApiThread}
    (at_i : s₃.threads[i]? = some t) (arrived : s₂.threads.length ≤ i) {row : Binding}
    (accounts : Accounts (Served t.log) sid row) :
    Excused page sid db₀ s₃.world.db t.log .bind (.written (.binding row)) := by
  cases accounts with
  | found check =>
      obtain ⟨s, pick, since, read, after⟩ := Current.served_run later at_i arrived rfl check
      have stored := List.mem_of_find?_eq_some (Option.some.inj read)
      have owner : row.submissionId = sid := by simpa using List.find?_some (Option.some.inj read)
      cases shown : page.binding with
      | none => exact .found shown check (shows.frozen (run_later after) shown ⟨row, stored, owner⟩)
      | some b =>
          refine .shown (shown.trans (congrArg some ?_))
          exact shows.same_binding (run_later since) (run_later after) keyed shown stored owner
  | @recorded decision quote _ check decided accepted quoted =>
      obtain ⟨s, pick, since, read, -⟩ := Current.served_run later at_i arrived rfl check
      have unbound := shows.free (run_later since) (not_bound read)
      refine .bound unbound (fun unaccepted => ?_) fun missing => ?_
      · obtain ⟨s, pick, since, read, after⟩ := Current.served_run later at_i arrived rfl decided
        have newest := Latest.limitOne_top (Option.some.inj read)
        rcases shows.latest (run_later since) (run_later after) newest with made | tied | shown
        · exact .inl made
        · exact .inr tied
        · exact absurd accepted (unaccepted decision shown)
      · obtain ⟨s, pick, since, read, after⟩ := Current.served_run later at_i arrived rfl quoted
        exact shows.quoted (run_later after) (Latest.limitOne_top (Option.some.inj read)).1 missing

/-- What a page offers and what it withholds is what the API then does, in any run,
    unless a decision, a quote or another's Binding has come up since the page began to
    load, or two decisions bear one time. -/
theorem gates_agree (client : ClientErrors P) {pas : σ} {s₀ s₁ s₂ s₃ : ApiSys σ}
    (before : Run (Api.backend P) (Api.requests jwksUrl) anyStep ⟨.initial pas, []⟩ s₀) {sid : String}
    {fetched : Fetched} (loads : Loads P jwksUrl sid s₀ s₁ s₂ fetched) {page : SubmissionDetailPage}
    (rendered : SubmissionDetailPage.render fetched = .ok (some page))
    (later : Run (Api.backend P) (Api.requests jwksUrl) anyStep s₂ s₃) {i : ℕ} {t : ApiThread}
    (at_i : s₃.threads[i]? = some t) (arrived : s₂.threads.length ≤ i) {kind : Kind}
    (clicked : t.req.route = kind.post sid) (admitted : (Api.part jwksUrl t.req).isSome)
    {outcome : Except PyErr Response} (ended : t.ctl.outcome? = some outcome) :
    Agrees page kind sid s₀.world.db s₃.world.db t.log outcome := by
  have shows := shows_of_loads loads rendered
  obtain ⟨req, writes⟩ := Option.isSome_iff_exists.mp admitted
  obtain ⟨actor, rfl⟩ := part_post clicked writes
  constructor
  · rintro enabled status detail rfl
    obtain ⟨worlds, w, moments, among, refusal⟩ := Refused.refused_run client later at_i arrived writes ended
    obtain ⟨s, rfl, since, after⟩ := moments.mem among
    exact enabled_refused shows (run_later since) (run_later after) enabled refusal
  · rintro disabled response rfl
    have disabled : ¬ActionBar.enabled page kind = true := by simp [disabled]
    obtain ⟨answer, worlds, moments, rfl, seen, some, acted⟩ := Current.acted_run later at_i arrived writes ended
    have among : ∀ w ∈ moments, s₂.world.db.Grows w.db ∧ w.db.Grows s₃.world.db := by
      intro w member
      obtain ⟨s, rfl, since, after⟩ := seen.mem (some.subset member)
      exact ⟨run_later since, run_later after⟩
    cases kind with
    | assess => exact absurd (assess_acted shows (fun w member => (among w member).1) acted) disabled
    | quote =>
        obtain ⟨unbound, changed⟩ := quote_acted shows among disabled acted
        exact .quoted unbound changed
    | bind =>
        have keyed := (Reads.store_run (((before.trans loads.first).trans loads.second).trans later)).1
        have returned : t.ctl = .ret (.written answer) := Prog.ret_of_outcome ended
        obtain ⟨row, same, accounts⟩ := Current.accounted_run later at_i arrived writes returned
        cases same
        exact bind_excused shows keyed later at_i arrived accounts

/-! ## A page before the assessment -/

/-- The requests of a page and its first action, by a name. -/
def named : V1 → Option (String × String)
  | .getSubmission id => some ("submission", id)
  | .getQuote id => some ("quote", id)
  | .getBinding id => some ("binding", id)
  | .getSubmissionAudit id => some ("audit", id)
  | .assessSubmission id => some ("assess", id)
  | _ => none

/-- What a request has settled with, if it is of the kind that is read. -/
def fetch {α : Type} (read : Response → Option α) (t : ApiThread) : Option (Except PyErr α) :=
  match t.ctl.outcome? with
  | some (.ok response) => (read response).map .ok
  | some (.error err) => some (.error err)
  | none => none

def detailOf : Response → Option (Submission × Option Decision)
  | .detail row decision => some (row, decision)
  | _ => none

def quoteOf : Response → Option Quote
  | .quote row => some row
  | _ => none

def bindingOf : Response → Option Binding
  | .binding row => some row
  | _ => none

def auditOf : Response → Option (List AuditEntry)
  | .audit entries => some entries
  | _ => none

/-- The request at a place is the named one, and settled with such a result. -/
def settled {α : Type} (s : ApiSys (List Lifecycle.Policy)) (i : ℕ) (name : String) (read : Response → Option α)
    (fits : Except PyErr α → Bool) : Bool :=
  s.threads[i]?.any fun t => named t.req.route == some (name, "s") && (fetch read t).any fits

theorem settles_of_settled {α : Type} {s₀ s : ApiSys (List Lifecycle.Policy)} {i : ℕ} {name : String}
    {read : Response → Option α} {fits : Except PyErr α → Bool} {route : V1} {wrap : α → Response}
    (checked : settled s i name read fits = true) (arrived : s₀.threads.length ≤ i)
    (routes : ∀ r, named r = some (name, "s") → r = route) (reads : ∀ r a, read r = some a → r = wrap a) :
    ∃ result, Settles s₀ s route wrap result ∧ fits result = true := by
  simp only [settled, Option.any_eq_true, Bool.and_eq_true, beq_iff_eq] at checked
  obtain ⟨t, at_i, asks, result, fetched, fits⟩ := checked
  refine ⟨result, ⟨i, t, arrived, at_i, routes _ asks, ?_⟩, fits⟩
  unfold fetch at fetched
  split at fetched
  · rename_i response ended
    obtain ⟨a, found, rfl⟩ := Option.map_eq_some_iff.mp fetched
    rw [ended, reads response a found]
    rfl
  · rename_i err ended
    cases fetched
    rw [ended]
    rfl
  · cases fetched

theorem exists_ok {ε α : Type} {result : Except ε α} (succeeded : result.toBool = true) : ∃ value, result = .ok value := by
  cases result with
  | ok value => exact ⟨value, rfl⟩
  | error => cases succeeded

/-- `ann` opens the page of the file that `bob` has created, first its submission. -/
def opening : List (Choice ApiRequest (Fate Lifecycle.Reaction) (Env Lifecycle.UserAct)) :=
  [.start (Endpoints.asked "ann" (.getSubmission "s")), .run 2 Scenario.read, .run 2 Scenario.read]

/-- Then the rest, in whatever order. -/
def filling : List (Choice ApiRequest (Fate Lifecycle.Reaction) (Env Lifecycle.UserAct)) :=
  [.start (Endpoints.asked "ann" (.getQuote "s")), .start (Endpoints.asked "ann" (.getBinding "s")),
    .start (Endpoints.asked "ann" (.getSubmissionAudit "s")), .run 4 Scenario.read, .run 3 Scenario.read,
    .run 5 Scenario.read, .run 3 Scenario.read, .run 4 Scenario.read, .run 5 Scenario.read]

/-- `bob` assesses the file, for which there are no rules yet. -/
def clicking : List (Choice ApiRequest (Fate Lifecycle.Reaction) (Env Lifecycle.UserAct)) :=
  [.start (Endpoints.asked "bob" (.assessSubmission "s")), .run 6 Scenario.read, .run 6 Scenario.read,
    .run 6 Scenario.read]

def isRefusedAssess (t : ApiThread) : Bool :=
  named t.req.route == some ("assess", "s") && (Api.part "jwks" t.req).isSome &&
    t.ctl.outcome?.any fun outcome => !outcome.toBool

theorem clicked_agrees : ∃ (s₀ s₃ : ApiSys (List Lifecycle.Policy)) (page : SubmissionDetailPage) (log : Log ApiReply)
    (outcome : Except PyErr Response), outcome.toBool = false ∧
      Agrees page .assess "s" s₀.world.db s₃.world.db log outcome := by
  obtain ⟨s₀, s₁, before, first, checked⟩ := exists_run_then Endpoints.apiService (Api.requests "jwks") anyStep anyStep
    ⟨.initial [], []⟩ Endpoints.opened opening (fun s₀ s₁ => s₀.threads.length == 2 && s₁.threads.length == 3 &&
      settled s₁ 2 "submission" detailOf Except.toBool &&
      (exec Endpoints.apiService (Api.requests "jwks") anyStep s₁ filling).any fun s₂ => s₂.threads.length == 6 &&
        settled s₂ 3 "quote" quoteOf (fun result => (orNull result).toBool) &&
        settled s₂ 4 "binding" bindingOf (fun result => (orNull result).toBool) &&
        settled s₂ 5 "audit" auditOf (fun _ => true) &&
        (exec Endpoints.apiService (Api.requests "jwks") anyStep s₂ clicking).any fun s₃ =>
          s₃.threads[6]?.any isRefusedAssess) (by decide +kernel)
  simp only [Bool.and_eq_true, beq_iff_eq, Option.any_eq_true] at checked
  obtain ⟨⟨⟨two, three⟩, submission⟩, s₂, filled, ⟨⟨⟨six, quote⟩, binding⟩, audit⟩, s₃, clicked, t, at_t, refused⟩ := checked
  obtain ⟨found, submission, is_found⟩ : ∃ result, Settles s₀ s₁ (.getSubmission "s")
      (fun data : Submission × Option Decision => .detail data.1 data.2) result ∧ result.toBool = true :=
    settles_of_settled submission (by omega) (by rintro ⟨⟩ <;> simp [named]) (by rintro ⟨⟩ <;> simp [detailOf])
  obtain ⟨quoted, quote, no_quote⟩ : ∃ result, Settles s₁ s₂ (.getQuote "s") .quote result ∧
      (orNull result).toBool = true :=
    settles_of_settled quote (by omega) (by rintro ⟨⟩ <;> simp [named]) (by rintro ⟨⟩ <;> simp [quoteOf])
  obtain ⟨bound, binding, no_binding⟩ : ∃ result, Settles s₁ s₂ (.getBinding "s") .binding result ∧
      (orNull result).toBool = true :=
    settles_of_settled binding (by omega) (by rintro ⟨⟩ <;> simp [named]) (by rintro ⟨⟩ <;> simp [bindingOf])
  obtain ⟨entries, audit, -⟩ : ∃ result, Settles s₁ s₂ (.getSubmissionAudit "s") .audit result ∧ true = true :=
    settles_of_settled audit (by omega) (by rintro ⟨⟩ <;> simp [named]) (by rintro ⟨⟩ <;> simp [auditOf])
  obtain ⟨data, rfl⟩ := exists_ok is_found
  obtain ⟨_, quoted_ok⟩ := exists_ok no_quote
  obtain ⟨_, bound_ok⟩ := exists_ok no_binding
  have loads : Loads (Lifecycle.model Lifecycle.byNumber) "jwks" "s" s₀ s₁ s₂ ⟨.ok data, quoted, bound, entries⟩ :=
    ⟨first, submission, .of_exec filled, quote, binding, audit⟩
  obtain ⟨page, rendered⟩ : ∃ page, SubmissionDetailPage.render ⟨.ok data, quoted, bound, entries⟩ = .ok (some page) :=
    exists_page rfl quoted_ok bound_ok
  simp only [isRefusedAssess, Bool.and_eq_true, beq_iff_eq, Option.any_eq_true, Bool.not_eq_true'] at refused
  obtain ⟨⟨asks, admitted⟩, outcome, ended, failed⟩ := refused
  have route : t.req.route = Kind.post "s" .assess := by
    cases same : t.req.route <;> simp [same, named] at asks
    rw [asks]
    rfl
  exact ⟨s₀, s₃, page, t.log, outcome, failed,
    gates_agree (Answered.lifecycle_client _) before loads rendered (.of_exec clicked) at_t (by omega) route admitted
      ended⟩

end Underwriting.Workbench
