import Underwriting.Api.V1

/-! # The submission page

`frontend/src/app/submissions/[id]/page.tsx`: a page of four GETs and the buttons it
enables, with `orNull` of `lib/api.ts`, the buttons of `components/ActionBar.tsx` and
the requests of `app/submissions/actions.ts`.
-/

namespace Underwriting.Workbench

/-- `orNull`: a 404 is null, any other error is thrown again. -/
def orNull {α : Type} : Except PyErr α → Except PyErr (Option α)
  | .ok value => .ok (some value)
  | .error err =>
      match err with
      | .http 404 _ => .ok none
      | err => .error err

/-- What the four GETs of a page have settled with. -/
structure Fetched where
  submission : Except PyErr (Submission × Option Decision)
  quote : Except PyErr Quote
  binding : Except PyErr Binding
  audit : Except PyErr (List AuditEntry)

/-- The data a page is rendered from. -/
structure SubmissionDetailPage where
  submission : Submission
  decision : Option Decision
  quote : Option Quote
  binding : Option Binding
  audit : List AuditEntry

namespace SubmissionDetailPage

/-- The page, or none for `notFound()`. An audit trail that cannot be read is shown empty. -/
def render (fetched : Fetched) : Except PyErr (Option SubmissionDetailPage) :=
  match fetched.submission with
  | .error (.http 404 _) => .ok none
  | .error err => .error err
  | .ok (submission, decision) => do
      let quote ← orNull fetched.quote
      let binding ← orNull fetched.binding
      let audit := match fetched.audit with
        | .ok entries => entries
        | .error _ => []
      return some { submission, decision, quote, binding, audit }

variable (page : SubmissionDetailPage)

def bound : Bool := page.binding.isSome

def canAssess : Bool := !page.bound

def canQuote : Bool := !page.bound && page.decision.any (·.outcome != "decline")

def canBind : Bool := !page.bound && page.decision.any (·.outcome == "accept") && page.quote.isSome

end SubmissionDetailPage

/-- The actions of the bar. -/
inductive Kind where
  | assess
  | quote
  | bind
  deriving DecidableEq, Repr

/-- The bar of a bound page has no buttons; the others are disabled where the page says so. -/
def ActionBar.enabled (page : SubmissionDetailPage) : Kind → Bool
  | .assess => !page.bound && page.canAssess
  | .quote => !page.bound && page.canQuote
  | .bind => !page.bound && page.canBind

/-- `assessAction`, `quoteAction` and `bindAction` post to these. -/
def Kind.post (id : String) : Kind → V1
  | .assess => .assessSubmission id
  | .quote => .quoteSubmission id
  | .bind => .bindSubmission id

section Enabled

variable {page : SubmissionDetailPage}

theorem enabled_assess : ActionBar.enabled page .assess = true ↔ page.binding = none := by
  simp [ActionBar.enabled, SubmissionDetailPage.canAssess, SubmissionDetailPage.bound]

theorem enabled_quote : ActionBar.enabled page .quote = true ↔
    page.binding = none ∧ ∃ d, page.decision = some d ∧ d.outcome ≠ Outcome.decline.value := by
  simp [ActionBar.enabled, SubmissionDetailPage.canQuote, SubmissionDetailPage.bound, Option.any_eq_true, Outcome.value]

theorem enabled_bind : ActionBar.enabled page .bind = true ↔
    page.binding = none ∧ (∃ d, page.decision = some d ∧ d.outcome = Outcome.accept.value) ∧ ∃ q, page.quote = some q := by
  simp [ActionBar.enabled, SubmissionDetailPage.canBind, SubmissionDetailPage.bound, Option.any_eq_true, Outcome.value,
    Option.isSome_iff_exists, and_assoc]

end Enabled

section Rendered

variable {α : Type} {fetched : Fetched} {page : SubmissionDetailPage}

theorem orNull_some {result : Except PyErr α} {value : α} (settled : orNull result = .ok (some value)) :
    result = .ok value := by
  unfold orNull at settled
  split at settled
  · cases settled
    rfl
  · split at settled <;> cases settled

theorem orNull_none {result : Except PyErr α} (settled : orNull result = .ok none) :
    ∃ detail, result = .error (.http 404 detail) := by
  unfold orNull at settled
  split at settled
  · cases settled
  · split at settled
    · exact ⟨_, rfl⟩
    · cases settled

/-- A page shows what its GETs were answered with; an absent quote or Binding was a 404. -/
theorem render_ok (rendered : SubmissionDetailPage.render fetched = .ok (some page)) :
    fetched.submission = .ok (page.submission, page.decision) ∧ orNull fetched.quote = .ok page.quote ∧
      orNull fetched.binding = .ok page.binding := by
  unfold SubmissionDetailPage.render at rendered
  split at rendered
  · cases rendered
  · cases rendered
  · rename_i submission decision answered
    obtain ⟨quote, quoted, rendered⟩ := bind_ok rendered
    obtain ⟨binding, bound, rendered⟩ := bind_ok rendered
    cases rendered
    exact ⟨answered, quoted, bound⟩

/-- With its submission, and no failure but a 404 of the quote or the Binding, there is a page. -/
theorem exists_page {data : Submission × Option Decision} {quote : Option Quote} {binding : Option Binding}
    (answered : fetched.submission = .ok data) (quoted : orNull fetched.quote = .ok quote)
    (bound : orNull fetched.binding = .ok binding) : ∃ page, SubmissionDetailPage.render fetched = .ok (some page) := by
  obtain ⟨submission, decision⟩ := data
  unfold SubmissionDetailPage.render
  rw [answered, quoted, bound]
  exact ⟨_, rfl⟩

end Rendered

end Underwriting.Workbench
