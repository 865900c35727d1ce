import Mathlib.Data.Prod.Lex
import Mathlib.Data.String.Basic
import Underwriting.Columns
import Underwriting.Errors
import Underwriting.Lib.Interleave
import Underwriting.Lib.Latest

/-! # Calls and what they do

The services reach the outside through repository methods, the session, the
clock, the policy service and the event publisher. Each is a call. A read sees
committed rows only (READ COMMITTED); an insert is flushed at once, refused if a value
does not fit its column, and stays in its own transaction until the commit; unique
constraints are enforced at both.

A fate settles what the world leaves open: the row a query picks among equals,
ids and times, what the policy service and the publisher do, and whether a call
is lost on the way.
-/

namespace Underwriting

open Interleaving

/-- The body of a create at the policy service. -/
structure CreatePolicyRequest where
  policyNumber : String
  holderName : String
  productCode : String
  effectiveDate : String
  expiryDate : String
  deriving DecidableEq, Repr

/-- The HTTP requests of the policy client, token included. -/
inductive PasRequest where
  /-- `POST /v1/policies` -/
  | create (request : CreatePolicyRequest)
  /-- `GET /v1/policies?policy_number=...` -/
  | list (policyNumber : String)
  /-- `POST /v1/policies/{id}/{action}` -/
  | transition (policyId action : String)
  deriving DecidableEq, Repr

/-- An HTTP response; a body that is not JSON is `none`. -/
structure PasResponse where
  statusCode : ℕ
  body : Option Json
  text : String

/-- The payload of a bound-risk event. -/
structure BoundRiskEvent where
  policyNumber : String
  submissionId : String
  quoteId : String
  premiumMinor : ℤ
  currency : String
  productCode : String
  effectiveDate : String
  expiryDate : String
  deriving DecidableEq, Repr

inductive Call where
  | getSubmission (id : String)
  | getCounterparty (id : String)
  | latestDecision (submissionId : String)
  | latestQuote (submissionId : String)
  | bindingBySubmission (submissionId : String)
  | currentRuleset
  | currentRateTable
  | addCounterparty (new : NewCounterparty)
  | addSubmission (new : NewSubmission)
  | addDecision (new : NewDecision)
  | addQuote (new : NewQuote)
  | addBinding (new : NewBinding)
  | appendAudit (new : NewAuditEntry)
  | commit
  | refresh
  | now
  | policyService (request : PasRequest)
  | publish (event : BoundRiskEvent)

inductive Call.Kind where
  | query | insert | commit | now | policyService | publish
  deriving DecidableEq

def Call.kind : Call → Call.Kind
  | .getSubmission _ | .getCounterparty _ | .latestDecision _ | .latestQuote _ | .bindingBySubmission _
  | .currentRuleset | .currentRateTable | .refresh => .query
  | .addCounterparty _ | .addSubmission _ | .addDecision _ | .addQuote _ | .addBinding _
  | .appendAudit _ => .insert
  | .commit => .commit
  | .now => .now
  | .policyService _ => .policyService
  | .publish _ => .publish

def Reply : Call → Type
  | .getSubmission _ => Option Submission
  | .getCounterparty _ => Option Counterparty
  | .latestDecision _ => Option Decision
  | .latestQuote _ => Option Quote
  | .bindingBySubmission _ => Option Binding
  | .currentRuleset => Option AppetiteRuleset
  | .currentRateTable => Option RateTable
  | .addCounterparty _ => Counterparty
  | .addSubmission _ => Submission
  | .addDecision _ => Decision
  | .addQuote _ => Quote
  | .addBinding _ => Binding
  | .appendAudit _ => AuditEntry
  | .commit | .refresh | .publish _ => Unit
  | .now => ℕ
  | .policyService _ => PasResponse

abbrev Program := Prog Reply PyErr

section World

variable (σ φ υ : Type)

/-- A policy service: how it serves a request, and what its own users do. The
    caller may get a response or an exception. -/
structure PasModel where
  serve : σ → PasRequest → φ → Option (Except PyErr PasResponse × σ)
  act : σ → υ → σ

structure World where
  db : Db
  pas : σ
  delivered : List BoundRiskEvent
  clock : ℕ

inductive Fate where
  | lost
  | read (pick : ℕ)
  | stamp (stamp : Stamp)
  | commit
  | clock (time : ℕ)
  | pas (choice : φ)
  /-- The publisher sent so many copies, then returned or raised. -/
  | publish (copies : ℕ) (raised : Bool)

/-- The time a fate reads off the clock. -/
def Fate.time? {φ : Type} : Fate φ → Option ℕ
  | .stamp given => some given.time
  | .clock time => some time
  | _ => none

def Fate.isCommit {φ : Type} : Fate φ → Bool
  | .commit => true
  | _ => false

/-- The call fails on its way. -/
def Fate.isLost {φ : Type} : Fate φ → Bool
  | .lost => true
  | _ => false

/-- The request reaches the policy service. -/
def Fate.isPas {φ : Type} : Fate φ → Bool
  | .pas _ => true
  | _ => false

/-- The publisher has taken the event and returned. -/
def Fate.published {φ : Type} : Fate φ → Bool
  | .publish _ raised => !raised
  | _ => false

/-- The publisher delivers the event once and returns, or raises and delivers nothing. -/
def Fate.honest {φ : Type} : Fate φ → Bool
  | .publish copies raised => copies == if raised then 0 else 1
  | _ => true

/-- What happens outside the requests: `create_version` of a ruleset or a rate
    table, and the users of the policy service. -/
inductive Env where
  | ruleset (new : NewVersion) (stamp : Stamp)
  | rateTable (new : NewVersion) (stamp : Stamp)
  | pas (act : υ)

end World

variable {σ φ υ : Type}

/-- The sort keys of the "latest wins" queries. -/
def Decision.latestKey (d : Decision) : ℕ := d.time

def Quote.latestKey (q : Quote) : ℕ ×ₗ String := toLex (q.time, q.id)

/-- The queries. `pick` settles the order of rows with equal keys. -/
def Db.query (db : Db) (pick : ℕ) : (c : Call) → Option (Reply c)
  | .getSubmission id => some (db.submissions.find? (·.id = id))
  | .getCounterparty id => some (db.counterparties.find? (·.id = id))
  | .latestDecision sid => some (Latest.limitOne Decision.latestKey (db.decisionsOf sid) pick)
  | .latestQuote sid => some (Latest.limitOne Quote.latestKey (db.quotesOf sid) pick)
  | .bindingBySubmission sid => some (db.bindings.find? (·.submissionId = sid))
  | .currentRuleset => some (Latest.limitOne (fun r : AppetiteRuleset => r.version) db.rulesets pick)
  | .currentRateTable => some (Latest.limitOne (fun t : RateTable => t.version) db.rateTables pick)
  | .refresh => some ()
  | _ => none

/-- The inserts: the new row, and the row as table content. -/
def Call.insertion (stamp : Stamp) : (c : Call) → Option (Reply c × Db)
  | .addCounterparty new => let row : Counterparty := ⟨new, stamp⟩; some (row, { counterparties := [row] })
  | .addSubmission new => let row : Submission := ⟨new, stamp⟩; some (row, { submissions := [row] })
  | .addDecision new => let row : Decision := ⟨new, stamp⟩; some (row, { decisions := [row] })
  | .addQuote new => let row : Quote := ⟨new, stamp⟩; some (row, { quotes := [row] })
  | .addBinding new => let row : Binding := ⟨new, stamp⟩; some (row, { bindings := [row] })
  | .appendAudit new => let row : AuditEntry := ⟨new, stamp⟩; some (row, { audits := [row] })
  | _ => none

/-- The values of an insert fit their columns. -/
def Call.Fits : Call → Prop
  | .addCounterparty new => new.Fits
  | .addSubmission new => new.Fits
  | .addDecision new => new.Fits
  | .addQuote new => new.Fits
  | .addBinding new => new.Fits
  | .appendAudit new => new.Fits
  | _ => True

instance : (c : Call) → Decidable c.Fits
  | .addCounterparty new => inferInstanceAs (Decidable new.Fits)
  | .addSubmission new => inferInstanceAs (Decidable new.Fits)
  | .addDecision new => inferInstanceAs (Decidable new.Fits)
  | .addQuote new => inferInstanceAs (Decidable new.Fits)
  | .addBinding new => inferInstanceAs (Decidable new.Fits)
  | .appendAudit new => inferInstanceAs (Decidable new.Fits)
  | .getSubmission _ | .getCounterparty _ | .latestDecision _ | .latestQuote _ | .bindingBySubmission _
  | .currentRuleset | .currentRateTable | .commit | .refresh | .now | .policyService _ | .publish _ => .isTrue trivial

def World.tick (w : World σ) (time : ℕ) : World σ := { w with clock := time }

/-- One call of a transaction with the flushed rows `pending`. -/
def handle (P : PasModel σ φ υ) (w : World σ) (pending : Db) (c : Call) :
    Fate φ → Option (Except PyErr (Reply c) × World σ × Db)
  | .lost => if c.kind = .now ∨ c.kind = .publish then none else some (.error .outage, w, pending)
  | .read pick => (w.db.query pick c).map fun value => (.ok value, w, pending)
  | .stamp stamp => (c.insertion stamp).map fun (row, added) =>
      if ¬c.Fits then (.error .data, w.tick stamp.time, pending)
      else if (w.db ++ (pending ++ added)).Keyed then (.ok row, w.tick stamp.time, pending ++ added)
      else (.error .integrity, w.tick stamp.time, pending)
  | .commit =>
      match c with
      | .commit =>
          if (w.db ++ pending).Keyed then some (.ok (), { w with db := w.db ++ pending }, .empty)
          else some (.error .integrity, w, .empty)
      | _ => none
  | .clock time =>
      match c with
      | .now => some (.ok time, w.tick time, pending)
      | _ => none
  | .pas choice =>
      match c with
      | .policyService request =>
          (P.serve w.pas request choice).map fun (answer, pas) => (answer, { w with pas := pas }, pending)
      | _ => none
  | .publish copies raised =>
      match c with
      | .publish event =>
          some (if raised then .error .outage else .ok (),
            { w with delivered := w.delivered ++ List.replicate copies event }, pending)
      | _ => none

/-- A version number that is taken is refused. -/
def disturb (P : PasModel σ φ υ) (w : World σ) : Env υ → World σ
  | .ruleset new stamp =>
      let db := w.db ++ { rulesets := [⟨new, stamp⟩] }
      if db.Keyed then { w with db := db } else w
  | .rateTable new stamp =>
      let db := w.db ++ { rateTables := [⟨new, stamp⟩] }
      if db.Keyed then { w with db := db } else w
  | .pas act => { w with pas := P.act w.pas act }

def backend (P : PasModel σ φ υ) : Backend Reply PyErr (World σ) Db (Fate φ) (Env υ) where
  fresh := .empty
  handle := handle P
  disturb := disturb P

/-- An empty store beside some state of the policy service. -/
def World.initial (pas : σ) : World σ := ⟨.empty, pas, [], 0⟩

/-! ## What a call can do -/

/-- The outcomes of a call, one for each fate. -/
inductive Handled (P : PasModel σ φ υ) (w : World σ) (pending : Db) :
    (c : Call) → Fate φ → Except PyErr (Reply c) → World σ → Db → Prop where
  | lost {c} (remote : ¬ (c.kind = .now ∨ c.kind = .publish)) :
      Handled P w pending c .lost (.error .outage) w pending
  | read {c pick value} (found : w.db.query pick c = some value) :
      Handled P w pending c (.read pick) (.ok value) w pending
  | insert {c stamp row added} (inserted : c.insertion stamp = some (row, added))
      (free : (w.db ++ (pending ++ added)).Keyed) (fits : c.Fits) :
      Handled P w pending c (.stamp stamp) (.ok row) (w.tick stamp.time) (pending ++ added)
  | refused {c stamp row added} (inserted : c.insertion stamp = some (row, added))
      (taken : ¬ (w.db ++ (pending ++ added)).Keyed) :
      Handled P w pending c (.stamp stamp) (.error .integrity) (w.tick stamp.time) pending
  | unfit {c stamp row added} (inserted : c.insertion stamp = some (row, added)) (misfit : ¬c.Fits) :
      Handled P w pending c (.stamp stamp) (.error .data) (w.tick stamp.time) pending
  | commit (free : (w.db ++ pending).Keyed) :
      Handled P w pending .commit .commit (.ok ()) { w with db := w.db ++ pending } .empty
  | conflict (taken : ¬ (w.db ++ pending).Keyed) :
      Handled P w pending .commit .commit (.error .integrity) w .empty
  | now (time) : Handled P w pending .now (.clock time) (.ok time) (w.tick time) pending
  | pas {request choice answer pas} (served : P.serve w.pas request choice = some (answer, pas)) :
      Handled P w pending (.policyService request) (.pas choice) answer { w with pas := pas } pending
  | publish (event copies raised) :
      Handled P w pending (.publish event) (.publish copies raised) (if raised then .error .outage else .ok ())
        { w with delivered := w.delivered ++ List.replicate copies event } pending

/-- An insert is refused for a column, refused for a key, or made. -/
theorem stamp_cases {P : PasModel σ φ υ} {w w' : World σ} {pending pending' c stamp answer}
    (handled : handle P w pending c (.stamp stamp) = some (answer, w', pending')) :
    Handled P w pending c (.stamp stamp) answer w' pending' := by
  obtain ⟨⟨row, added⟩, inserted, same⟩ := Option.map_eq_some_iff.mp handled
  dsimp only at same
  split at same
  · rename_i misfit
    cases same
    exact .unfit inserted misfit
  · rename_i fits
    split at same
    · rename_i free
      cases same
      exact .insert inserted free (not_not.mp fits)
    · rename_i taken
      cases same
      exact .refused inserted taken

theorem handle_cases {P : PasModel σ φ υ} {w w' : World σ} {pending pending' c fate answer}
    (handled : handle P w pending c fate = some (answer, w', pending')) :
    Handled P w pending c fate answer w' pending' := by
  cases fate with
  | lost =>
      simp only [handle] at handled
      split at handled
      · cases handled
      · rename_i remote
        cases handled
        exact .lost remote
  | read pick =>
      obtain ⟨value, found, same⟩ := Option.map_eq_some_iff.mp handled
      cases same
      exact .read found
  | stamp stamp =>
      exact stamp_cases handled
  | commit =>
      cases c with
      | commit =>
          simp only [handle] at handled
          split at handled
          · rename_i free
            cases handled
            exact .commit free
          · rename_i taken
            cases handled
            exact .conflict taken
      | _ => cases handled
  | clock time =>
      cases c with
      | now => cases handled; exact .now time
      | _ => cases handled
  | pas choice =>
      cases c with
      | policyService request =>
          obtain ⟨⟨answer, pas⟩, served, same⟩ := Option.map_eq_some_iff.mp handled
          cases same
          exact .pas served
      | _ => cases handled
  | publish copies raised =>
      cases c with
      | publish event => cases handled; exact .publish event copies raised
      | _ => cases handled

variable {P : PasModel σ φ υ} {w w' : World σ} {pending pending' : Db} {c : Call} {fate : Fate φ}
  {answer : Except PyErr (Reply c)}

/-- A call leaves the committed rows alone, or is a commit that appends the
    transaction's rows. -/
theorem Handled.db (handled : Handled P w pending c fate answer w' pending') :
    w'.db = w.db ∨ (c = .commit ∧ answer.toBool ∧ w'.db = w.db ++ pending ∧ w'.db.Keyed) := by
  cases handled with
  | commit free => exact .inr ⟨rfl, rfl, rfl, free⟩
  | _ => exact .inl rfl

/-- Only a publish delivers events. -/
theorem Handled.delivered (handled : Handled P w pending c fate answer w' pending') :
    w'.delivered = w.delivered ∨ ∃ event copies raised, c = .publish event ∧ fate = .publish copies raised ∧
      w'.delivered = w.delivered ++ List.replicate copies event := by
  cases handled with
  | publish event copies raised => exact .inr ⟨event, copies, raised, rfl, rfl, rfl⟩
  | _ => exact .inl rfl

/-- Only a request to the policy service changes it, and nothing else. -/
theorem Handled.policies (handled : Handled P w pending c fate answer w' pending') :
    w'.pas = w.pas ∨ ∃ request choice given, c = .policyService request ∧ fate = .pas choice ∧
      P.serve w.pas request choice = some (given, w'.pas) ∧ w'.db = w.db := by
  cases handled with
  | @pas request choice answer pas served => exact .inr ⟨request, choice, answer, rfl, rfl, served, rfl⟩
  | _ => exact .inl rfl

theorem Handled.grows (handled : Handled P w pending c fate answer w' pending') : w.db.Grows w'.db := by
  rcases handled.db with same | ⟨-, -, appended, -⟩
  · exact same ▸ .refl _
  · exact appended ▸ .append _ _

theorem disturb_grows (P : PasModel σ φ υ) (w : World σ) (e : Env υ) : w.db.Grows (disturb P w e).db := by
  cases e with
  | ruleset new stamp =>
      simp only [disturb]
      split
      · exact .append _ _
      · exact .refl _
  | rateTable new stamp =>
      simp only [disturb]
      split
      · exact .append _ _
      · exact .refl _
  | pas act => exact .refl _

/-- The environment appends rules, or moves the policy service. -/
theorem disturb_cases (P : PasModel σ φ υ) (w : World σ) (e : Env υ) :
    (∃ rulesets rateTables, disturb P w e = { w with db := w.db ++ { rulesets, rateTables } }) ∨
      ∃ a, e = .pas a ∧ disturb P w e = { w with pas := P.act w.pas a } := by
  have unchanged : w = { w with db := w.db ++ ({ rulesets := [], rateTables := [] } : Db) } := by
    rw [show w.db ++ ({ rulesets := [], rateTables := [] } : Db) = w.db from Db.append_empty _]
  cases e with
  | ruleset new stamp =>
      refine .inl ?_
      simp only [disturb]
      split
      · exact ⟨_, [], rfl⟩
      · exact ⟨[], [], unchanged⟩
  | rateTable new stamp =>
      refine .inl ?_
      simp only [disturb]
      split
      · exact ⟨[], _, rfl⟩
      · exact ⟨[], [], unchanged⟩
  | pas a => exact .inr ⟨a, rfl, rfl⟩

section Disturbed

variable (P : PasModel σ φ υ) (w : World σ) (e : Env υ)

@[simp] theorem disturb_decisions : (disturb P w e).db.decisions = w.db.decisions := by
  rcases disturb_cases P w e with ⟨_, _, same⟩ | ⟨_, -, same⟩ <;> rw [same]
  exact List.append_nil _

@[simp] theorem disturb_quotes : (disturb P w e).db.quotes = w.db.quotes := by
  rcases disturb_cases P w e with ⟨_, _, same⟩ | ⟨_, -, same⟩ <;> rw [same]
  exact List.append_nil _

@[simp] theorem disturb_bindings : (disturb P w e).db.bindings = w.db.bindings := by
  rcases disturb_cases P w e with ⟨_, _, same⟩ | ⟨_, -, same⟩ <;> rw [same]
  exact List.append_nil _

@[simp] theorem disturb_clock : (disturb P w e).clock = w.clock := by
  rcases disturb_cases P w e with ⟨_, _, same⟩ | ⟨_, -, same⟩ <;> rw [same]

@[simp] theorem disturb_delivered : (disturb P w e).delivered = w.delivered := by
  rcases disturb_cases P w e with ⟨_, _, same⟩ | ⟨_, -, same⟩ <;> rw [same]

end Disturbed

/-! ## Calls that succeed -/

theorem Call.kind_of_query {db : Db} {pick value} (found : db.query pick c = some value) : c.kind = .query := by
  cases c <;> first | rfl | cases found

theorem Call.kind_of_insertion {stamp row added} (inserted : c.insertion stamp = some (row, added)) :
    c.kind = .insert := by
  cases c <;> first | rfl | cases inserted

/-- A query is answered, whatever row it picks. -/
theorem query_isSome {c : Call} (kind : c.kind = .query) (db : Db) (pick : ℕ) : (db.query pick c).isSome := by
  cases c <;> first | rfl | cases kind

/-- A query is lost or read, and changes nothing either way. -/
theorem Handled.query_cases (handled : Handled P w pending c fate answer w' pending') (kind : c.kind = .query) :
    w' = w ∧ pending' = pending ∧
      ((fate.isLost ∧ answer = .error .outage) ∨
        ∃ pick value, answer = .ok value ∧ w.db.query pick c = some value) := by
  cases handled with
  | lost => exact ⟨rfl, rfl, .inl ⟨rfl, rfl⟩⟩
  | read found => exact ⟨rfl, rfl, .inr ⟨_, _, rfl, found⟩⟩
  | insert inserted | refused inserted | unfit inserted => cases kind.symm.trans (Call.kind_of_insertion inserted)
  | commit | conflict | now | pas | publish => cases kind

/-- A query that is answered reads committed rows and changes nothing. -/
theorem Handled.query (handled : Handled P w pending c fate answer w' pending') (kind : c.kind = .query)
    {value} (answered : answer = .ok value) :
    w' = w ∧ pending' = pending ∧ ∃ pick, w.db.query pick c = some value := by
  obtain ⟨world, session, ⟨-, failed⟩ | ⟨pick, read, answered', found⟩⟩ := handled.query_cases kind
  · cases failed.symm.trans answered
  · cases answered'.symm.trans answered
    exact ⟨world, session, pick, found⟩

/-- An insert that is answered added its row to the transaction. -/
theorem Handled.inserted (handled : Handled P w pending c fate answer w' pending') (kind : c.kind = .insert)
    {row} (answered : answer = .ok row) :
    ∃ stamp added, fate = .stamp stamp ∧ c.insertion stamp = some (row, added) ∧
      w' = w.tick stamp.time ∧ pending' = pending ++ added ∧ (w.db ++ (pending ++ added)).Keyed := by
  cases handled with
  | lost => cases answered
  | read found => cases kind.symm.trans (Call.kind_of_query found)
  | insert inserted free => cases answered; exact ⟨_, _, rfl, inserted, rfl, rfl, free⟩
  | refused | unfit => cases answered
  | commit | conflict | now | pas | publish => cases kind

theorem Handled.committed {answer : Except PyErr Unit}
    (handled : Handled P w pending .commit fate answer w' pending') {value}
    (answered : answer = .ok value) :
    w' = { w with db := w.db ++ pending } ∧ pending' = .empty ∧ (w.db ++ pending).Keyed := by
  cases handled with
  | lost | conflict => cases answered
  | read found => cases Call.kind_of_query found
  | insert inserted | refused inserted | unfit inserted => cases Call.kind_of_insertion inserted
  | commit free => exact ⟨rfl, rfl, free⟩

theorem Handled.clock {answer : Except PyErr ℕ} (handled : Handled P w pending .now fate answer w' pending') {time}
    (answered : answer = .ok time) : w' = w.tick time ∧ pending' = pending := by
  cases handled with
  | lost => cases answered
  | read found => cases Call.kind_of_query found
  | insert inserted | refused inserted | unfit inserted => cases Call.kind_of_insertion inserted
  | now time => cases answered; exact ⟨rfl, rfl⟩

/-- The policy service changes its own state only. -/
theorem Handled.served {request} {answer : Except PyErr PasResponse}
    (handled : Handled P w pending (.policyService request) fate answer w' pending') :
    (answer = .error .outage ∧ w' = w ∧ pending' = pending) ∨
      ∃ choice pas, fate = .pas choice ∧ P.serve w.pas request choice = some (answer, pas) ∧
        w' = { w with pas := pas } ∧ pending' = pending := by
  cases handled with
  | lost => exact .inl ⟨rfl, rfl, rfl⟩
  | read found => cases Call.kind_of_query found
  | insert inserted | refused inserted | unfit inserted => cases Call.kind_of_insertion inserted
  | pas served => exact .inr ⟨_, _, rfl, served, rfl, rfl⟩

theorem Handled.published {event} {answer : Except PyErr Unit}
    (handled : Handled P w pending (.publish event) fate answer w' pending') :
    ∃ copies raised, fate = .publish copies raised ∧ answer = (if raised then .error .outage else .ok ()) ∧
      w' = { w with delivered := w.delivered ++ List.replicate copies event } ∧ pending' = pending := by
  cases handled with
  | lost remote => exact absurd (.inr rfl) remote
  | read found => cases Call.kind_of_query found
  | insert inserted | refused inserted | unfit inserted => cases Call.kind_of_insertion inserted
  | publish copies raised => exact ⟨_, _, rfl, rfl, rfl, rfl⟩

end Underwriting
