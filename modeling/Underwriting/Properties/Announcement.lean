import Underwriting.Machine.Milestones
import Underwriting.Machine.Policies
import Underwriting.Machine.Scenario

/-! # The cover that is announced

Every attempt to bind dates its cover from the clock, but the policy keeps the
dates of the attempt that created it. The event agrees with the policy in the runs
in which an attempt that meets a stored policy runs on the first day of its cover.
-/

namespace Underwriting

open Interleaving Lifecycle
open BindService (policyNumberFor productCodeFor coverDates)

/-- What a policy and its event must agree on. -/
structure Cover where
  policyNumber : String
  productCode : String
  effectiveDate : String
  expiryDate : String
  deriving DecidableEq

def CreatePolicyRequest.cover (r : CreatePolicyRequest) : Cover :=
  ⟨r.policyNumber, r.productCode, r.effectiveDate, r.expiryDate⟩

def BoundRiskEvent.cover (e : BoundRiskEvent) : Cover :=
  ⟨e.policyNumber, e.productCode, e.effectiveDate, e.expiryDate⟩

def Lifecycle.Policy.cover (p : Policy) : Cover :=
  ⟨p.policyNumber, p.productCode, p.effectiveDate, p.expiryDate⟩

namespace Announcement

/-- There is a policy of the event's number, it has the event's cover, and the event
    has the price of the quote that the number is of. -/
structure Agrees (w : World (List Policy)) (e : BoundRiskEvent) : Prop where
  stored : ∃ p ∈ w.pas, p.policyNumber = e.policyNumber
  cover : ∀ p ∈ w.pas, p.policyNumber = e.policyNumber → p.cover = e.cover
  price : ∃ q ∈ w.db.quotes, q.id = e.quoteId ∧ e.policyNumber = policyNumberFor q.id ∧
    e.premiumMinor = q.premiumMinor ∧ e.currency = q.currency

/-- Binds are attempts on one submission. -/
def BindsOf (submissionId : String) : Choice Request (Fate Reaction) (Env UserAct) → Prop
  | .start req => ∀ sid ∈ req.bindOf, sid = submissionId
  | .run _ _ | .crash _ | .env _ => True

/-- When the create of an attempt is served, a stored policy of its number is one
    that an earlier attempt created, on the day which this attempt has read. -/
def SameDay (initial : List Policy) (s : ProgSys (List Policy)) :
    Choice Request (Fate Reaction) (Env UserAct) → Prop
  | .run i fate => fate.isPas → ∀ t ∈ s.threads[i]?, (t.awaits requests).any Call.isCreate →
      ∀ q ∈ quotesRead t, ∀ time ∈ clockReadings t, ∀ p ∈ s.world.pas, p.policyNumber = policyNumberFor q.id →
        Created initial p ∧ coverDates time = .ok (p.effectiveDate, p.expiryDate)
  | .start _ | .crash _ | .env _ => True

instance (sid : String) (choice : Choice Request (Fate Reaction) (Env UserAct)) : Decidable (BindsOf sid choice) :=
  match choice with
  | .start req => inferInstanceAs (Decidable (∀ other ∈ req.bindOf, other = sid))
  | .run _ _ | .crash _ | .env _ => .isTrue trivial

instance (initial : List Policy) (s : ProgSys (List Policy)) (choice : Choice Request (Fate Reaction) (Env UserAct)) :
    Decidable (SameDay initial s choice) :=
  match choice with
  | .run i fate => inferInstanceAs (Decidable
      (fate.isPas → ∀ t ∈ s.threads[i]?, (t.awaits requests).any Call.isCreate →
        ∀ q ∈ quotesRead t, ∀ time ∈ clockReadings t, ∀ p ∈ s.world.pas, p.policyNumber = policyNumberFor q.id →
          Created initial p ∧ coverDates time = .ok (p.effectiveDate, p.expiryDate)))
  | .start _ | .crash _ | .env _ => .isTrue trivial

section Points

/-- The request of a bind that has its create behind it and its publish before it. -/
def sought : Phase → Option CreatePolicyRequest
  | .bindResolve _ request | .bindSubmit _ request _ | .bindActivate _ request _ | .bindPublish _ request _ =>
      some request
  | _ => none

variable {ph ph' : Phase} {c : Call} {answer : Except PyErr (Reply c)}

/-- A request is made from the clock. -/
theorem create_next {file request} (leads : Phase.Leads ph c answer (.bindCreate file request)) :
    ∃ time, (⟨c, answer⟩ : (c : Call) × Except PyErr (Reply c)) = ⟨.now, .ok time⟩ ∧
      coverDates time = .ok (request.effectiveDate, request.expiryDate) := by
  cases leads with
  | bindClock made =>
      obtain ⟨dates, covers, built⟩ := bind_ok made
      cases built
      exact ⟨_, rfl, covers⟩

/-- The answers of a create that let a bind go on. -/
inductive Sought (request : CreatePolicyRequest) : Phase → (c : Call) → Except PyErr (Reply c) → Prop where
  | created {file resp ref} (read : PolicyClient.readCreated resp = .ok ref) :
      Sought request (.bindCreate file request) (.policyService (.create request)) (.ok resp)

theorem sought_next (leads : Phase.Leads ph c answer ph') {request} (known : sought ph' = some request) :
    sought ph = some request ∨ Sought request ph c answer := by
  cases leads with
  | bindCreate read | bindConflict read =>
      cases known
      exact .inr (.created read)
  | ended | bindPublish => cases known
  | _ => exact .inl known

end Points

theorem cover_eq {p p' : Policy} (same : p.outline = p'.outline) : p.cover = p'.cover :=
  show p.outline.cover = p'.outline.cover by rw [same]

variable {paging : Paging} {initial : List Policy} {sid : String} {s s' : PointSys (List Policy)}
  {choice : Choice Request (Fate Reaction) (Env UserAct)}

/-- Some policy has the cover. -/
def Holds (store : List Policy) (cover : Cover) : Prop := ∃ p ∈ store, p.cover = cover

theorem Holds.stays {store after : List Policy} {cover : Cover} (holds : Holds store cover)
    (kept : store.map Policy.outline <+: after.map Policy.outline) : Holds after cover := by
  obtain ⟨p, member, same⟩ := holds
  obtain ⟨p', member', outline⟩ := outline_stays kept member
  exact ⟨p', member', (cover_eq outline).trans same⟩

/-- The product of a submission. -/
def ProductOf (db : Db) (submissionId productCode : String) : Prop :=
  ∃ submission, db.Has submissionId submission ∧ productCode = productCodeFor submission.lineOfBusiness

theorem ProductOf.eq {db : Db} (keyed : db.Keyed) {product product' : String} (first : ProductOf db sid product)
    (second : ProductOf db sid product') : product = product' := by
  obtain ⟨submission, ⟨stored, id⟩, rfl⟩ := first
  obtain ⟨submission', ⟨stored', id'⟩, rfl⟩ := second
  rw [keyed.submission_eq stored stored' (id.trans id'.symm)]

/-- What an attempt knows: it is for the submission, its request has the dates it has
    read, and after its create the policy service has the cover of the request. -/
structure Attempt (sid : String) (store : List Policy) (t : PointThread) : Prop where
  own : ∀ other, t.req.bindOf = some other → other = sid
  dated : ∀ file request, t.ctl = .bindCreate file request →
    ∃ time ∈ clockReadings t, coverDates time = .ok (request.effectiveDate, request.expiryDate)
  held : ∀ request, sought t.ctl = some request → Holds store request.cover

/-- The request of a create is for the product of the submission. -/
theorem product_sought {t : PointThread} {db : Db} (known : Sound db t) (attempt : Attempt sid s.world.pas t)
    {file : BindFile} {request : CreatePolicyRequest} (phase : t.ctl = .bindCreate file request) :
    ProductOf db sid request.productCode := by
  obtain ⟨fits, asked⟩ := And.intro known.kept.1 known.request
  rw [phase] at fits asked
  obtain ⟨read, holder, now, created⟩ := fits
  obtain ⟨dates, -, built⟩ := bind_ok created
  cases built
  have owner : file.submissionId = sid := attempt.own _ (congrArg Request.bindOf asked)
  exact ⟨file.submission, owner ▸ read.has, rfl⟩

/-- Policies and events of the submission. -/
structure Told (initial : List Policy) (sid : String) (w : World (List Policy)) : Prop where
  products : ∀ p ∈ w.pas, Created initial p → ProductOf w.db sid p.productCode
  covers : ∀ e ∈ w.delivered, Holds w.pas e.cover
  prices : ∀ e ∈ w.delivered, ∃ q ∈ w.db.quotes, q.id = e.quoteId ∧ e.policyNumber = policyNumberFor q.id ∧
    e.premiumMinor = q.premiumMinor ∧ e.currency = q.currency

/-- A create that is answered leaves a policy with the cover of the request. -/
theorem held_created (sound : AllSound s) (keyed : s.world.db.Keyed) (told : Told initial sid s.world) {i : ℕ}
    {fate : Fate Reaction} (allowed : SameDay initial (s.map routes.map) (.run i fate)) {t : PointThread}
    (attempt : Attempt sid s.world.pas t) (at_i : s.threads[i]? = some t) {c : Call}
    {rest : Except PyErr (Reply c) → Phase} (next : t.ctl.next = some ⟨c, rest⟩) {answer : Except PyErr (Reply c)}
    {world : World (List Policy)} {session : Db}
    (handled : Handled (model paging) s.world t.session c fate answer world session)
    {request : CreatePolicyRequest} (found : Sought request t.ctl c answer) : Holds world.pas request.cover := by
  have known := sound t (List.mem_of_getElem? at_i)
  generalize phase : t.ctl = ph at found
  cases found with
  | @created file resp ref read =>
      rcases handled.served with ⟨failed, -, -⟩ | ⟨reaction, pas, rfl, served, rfl, -⟩
      · cases failed
      cases ref with
      | some ref =>
          obtain ⟨newId, rfl, -⟩ := created_ref served read
          exact ⟨.ofRequest request newId, List.mem_append_right _ (List.mem_singleton_self _), rfl⟩
      | none =>
          -- the number is taken: by an earlier attempt, on this day
          obtain ⟨p, member, number⟩ := conflict_taken served read
          obtain ⟨time, clock, dated⟩ := attempt.dated file request phase
          have fits := known.kept.1
          rw [phase] at fits
          have onRecord : file.quote ∈ quotesRead t :=
            known.quote_read file.submissionId (by simp [phase, Phase.logged, Phase.reads])
          have awaits := Thread.awaits_next routes next
          obtain ⟨created, dates⟩ := allowed rfl _ (Sys.thread_map routes.map at_i) (by rw [awaits]; rfl)
            _ onRecord time clock p member (number.trans fits.2.number)
          have product : p.productCode = request.productCode :=
            (told.products p member created).eq keyed (product_sought known attempt phase)
          have same : p.cover = request.cover := by
            rw [dated] at dates
            obtain ⟨effective, expiry⟩ := Prod.mk.inj (Except.ok.inj dates)
            simp only [Policy.cover, CreatePolicyRequest.cover, number, product, effective, expiry]
          have before : Holds s.world.pas request.cover := ⟨p, member, same⟩
          exact before.stays (serve_effect served).outlines

theorem attempt_step (sound : AllSound s) (keyed : s.world.db.Keyed) (told : Told initial sid s.world)
    (attempts : ∀ t ∈ s.threads, Attempt sid s.world.pas t) (ours : BindsOf sid choice)
    (allowed : SameDay initial (s.map routes.map) choice)
    (stepped : step (backend (model paging)) points s choice = some s') :
    ∀ t ∈ s'.threads, Attempt sid s'.world.pas t := by
  have kept := pas_outlines stepped
  refine threads_step stepped ?others ?start ?died ?moved
  case others =>
    intro t member
    obtain ⟨own, dated, held⟩ := attempts t member
    exact ⟨own, dated, fun request known => (held request known).stays kept⟩
  case start =>
    rintro req rfl
    refine ⟨ours, ?_, ?_⟩
    · cases req <;> exact fun _ _ phase => nomatch phase
    · cases req <;> exact fun _ known => nomatch known
  case died =>
    exact fun t member => ⟨(attempts t member).own, (fun _ _ phase => nomatch phase), fun _ known => nomatch known⟩
  case moved =>
    rintro i fate t c rest answer session rfl at_i next handled
    have attempt := attempts t (List.mem_of_getElem? at_i)
    refine ⟨attempt.own, fun file request phase => ?_, fun request known => ?_⟩
    · have leads := Phase.leads_next next answer
      rw [show rest answer = .bindCreate file request from phase] at leads
      obtain ⟨time, call, dated⟩ := create_next leads
      cases call
      refine ⟨time, List.mem_filterMap.mpr ⟨⟨.now, time⟩, ?_, rfl⟩, dated⟩
      exact List.mem_append_right _ (List.mem_singleton_self _)
    · rcases sought_next (Phase.leads_next next answer) known with before | found
      · exact (attempt.held request before).stays kept
      · exact held_created sound keyed told allowed attempt at_i next (handle_cases handled) found

theorem ProductOf.grows {db db' : Db} {product : String} (known : ProductOf db sid product) (grown : db.Grows db') :
    ProductOf db' sid product := by
  obtain ⟨submission, has, same⟩ := known
  exact ⟨submission, Phase.has_grows has grown, same⟩

/-- Created policies are of the submission's product. -/
theorem products_step (sound : AllSound s) (told : Told initial sid s.world)
    (attempts : ∀ t ∈ s.threads, Attempt sid s.world.pas t)
    (stepped : step (backend (model paging)) points s choice = some s') :
    ∀ p ∈ s'.world.pas, Created initial p → ProductOf s'.world.db sid p.productCode := by
  have known : ∀ {p p'}, p ∈ s.world.pas → p.outline = p'.outline → Created initial p' →
      ProductOf s'.world.db sid p'.productCode := by
    intro p p' member same created
    have product : p.productCode = p'.productCode := congrArg Cover.productCode (cover_eq same)
    rw [← product]
    exact (told.products p member (by rwa [Created, outline_id same])).grows (step_grows stepped)
  intro p' member created
  obtain ⟨p, old, same⟩ | ⟨t, running, request, newId, rest, next, rfl⟩ := policy_step stepped member
  · exact known old same created
  · obtain ⟨file, phase⟩ := Phase.creates next
    exact (product_sought (sound t running) (attempts t running) phase).grows (step_grows stepped)

/-- Events are published with the cover of a stored policy and the price of the quote. -/
theorem told_step (sound : AllSound s) (told : Told initial sid s.world)
    (attempts : ∀ t ∈ s.threads, Attempt sid s.world.pas t)
    (stepped : step (backend (model paging)) points s choice = some s') : Told initial sid s'.world := by
  have kept := pas_outlines stepped
  have grown := step_grows stepped
  have old : ∀ e ∈ s.world.delivered, Holds s'.world.pas e.cover ∧ ∃ q ∈ s'.world.db.quotes, q.id = e.quoteId ∧
      e.policyNumber = policyNumberFor q.id ∧ e.premiumMinor = q.premiumMinor ∧ e.currency = q.currency := by
    intro e member
    obtain ⟨q, stored, price⟩ := told.prices e member
    exact ⟨(told.covers e member).stays kept, q, grown.quote stored, price⟩
  have all : ∀ e ∈ s'.world.delivered, Holds s'.world.pas e.cover ∧ ∃ q ∈ s'.world.db.quotes, q.id = e.quoteId ∧
      e.policyNumber = policyNumberFor q.id ∧ e.premiumMinor = q.premiumMinor ∧ e.currency = q.currency := by
    cases step_cases stepped with
    | start | crash => exact old
    | env e =>
        have same : (disturb (model paging) s.world e).delivered = s.world.delivered := disturb_delivered _ _ e
        exact fun e member => old e (same ▸ member)
    | @run i fate t c rest answer world session at_i next handled =>
        rcases (handle_cases handled).delivered with same | ⟨event, copies, raised, rfl, rfl, delivered⟩
        · exact fun e member => old e (same ▸ member)
        · intro e member
          rw [delivered] at member
          rcases List.mem_append.mp member with before | new
          · exact old e before
          · obtain rfl := List.eq_of_mem_replicate new
            have at_t := List.mem_of_getElem? at_i
            have fits := (sound t at_t).kept.1
            have held := (attempts t at_t).held
            obtain ⟨file, request, policy, phase, rfl⟩ := Phase.publishes next
            rw [phase] at fits held
            have cover : request.cover = (BindService.eventOf file.submission file.quote request).cover := by
              simp only [CreatePolicyRequest.cover, BoundRiskEvent.cover, BindService.eventOf, fits.2.number]
            refine ⟨cover ▸ (held request rfl).stays kept, file.quote, ?_, rfl, rfl, rfl, rfl⟩
            exact grown.quote (Db.mem_quotesOf.mp fits.1.quote).1
  exact ⟨products_step sound told attempts stepped, fun e member => (all e member).1, fun e member => (all e member).2⟩

theorem told_run {pas : List Policy} (unique : Unique pas)
    (run : Run (backend (model paging)) points
      (fun s choice => BindsOf sid choice ∧ SameDay pas (s.map routes.map) choice) (idle (.initial pas)) s) :
    Unique s.world.pas ∧ (∀ t ∈ s.threads, Attempt sid s.world.pas t) ∧ Told pas sid s.world := by
  refine points_invariant run keyed_empty
    (I := fun s => Unique s.world.pas ∧ (∀ t ∈ s.threads, Attempt sid s.world.pas t) ∧ Told pas sid s.world)
    ?initial ?preserved
  case initial =>
    have none_created : ∀ p ∈ pas, Created pas p → ProductOf .empty sid p.productCode :=
      fun p member created => absurd (List.mem_map_of_mem member) created
    exact ⟨unique, (fun _ member => nomatch member), none_created, (fun _ member => nomatch member),
      fun _ member => nomatch member⟩
  case preserved =>
    intro s choice s' sound keyed ⟨unique, attempts, told⟩ allowed stepped
    exact ⟨unique_step unique stepped, attempt_step sound keyed told attempts allowed.1 allowed.2 stepped,
      told_step sound told attempts stepped⟩

/-- In runs whose binds are attempts on one submission, each on the first day of the
    cover it meets: every event agrees with the policy of its number. -/
theorem events_agree {pas : List Policy} (unique : Unique pas) {s : ProgSys (List Policy)}
    (run : Run (backend (model paging)) requests (fun s choice => BindsOf sid choice ∧ SameDay pas s choice)
      (idle (.initial pas)) s) : ∀ e ∈ s.world.delivered, Agrees s.world e := by
  obtain ⟨s, lifted, rfl⟩ := lift_idle run
  obtain ⟨unique, -, told⟩ := told_run unique lifted
  intro e member
  obtain ⟨p, stored, cover⟩ := told.covers e member
  have number : p.policyNumber = e.policyNumber := congrArg Cover.policyNumber cover
  refine ⟨⟨p, stored, number⟩, fun p' stored' number' => ?_, told.prices e member⟩
  rw [unique.number_eq stored' stored (number'.trans number.symm)]
  exact cover

/-- An attempt creates the policy and fails, and a retry at some time goes through. -/
def resumedAt (time : ℕ) : Scenario.Script :=
  Scenario.quoted ++ [.start Scenario.bind] ++ Scenario.opening 3 30 ++ Scenario.drive 3 [Scenario.served "p", .lost] ++
    [.start Scenario.bind] ++ Scenario.opening 4 time ++ Scenario.drive 4 [Scenario.served ""] ++
    Scenario.effects 4 "" ++ Scenario.recording 4 "b" (time + 1) ++ Scenario.closing 4

theorem resumed_same_day : ∃ s, Run Scenario.service requests (fun s choice => BindsOf "s" choice ∧ SameDay [] s choice)
      Scenario.empty s ∧ s.world.delivered.length = 1 ∧ ∀ e ∈ s.world.delivered, Agrees s.world e := by
  obtain ⟨s, run, one⟩ := exists_run Scenario.service requests
    (fun s choice => BindsOf "s" choice ∧ SameDay [] s choice) Scenario.empty (resumedAt 40)
    (fun s => s.world.delivered.length == 1) (by decide +kernel)
  exact ⟨s, run, by simpa using one, events_agree .nil run⟩

/-- A retry on the next day announces other dates than the policy has. -/
theorem resumed_next_day : ¬ ∀ s, Run Scenario.service requests (fun _ choice => BindsOf "s" choice) Scenario.empty s →
    ∀ e ∈ s.world.delivered, Agrees s.world e := by
  intro agree
  obtain ⟨s, run, checked⟩ := exists_run Scenario.service requests (fun _ choice => BindsOf "s" choice)
    Scenario.empty (resumedAt (40 + Calendar.microsPerDay))
    (fun s => decide (∃ e ∈ s.world.delivered, ∃ p ∈ s.world.pas, p.policyNumber = e.policyNumber ∧ p.cover ≠ e.cover))
    (by decide +kernel)
  obtain ⟨e, delivered, p, member, number, different⟩ := of_decide_eq_true checked
  exact different ((agree s run e delivered).cover p member number)

end Announcement

end Underwriting
