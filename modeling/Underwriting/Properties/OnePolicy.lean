import Underwriting.Machine.Milestones
import Underwriting.Machine.Policies
import Underwriting.Machine.Rows
import Underwriting.Machine.Scenario

/-! # One live policy per submission

A policy is numbered for a quote, so two quotes of a submission can get a policy
each. At most one of them is active in the runs in which a bind activates only
while its quote is the latest, and a new quote is committed only while no policy
of the submission is active.
-/

namespace Underwriting.OnePolicy

open Interleaving Lifecycle
open BindService (policyNumberFor)

/-- The policy has the number of a quote of the submission. -/
def NumberedFor (db : Db) (submissionId : String) (p : Policy) : Prop :=
  ∃ q ∈ db.quotesOf submissionId, p.policyNumber = policyNumberFor q.id

/-- No quote of the submission is later. -/
def TopQuote (db : Db) (submissionId : String) (q : Quote) : Prop :=
  ∀ other ∈ db.quotesOf submissionId, other.latestKey ≤ q.latestKey

/-- No active policy was created for the submission. -/
def NoneActive (initial : List Policy) (w : World (List Policy)) (submissionId : String) : Prop :=
  ∀ p ∈ w.pas, p.status = .active → Created initial p → ¬ NumberedFor w.db submissionId p

/-- A quote commits while no policy of its submission is active, and a bind activates
    while the quote it has read is the latest. -/
def Steady (initial : List Policy) (s : ProgSys (List Policy)) : Choice Request (Fate Reaction) (Env UserAct) → Prop
  | .run i fate =>
      (fate.isCommit → ∀ t ∈ s.threads[i]?, ∀ sid ∈ t.req.quoteOf, NoneActive initial s.world sid) ∧
        (fate.isPas → ∀ t ∈ s.threads[i]?, (t.awaits requests).any Call.isActivate →
          ∀ sid ∈ t.req.bindOf, ∀ q ∈ quotesRead t, TopQuote s.world.db sid q)
  | .start _ | .crash _ | .env _ => True

instance (db : Db) (sid : String) (p : Policy) : Decidable (NumberedFor db sid p) :=
  inferInstanceAs (Decidable (∃ q ∈ db.quotesOf sid, p.policyNumber = policyNumberFor q.id))

instance (db : Db) (sid : String) (q : Quote) : Decidable (TopQuote db sid q) :=
  inferInstanceAs (Decidable (∀ other ∈ db.quotesOf sid, other.latestKey ≤ q.latestKey))

instance (initial : List Policy) (w : World (List Policy)) (sid : String) : Decidable (NoneActive initial w sid) :=
  inferInstanceAs (Decidable (∀ p ∈ w.pas, p.status = .active → Created initial p → ¬ NumberedFor w.db sid p))

instance (initial : List Policy) (s : ProgSys (List Policy)) (choice : Choice Request (Fate Reaction) (Env UserAct)) :
    Decidable (Steady initial s choice) :=
  match choice with
  | .run i fate => inferInstanceAs (Decidable
      ((fate.isCommit → ∀ t ∈ s.threads[i]?, ∀ sid ∈ t.req.quoteOf, NoneActive initial s.world sid) ∧
        (fate.isPas → ∀ t ∈ s.threads[i]?, (t.awaits requests).any Call.isActivate →
          ∀ sid ∈ t.req.bindOf, ∀ q ∈ quotesRead t, TopQuote s.world.db sid q)))
  | .start _ | .crash _ | .env _ => .isTrue trivial

/-- Different quotes get different numbers. -/
def Injective (db : Db) : Prop :=
  ∀ q ∈ db.quotes, ∀ q' ∈ db.quotes, policyNumberFor q.id = policyNumberFor q'.id → q.id = q'.id

instance (db : Db) : Decidable (Injective db) :=
  inferInstanceAs (Decidable
    (∀ q ∈ db.quotes, ∀ q' ∈ db.quotes, policyNumberFor q.id = policyNumberFor q'.id → q.id = q'.id))

theorem Injective.mono {db db' : Db} (injective : Injective db') (grown : db.Grows db') : Injective db :=
  fun q member q' member' => injective q (grown.quote member) q' (grown.quote member')

variable {paging : Paging} {initial : List Policy} {s s' : PointSys (List Policy)}
  {choice : Choice Request (Fate Reaction) (Env UserAct)}

/-- Created policies are numbered for quotes, and the active ones for latest quotes. -/
structure Tidy (initial : List Policy) (w : World (List Policy)) : Prop where
  numbered : ∀ p ∈ w.pas, Created initial p → ∃ q ∈ w.db.quotes, p.policyNumber = policyNumberFor q.id
  top : ∀ p ∈ w.pas, p.status = .active → Created initial p → ∀ sid, ∀ q ∈ w.db.quotesOf sid,
    p.policyNumber = policyNumberFor q.id → TopQuote w.db sid q

/-- Every new policy is numbered for the quote its bind has read. -/
theorem numbered_step (sound : AllSound s) (tidy : Tidy initial s.world)
    (stepped : step (backend (model paging)) points s choice = some s') :
    ∀ p ∈ s'.world.pas, Created initial p → ∃ q ∈ s'.world.db.quotes, p.policyNumber = policyNumberFor q.id := by
  have grown := step_grows stepped
  have known : ∀ {p p'}, p ∈ s.world.pas → p.outline = p'.outline → Created initial p' →
      ∃ q ∈ s'.world.db.quotes, p'.policyNumber = policyNumberFor q.id := by
    intro p p' member same created
    obtain ⟨q, stored, number⟩ := tidy.numbered p member (by rwa [Created, outline_id same])
    exact ⟨q, grown.quote stored, (outline_number same).symm.trans number⟩
  intro p' member created
  obtain ⟨p, old, same⟩ | ⟨t, running, request, newId, rest, next, rfl⟩ := policy_step stepped member
  · exact known old same created
  · obtain ⟨file, phase⟩ := Phase.creates next
    have fits := (sound t running).kept.1
    rw [phase] at fits
    exact ⟨file.quote, grown.quote (Db.mem_quotesOf.mp fits.1.quote).1, fits.2.number⟩

/-- A bind that is about to activate has the latest quote, and its policy the number. -/
theorem top_activated (sound : AllSound s) (keyed : s.world.db.Keyed) (injective : Injective s.world.db)
    (unique : Unique s.world.pas) (stored : AllStored s) {i : ℕ} {reaction : Reaction}
    (allowed : Steady initial (s.map routes.map) (.run i (.pas reaction))) {t : PointThread}
    (at_i : s.threads[i]? = some t) {p : Policy} (member : p ∈ s.world.pas) {rest : Except PyErr PasResponse → Phase}
    (next : t.ctl.next = some ⟨.policyService (.transition p.id "activate"), rest⟩) {sid : String} {q : Quote}
    (quoted : q ∈ s.world.db.quotesOf sid) (number : p.policyNumber = policyNumberFor q.id) :
    TopQuote s.world.db sid q := by
  have known := sound t (List.mem_of_getElem? at_i)
  obtain ⟨file, request, policy, phase, id⟩ := Phase.activates next
  have held : t.ctl.held = some ⟨file, request, policy⟩ := by rw [phase]; rfl
  obtain ⟨read, made⟩ := Phase.held_fits known.kept.1 held
  obtain ⟨p', member', id', number'⟩ := stored t (List.mem_of_getElem? at_i) _ held
  obtain rfl := unique.id_eq member member' (id.symm.trans id'.symm)
  -- the number leads back to the quote that the bind has read
  obtain ⟨inQuotes, owner⟩ := Db.mem_quotesOf.mp quoted
  obtain ⟨inQuotes', owner'⟩ := Db.mem_quotesOf.mp read.quote
  have same : q.id = file.quote.id :=
    injective q inQuotes file.quote inQuotes' (number.symm.trans (number'.trans made.number))
  obtain rfl := keyed.quote_eq inQuotes inQuotes' same
  obtain rfl := owner.symm.trans owner'
  have bind : t.req.bindOf = some file.submissionId := by
    have request := known.request
    rw [phase] at request
    exact congrArg Request.bindOf request
  have onRecord : file.quote ∈ quotesRead t :=
    known.quote_read file.submissionId (by simp [phase, Phase.logged, Phase.reads])
  have awaits := Thread.awaits_next routes next
  exact allowed.2 rfl _ (Sys.thread_map routes.map at_i) (by rw [awaits]; rfl) _ bind _ onRecord

/-- Only the commit of a quote request adds to the quotes of its submission. -/
theorem quotesOf_step (sound : AllSound s) (stepped : step (backend (model paging)) points s choice = some s')
    (sid : String) : s'.world.db.quotesOf sid = s.world.db.quotesOf sid ∨
      ∃ i t, choice = .run i .commit ∧ s.threads[i]? = some t ∧ t.req.quoteOf = some sid := by
  cases db_step sound stepped with
  | same kept => exact .inl (by rw [kept])
  | rules rulesets rateTables chosen world =>
      rw [world, Db.quotesOf_append]
      exact .inl (List.append_nil _)
  | @commit i t rest chosen at_i next world =>
      rw [world, Db.quotesOf_append]
      cases added : t.ctl.pending.quotesOf sid with
      | nil => exact .inl (List.append_nil _)
      | cons row others =>
          have found : row ∈ t.ctl.pending.quotesOf sid := by rw [added]; exact List.mem_cons_self
          obtain ⟨member, owned⟩ := Db.mem_quotesOf.mp found
          have known := sound t (List.mem_of_getElem? at_i)
          obtain ⟨file, entry, phase⟩ := Phase.commits_quote next member
          obtain ⟨fits, request⟩ := And.intro known.kept.1 known.request
          rw [phase] at fits request
          have owner : file.submissionId = sid := (fits.1.owner fits.2.1).symm.trans owned
          exact .inr ⟨i, t, chosen, at_i, (congrArg Request.quoteOf request).trans (congrArg some owner)⟩

/-- Active policies stay those of latest quotes. -/
theorem top_step (sound : AllSound s) (keyed : s.world.db.Keyed) (injective : Injective s'.world.db)
    (unique : Unique s.world.pas) (stored : AllStored s) (tidy : Tidy initial s.world)
    (allowed : Steady initial (s.map routes.map) choice)
    (stepped : step (backend (model paging)) points s choice = some s') :
    ∀ p ∈ s'.world.pas, p.status = .active → Created initial p → ∀ sid, ∀ q ∈ s'.world.db.quotesOf sid,
      p.policyNumber = policyNumberFor q.id → TopQuote s'.world.db sid q := by
  have grown := step_grows stepped
  have known : ∀ {p p'}, p ∈ s.world.pas → p.outline = p'.outline → p.status = .active → Created initial p' →
      ∀ sid, s'.world.db.quotesOf sid = s.world.db.quotesOf sid → ∀ q ∈ s'.world.db.quotesOf sid,
        p'.policyNumber = policyNumberFor q.id → TopQuote s'.world.db sid q := by
    intro p p' member same active created sid quotes q quoted number
    rw [TopQuote, quotes]
    exact tidy.top p member active (by rwa [Created, outline_id same]) sid q (quotes ▸ quoted)
      ((outline_number same).trans number)
  intro p' member active created sid q quoted number
  cases pas_step stepped with
  | same kept =>
      rw [kept] at member
      rcases quotesOf_step sound stepped sid with quotes | ⟨i, t, rfl, at_i, request⟩
      · exact known member rfl active created sid quotes q quoted number
      · -- the policy is numbered for an old quote, so the commit of a new one was not allowed
        have free : NoneActive initial s.world sid :=
          allowed.1 rfl _ (Sys.thread_map routes.map at_i) sid request
        obtain ⟨inQuotes, owner⟩ := Db.mem_quotesOf.mp quoted
        obtain ⟨old, stays, from_old⟩ := tidy.numbered p' member created
        have same : old.id = q.id := injective old (grown.quote stays) q inQuotes (from_old.symm.trans number)
        have keyed' := keyed_step sound keyed stepped
        obtain rfl := keyed'.quote_eq (grown.quote stays) inQuotes same
        exact absurd ⟨old, Db.mem_quotesOf.mpr ⟨stays, owner⟩, number⟩ (free p' member active created)
  | user a chosen pas db =>
      rw [pas] at member
      obtain ⟨p, old, same, was⟩ := act_active member active
      exact known old same was created sid (by rw [db]) q quoted number
  | @served i t request rest reaction chosen at_i next effect db =>
      obtain ⟨p, old, same, was | rfl⟩ := effect.active member active
      · exact known old same was created sid (by rw [db]) q quoted number
      · subst chosen
        rw [db] at injective quoted ⊢
        rw [← outline_id same] at next
        exact top_activated sound keyed injective unique stored allowed at_i old next quoted
          ((outline_number same).trans number)

theorem tidy_run (exact_paging : Exact paging) {pas : List Policy} (unique : Unique pas)
    (run : Run (backend (model paging)) points (fun s choice => Steady pas (s.map routes.map) choice)
      (idle (.initial pas)) s) (injective : Injective s.world.db) :
    Unique s.world.pas ∧ AllStored s ∧ Tidy pas s.world := by
  revert injective
  refine points_invariant run keyed_empty
    (I := fun s => Injective s.world.db → Unique s.world.pas ∧ AllStored s ∧ Tidy pas s.world) ?initial ?preserved
  case initial =>
    intro _
    have old : ∀ p ∈ pas, ¬ Created pas p := fun p member created => created (List.mem_map_of_mem member)
    exact ⟨unique, (fun _ member => nomatch member), fun p member created => absurd created (old p member),
      fun p member _ created => absurd created (old p member)⟩
  case preserved =>
    intro s choice s' sound keyed tidied allowed stepped injective
    obtain ⟨unique, stored, tidy⟩ := tidied (injective.mono (step_grows stepped))
    exact ⟨unique_step unique stepped, stored_step exact_paging stored stepped,
      numbered_step sound tidy stepped, top_step sound keyed injective unique stored tidy allowed stepped⟩

/-- Two policies of one submission, both active, are the same. -/
theorem Tidy.one_active {w : World (List Policy)} (tidy : Tidy initial w) (unique : Unique w.pas) {sid : String}
    {p p' : Policy} (member : p ∈ w.pas) (member' : p' ∈ w.pas) (active : p.status = .active)
    (active' : p'.status = .active) (created : Created initial p) (created' : Created initial p')
    (numbered : NumberedFor w.db sid p) (numbered' : NumberedFor w.db sid p') : p = p' := by
  obtain ⟨q, quoted, number⟩ := numbered
  obtain ⟨q', quoted', number'⟩ := numbered'
  have above := tidy.top p member active created sid q quoted number q' quoted'
  have below := tidy.top p' member' active' created' sid q' quoted' number' q quoted
  have same : q.latestKey = q'.latestKey := le_antisymm below above
  have ids : q.id = q'.id := congrArg Prod.snd (toLex.injective same)
  exact unique.number_eq member member' (number.trans ((congrArg policyNumberFor ids).trans number'.symm))

/-- With unique numbers, an exact lookup and no two quotes of one number, in runs that
    commit a new quote only while no policy of its submission is active and activate
    only for the latest quote: every policy created is of some submission, and at
    most one of each submission is active. -/
theorem one_active_policy (exact_paging : Exact paging) {pas : List Policy} (unique : Unique pas)
    {s : ProgSys (List Policy)} (run : Run (backend (model paging)) requests (Steady pas) (idle (.initial pas)) s)
    (injective : Injective s.world.db) :
    (∀ p ∈ s.world.pas, Created pas p → ∃ sid, NumberedFor s.world.db sid p) ∧
      ∀ sid, ∀ p ∈ s.world.pas, ∀ p' ∈ s.world.pas, p.status = .active → p'.status = .active →
        Created pas p → Created pas p' → NumberedFor s.world.db sid p → NumberedFor s.world.db sid p' → p = p' := by
  obtain ⟨s, lifted, rfl⟩ := lift_idle run
  obtain ⟨unique, -, tidy⟩ := tidy_run exact_paging unique lifted injective
  constructor
  · intro p member created
    obtain ⟨q, stored, number⟩ := tidy.numbered p member created
    exact ⟨q.submissionId, q, Db.mem_quotesOf.mpr ⟨stored, rfl⟩, number⟩
  · intro sid p member p' member' active active' created created' numbered numbered'
    exact tidy.one_active unique member member' active active' created created' numbered numbered'

/-- The first attempt fails at its create, the file is quoted again and bound. -/
def requoted : Scenario.Script :=
  Scenario.quoted ++ [.start Scenario.bind] ++ Scenario.opening 3 30 ++ Scenario.drive 3 [.lost] ++
    [.start Scenario.quote] ++ Scenario.quoting 4 "q2" 40 ++ Scenario.closing 4 ++
    [.start Scenario.bind] ++ Scenario.opening 5 50 ++ Scenario.effects 5 "p" ++ Scenario.recording 5 "b" 51 ++
    Scenario.closing 5

theorem requoted_one_active : ∃ s, Run Scenario.service requests (Steady []) Scenario.empty s ∧
    (∃ p ∈ s.world.pas, p.status = .active ∧ NumberedFor s.world.db "s" p) ∧
      (∀ p ∈ s.world.pas, Created [] p → ∃ sid, NumberedFor s.world.db sid p) ∧
        ∀ sid, ∀ p ∈ s.world.pas, ∀ p' ∈ s.world.pas, p.status = .active → p'.status = .active →
          Created [] p → Created [] p' → NumberedFor s.world.db sid p → NumberedFor s.world.db sid p' → p = p' := by
  obtain ⟨s, run, checked⟩ := exists_run Scenario.service requests (Steady []) Scenario.empty requoted
    (fun s => decide (Injective s.world.db ∧ ∃ p ∈ s.world.pas, p.status = .active ∧ NumberedFor s.world.db "s" p))
    (by decide +kernel)
  obtain ⟨injective, active⟩ := of_decide_eq_true checked
  exact ⟨s, run, active, one_active_policy byNumber_exact .nil run injective⟩

/-- The first bind loses its commit, the file is quoted again and bound. -/
def boundTwice : Scenario.Script :=
  Scenario.quoted ++ [.start Scenario.bind] ++ Scenario.opening 3 30 ++ Scenario.effects 3 "p" ++
    Scenario.recording 3 "b" 31 ++ Scenario.drive 3 [.lost] ++ [.start Scenario.quote] ++
    Scenario.quoting 4 "q2" 40 ++ Scenario.closing 4 ++ [.start Scenario.bind] ++ Scenario.opening 5 50 ++
    Scenario.effects 5 "p2" ++ Scenario.recording 5 "b2" 51 ++ Scenario.closing 5

/-- Without the condition a retry after a new quote leaves two active policies. -/
theorem two_active_policies : ¬ ∀ s, Run Scenario.service requests anyStep Scenario.empty s → Injective s.world.db →
    ∀ sid, ∀ p ∈ s.world.pas, ∀ p' ∈ s.world.pas, p.status = .active → p'.status = .active →
      Created [] p → Created [] p' → NumberedFor s.world.db sid p → NumberedFor s.world.db sid p' → p = p' := by
  intro unique
  obtain ⟨s, run, checked⟩ := exists_run Scenario.service requests anyStep Scenario.empty boundTwice
    (fun s => decide (Injective s.world.db ∧ ∃ p ∈ s.world.pas, ∃ p' ∈ s.world.pas, p.status = .active ∧
      p'.status = .active ∧ NumberedFor s.world.db "s" p ∧ NumberedFor s.world.db "s" p' ∧ p ≠ p'))
    (by decide +kernel)
  obtain ⟨injective, p, member, p', member', active, active', numbered, numbered', distinct⟩ :=
    of_decide_eq_true checked
  exact distinct (unique s run injective "s" p member p' member' active active' (List.not_mem_nil) (List.not_mem_nil)
    numbered numbered')

end Underwriting.OnePolicy
