import Underwriting.Lib.History
import Underwriting.Machine.Deployment
import Underwriting.Properties.Refused
import Underwriting.Properties.Scopes

/-! # A deployment is stocked before it serves

A lifespan that returns has found or installed an appetite ruleset and a rate table,
whatever other replicas and requests do meanwhile, and rows are never taken away. So no
request to a replica that is up is ever refused for want of rules. For the API a replica
that comes up is a part of its environment.
-/

namespace Underwriting.Deployment

open Interleaving
open Answered (ClientErrors)
open Prog (OnOk)
open Reads (Later)
open Refused (Refusal)
open Startup (BootErr BootCall Tables Table Seed)

variable {σ φ υ : Type} {P : PasModel σ φ υ}

/-- There is a ruleset and a rate table. -/
def Stocked (db : Db) : Prop := ∀ table, db.tables table ≠ []

theorem Stocked.rulesets {db : Db} (stocked : Stocked db) : db.rulesets ≠ [] := by
  intro none
  exact stocked .appetiteRuleset (by rw [Db.tables, none, List.map_nil])

theorem Stocked.rateTables {db : Db} (stocked : Stocked db) : db.rateTables ≠ [] := by
  intro none
  exact stocked .rateTable (by rw [Db.tables, none, List.map_nil])

theorem tables_grows {db db' : Db} (grown : db.Grows db') {table : Table} (some : db.tables table ≠ []) :
    db'.tables table ≠ [] := by
  obtain ⟨more, rfl⟩ := grown
  cases table <;> simp only [Db.tables, ne_eq, List.map_eq_nil_iff, Db.append_rulesets, Db.append_rateTables,
    List.append_eq_nil_iff, not_and] at some ⊢ <;> exact fun none => absurd none some

theorem Stocked.grows {db db' : Db} (stocked : Stocked db) (grown : db.Grows db') : Stocked db' :=
  fun table => tables_grows grown (stocked table)

/-! ## What a startup installs -/

/-- Rows of the two tables are added, or nothing is done. -/
inductive Installs (w : World σ) : World σ → Prop where
  | nothing : Installs w w
  | rows (more : Tables) (keyed : (w.db.withTables (w.db.tables.append more)).Keyed) :
      Installs w { w with db := w.db.withTables (w.db.tables.append more) }

theorem Installs.later {w w' : World σ} (installs : Installs w w') : Later w w' := by
  cases installs with
  | nothing => exact .refl _
  | rows more => exact Db.grows_append ..

/-- Rows of one table are installed one by one. -/
theorem disturb_rows {Row : Type} (table : List Row → Db) (event : Row → Env υ) (none : table [] = .empty)
    (split : ∀ row rest, table (row :: rest) = table [row] ++ table rest)
    (moves : ∀ (w : World σ) row, (w.db ++ table [row]).Keyed →
      disturb P w (event row) = { w with db := w.db ++ table [row] })
    (w : World σ) (rows : List Row) (keyed : (w.db ++ table rows).Keyed) :
    ∃ es : List (Env υ), es.foldl (disturb P) w = { w with db := w.db ++ table rows } := by
  induction rows generalizing w with
  | nil =>
      refine ⟨[], ?_⟩
      rw [none, Db.append_empty]
      rfl
  | cons row rest ih =>
      rw [split, ← Db.append_assoc] at keyed ⊢
      obtain ⟨es, moved⟩ := ih { w with db := w.db ++ table [row] } keyed
      refine ⟨event row :: es, ?_⟩
      rw [List.foldl_cons, moves w row keyed.of_append, moved]

/-- What is installed the environment could install. -/
theorem Installs.disturbs {w w' : World σ} (installs : Installs w w') (P : PasModel σ φ υ) :
    ∃ es : List (Env υ), w' = es.foldl (disturb P) w := by
  cases installs with
  | nothing => exact ⟨[], rfl⟩
  | rows more keyed =>
      have parts : Db.empty.withTables more = { rulesets := (Db.empty.withTables more).rulesets } ++
          { rateTables := (Db.empty.withTables more).rateTables } := by
        apply Db.ext <;> simp [Db.withTables, Db.empty]
      rw [Db.withTables_append, parts, ← Db.append_assoc] at keyed ⊢
      obtain ⟨first, installed⟩ := disturb_rows (P := P) (fun rows => { rulesets := rows })
        (fun row => .ruleset row.toNewVersion row.toStamp) rfl (fun _ _ => rfl) (fun _ _ keyed => if_pos keyed)
        w _ keyed.of_append
      obtain ⟨second, completed⟩ := disturb_rows (P := P) (fun rows => { rateTables := rows })
        (fun row => .rateTable row.toNewVersion row.toStamp) rfl (fun _ _ => rfl) (fun _ _ keyed => if_pos keyed)
        { w with db := w.db ++ { rulesets := _ } } _ keyed
      exact ⟨first ++ second, by rw [List.foldl_append, installed, completed]⟩

/-! ## The statements of the seeds -/

/-- What a statement comes to. -/
inductive Stated (w : World σ) (pending : Db) :
    (c : Startup.Call) → Except PyErr (Startup.Reply c) → World σ → Db → Prop where
  | scalar {query pick} : Stated w pending (.scalar query) (.ok (query.scalar (w.db.tables.append pending.tables) pick))
      w pending
  | created {table new stamp} : Stated w pending (.createVersion table new) (.ok ⟨new, stamp⟩) w
      (pending.withTables (pending.tables.insert table ⟨new, stamp⟩))
  | committed (keyed : (w.db.withTables (w.db.tables.append pending.tables)).Keyed) : Stated w pending .commit (.ok ())
      { w with db := w.db.withTables (w.db.tables.append pending.tables) } (pending.withTables .empty)
  | failed {c err pending'} : Stated w pending c (.error err) w pending'

theorem stated_of_handle {w w' : World σ} {pending pending' : Db} {c : Startup.Call} {fate answer}
    (handled : (seeding υ P).handle w pending c fate = some (answer, w', pending')) :
    Stated w pending c answer w' pending' := by
  cases fate with
  | none =>
      cases handled
      exact .failed
  | some fate =>
      obtain ⟨⟨answer, tables, seeds⟩, stated, same⟩ := Option.map_eq_some_iff.mp handled
      dsimp only at same
      by_cases keyed : (w.db.withTables tables).Keyed
      case neg =>
        rw [if_neg keyed] at same
        cases same
        exact .failed
      rw [if_pos keyed] at same
      cases same
      cases fate with
      | read pick =>
          cases c with
          | scalar query =>
              cases stated
              simp only [Db.withTables_tables]
              exact .scalar
          | createVersion | commit => cases stated
      | stamp stamp =>
          cases c with
          | createVersion table new =>
              simp only [Startup.handle] at stated
              split at stated <;> cases stated <;> simp only [Db.withTables_tables]
              · exact .created
              · exact .failed
          | scalar | commit => cases stated
      | commit =>
          cases c with
          | commit =>
              simp only [Startup.handle] at stated
              split at stated <;> cases stated <;> try simp only [Db.withTables_tables]
              · exact .committed keyed
              · exact .failed
          | scalar | createVersion => cases stated

theorem Stated.installs {w w' : World σ} {pending pending' : Db} {c : Startup.Call} {answer}
    (stated : Stated w pending c answer w' pending') : Installs w w' := by
  cases stated with
  | committed keyed => exact .rows _ keyed
  | scalar | created | failed => exact .nothing

/-- A version that was looked up is in its table. -/
theorem scalar_mem {tables : Tables} {query : Startup.Query} {pick : ℕ} {row : Startup.Row} {table : Table}
    (asks : query = .current table ∨ ∃ version, query = .getVersion table version)
    (found : query.scalar tables pick = some row) : row ∈ tables table := by
  rcases asks with rfl | ⟨version, rfl⟩
  · exact (Latest.limitOne_top found).1
  · exact List.mem_of_find?_eq_some found

section Seeds

variable {past : List (World σ)} {w : World σ}

/-- After a seed its table has a row, and nothing is left to commit. -/
theorem seed_watches (seed : Seed) : seed.program.Watches (seeding υ P) Later
    (OnOk fun _ w' pending _ => w'.db.tables seed.table ≠ [] ∧ pending = .empty) past w .empty := by
  refine Prog.watches_then fun w₁ _ fate reply w₂ pending handled => ?_
  cases stated_of_handle handled with
  | @scalar _ pick =>
      cases found : seed.lookup.scalar (w₁.db.tables.append Db.empty.tables) pick with
      | some existing =>
          have asks : seed.lookup = .current seed.table ∨ ∃ version, seed.lookup = .getVersion seed.table version := by
            cases seed with
            | rulesetV1 | rateTableV1 => exact .inl rfl
            | rateTableV2 => exact .inr ⟨2, rfl⟩
          have member := scalar_mem asks found
          rw [Tables.append] at member
          have nothing : Db.empty.tables seed.table = [] := by cases seed <;> rfl
          rw [nothing, List.append_nil] at member
          exact ⟨List.ne_nil_of_mem member, rfl⟩
      | none =>
          refine Prog.watches_then fun w₃ _ fate row w₄ pending handled => ?_
          cases stated_of_handle handled
          refine Prog.watches_then fun w₅ _ fate done w₆ pending handled => ?_
          cases stated_of_handle handled
          refine ⟨?_, ?_⟩
          · simp [Tables.append, Tables.insert]
          · simp [Db.withTables, Tables.empty, Db.empty]

/-- The seeds of a startup leave a row in each of the tables. -/
theorem seeds_watch : Startup.lifespan.Watches (seeding υ P) Later
    (OnOk fun _ w' _ _ => Stocked w'.db) past w .empty := by
  have timed : ∀ {past : List (World σ)} {w : World σ} (seed : Seed), seed.program.Watches (seeding υ P) Later
      (fun past' w' pending result => OnOk (fun _ w' pending _ => w'.db.tables seed.table ≠ [] ∧ pending = .empty)
        past' w' pending result ∧ Later w w') past w .empty :=
    fun seed => (seed_watches seed).since (fun _ => .refl _) .trans fun handled =>
      (stated_of_handle handled).installs.later
  refine Prog.Watches.bind_ok ((timed .rulesetV1).imp fun past₁ w₁ _ result met => ?_)
  cases result with
  | error err => trivial
  | ok row =>
      obtain ⟨⟨rulesets, rfl⟩, -⟩ := met
      refine Prog.Watches.bind_ok ((timed .rateTableV1).imp fun past₂ w₂ _ result met => ?_)
      cases result with
      | error err => trivial
      | ok row =>
          obtain ⟨⟨-, rfl⟩, later₂⟩ := met
          refine Prog.Watches.bind_ok ((timed .rateTableV2).imp fun past₃ w₃ _ result met => ?_)
          cases result with
          | error err => trivial
          | ok row =>
              obtain ⟨⟨rateTables, -⟩, later₃⟩ := met
              rintro (_ | _)
              · exact tables_grows (later₂.trans later₃) rulesets
              · exact rateTables

end Seeds

/-! ## The lifespan and the requests -/

section Programs

variable {past : List (World σ)} {w : World σ}

/-- An answer of the seeds or the API, as a deployment gives it. -/
theorem of_other {α : Type} {found : Option (Except PyErr α × World σ × Db)} {answer : Except BootErr α} {w' : World σ}
    {session' : Db} (same : (found.map fun (answer, w, pending) => (answer.mapError BootErr.other, w, pending)) =
      some (answer, w', session')) :
    found = some ((answer.map fun reply => reply).mapError below, w', session') := by
  obtain ⟨⟨stated, w₁, session₁⟩, rfl, same⟩ := Option.map_eq_some_iff.mp same
  cases same
  cases stated <;> rfl

theorem seed_serves {session : Db} {c : Startup.Call} {fate : DeployFate φ}
    {answer : Except BootErr (DeployReply (.seed c))} {w' : World σ} {session' : Db}
    (handled : (backend P).handle w session (.seed c) fate = some (answer, w', session')) :
    ∃ fate, (seeding υ P).handle w session c fate =
      some ((answer.map fun reply => reply).mapError below, w', session') := by
  cases fate with
  | seed fate => exact ⟨fate, of_other handled⟩
  | boot | api => cases handled

theorem api_serves {session : Db} {c : ApiCall} {fate : DeployFate φ}
    {answer : Except BootErr (DeployReply (.api c))} {w' : World σ} {session' : Db}
    (handled : (backend P).handle w session (.api c) fate = some (answer, w', session')) :
    ∃ fate, (Api.backend P).handle w session c fate =
      some ((answer.map fun reply => reply).mapError below, w', session') := by
  cases fate with
  | api fate => exact ⟨fate, of_other handled⟩
  | boot | seed => cases handled

theorem boot_serves {session : Db} {c : BootCall} {fate : DeployFate φ}
    {answer : Except BootErr (DeployReply (.boot c))} {w' : World σ} {session' : Db}
    (handled : (backend P).handle w session (.boot c) fate = some (answer, w', session')) :
    Installs w w' ∧ session' = session := by
  cases fate with
  | boot fate =>
      obtain ⟨⟨stated, w₁⟩, found, same⟩ := Option.map_eq_some_iff.mp handled
      cases same
      refine ⟨?_, rfl⟩
      rw [handleBoot.eq_def] at found
      split at found
      · rename_i applied time
        obtain ⟨more, upgraded⟩ := Startup.upgradeHead_append applied time w.db.tables
        rw [upgraded] at found
        split at found <;> cases found
        · rename_i keyed
          exact .rows more keyed
        · exact .nothing
      · cases found
      · cases found
      · cases found
        exact .nothing
  | seed | api => cases handled

/-- A boot that returns leaves its session as it was. -/
theorem boot_watches (program : Startup.BootProgram Unit) : (ofBoot program).Watches (backend P) Later
    (OnOk fun _ _ session _ => session = .empty) past w .empty := by
  have calls : (ofBoot program).Calls fun c => ∃ b, c = .boot b :=
    Prog.calls_rename (Prog.calls_of_forall (fun b => ⟨b, rfl⟩) program)
  refine (Prog.watches_still calls (fun _ => .refl _) .trans ?_).imp fun past' w' session result met => ?_
  · rintro _ w₁ session fate answer w₂ session' ⟨b, rfl⟩ handled
    obtain ⟨installs, kept⟩ := boot_serves handled
    exact ⟨installs.later, kept⟩
  · cases result with
    | ok value => exact met.2.2
    | error err => trivial

/-- A replica that comes up leaves the tables stocked. -/
theorem lifespan_watches (migrates : Bool) : (lifespan migrates).Watches (backend P) Later
    (OnOk fun _ w' _ _ => Stocked w'.db) past w .empty := by
  have seeds : ∀ (past : List (World σ)) (w : World σ), (ofSeeds Startup.lifespan).Watches (backend P) Later
      (OnOk fun _ w' _ _ => Stocked w'.db) past w .empty := by
    intro past w
    refine Prog.Watches.translate seed_serves (seeds_watch.imp fun _ w' _ result met => ?_)
    cases result with
    | ok value => exact met
    | error err => trivial
  cases migrates with
  | false => exact seeds past w
  | true =>
      refine Prog.Watches.bind_ok ((boot_watches _).imp fun past' w' session result met => ?_)
      cases result with
      | ok value =>
          obtain rfl : session = .empty := met
          exact seeds past' w'
      | error err => trivial

end Programs

/-! ## What the requests are refused with -/

section Requests

variable {jwksUrl : String} {request : ApiRequest}

/-- The dependencies refuse a request for its token alone. -/
theorem resolve_error {err : PyErr} (refused : Api.resolve jwksUrl request = .error err) :
    ∃ status detail, (status = 401 ∨ status = 403) ∧ err = .http status detail := by
  by_cases off : jwksUrl = ""
  · have dev : Auth.currentActor request.decode jwksUrl request.authorization = .ok Auth.devActor := if_pos off
    have passed : Auth.requireScope request.decode jwksUrl request.route.requiredScope request.authorization =
        .ok Auth.devActor := if_pos off
    rw [Api.resolve, passed, dev] at refused
    change V1.handler (.ok Auth.devActor) request.route = _ at refused
    cases route : request.route <;> rw [route] at refused <;> cases refused
  · by_cases admits : Scopes.Admits jwksUrl request
    · obtain ⟨handler, resolved, -⟩ := Scopes.resolve_admitted off admits
      cases resolved.symm.trans refused
    · obtain ⟨status, detail, code, resolved⟩ := Scopes.resolve_refused off admits
      exact ⟨status, detail, code, (Except.error.inj (resolved.symm.trans refused)).symm⟩

/-- No GET finds rules missing. -/
theorem seen_available {before after : Db} {route : V1} {result : Except PyErr Response}
    (seen : Reads.Seen before after route result) (detail : String) : result ≠ .error (.http 503 detail) := by
  rintro rfl
  generalize same : (Except.error (.http 503 detail) : Except PyErr Response) = result at seen
  cases seen with
  | inbox page =>
      rw [← same] at page
      obtain ⟨pick, rows, -, ⟨items, built, -⟩ | ⟨failed, -⟩⟩ := page
      · cases built
      · cases failed
  | lost failed =>
      cases same
      rcases failed with failed | failed <;> cases failed
  | _ => cases same

/-- A write is refused with 503 only where rules are missing. -/
theorem refusal_available {db : Db} (stocked : Stocked db) {req : Request} {detail : String} :
    ¬Refusal db req 503 detail := by
  intro refusal
  cases refusal with
  | noRuleset empty => exact stocked.rulesets empty
  | noRateTable empty => exact stocked.rateTables empty

/-- A request that finds rules missing has seen a moment when they were. -/
theorem respond_available (client : ClientErrors P) (request : ApiRequest) (w : World σ) :
    (Api.respond jwksUrl request).Watches (Api.backend P) Later (fun past w _ result =>
      ∀ detail, result = .error (.http 503 detail) → ∃ w' ∈ past ++ [w], ¬Stocked w'.db) [] w .empty := by
  cases part : Api.part jwksUrl request with
  | some req =>
      refine (Refused.respond_refuses client request w).imp fun past w' pending result refuses detail same => ?_
      obtain ⟨w₁, among, refusal⟩ := refuses req part 503 detail same
      exact ⟨w₁, among, fun stocked => refusal_available stocked refusal⟩
  | none =>
      refine (Reads.respond_ends request [] w .empty).imp fun past w' pending result ends detail same => ?_
      rcases ends part with ⟨w₁, -, seen⟩ | ⟨err, refused, failed⟩
      · exact absurd same (seen_available seen detail)
      · obtain ⟨status, told, code, rfl⟩ := resolve_error refused
        rw [failed] at same
        cases same
        rcases code with code | code <;> cases code

end Requests

/-! ## Deployments -/

section Runs

variable {jwksUrl : String}

/-- What a replica that comes up, or a request to one, is held to. -/
def Held : DeployRequest → List (World σ) → World σ → Db → Except BootErr DeployAnswer → Prop
  | .boot _, _, w, _, result => result = .ok .up → Stocked w.db
  | .serve _, past, w, _, result => result ≠ .ok .up ∧
      ∀ detail, result = .error (.other (.http 503 detail)) → ∃ w' ∈ past ++ [w], ¬Stocked w'.db

theorem respond_held (client : ClientErrors P) (req : DeployRequest) (w : World σ) :
    (respond jwksUrl req).Watches (backend P) Later (Held req) [] w .empty := by
  cases req with
  | boot migrates =>
      refine Prog.Watches.bind ((lifespan_watches migrates).imp fun past w' pending result met => ?_)
      cases result with
      | ok value => exact fun _ => met
      | error err => exact fun up => by cases up
  | serve request =>
      refine Prog.Watches.bind (.translate api_serves ((respond_available client request w).imp ?_))
      intro past w' pending result met
      cases result with
      | ok response => exact ⟨nofun, nofun⟩
      | error err =>
          refine ⟨nofun, fun detail same => met detail ?_⟩
          cases same
          rfl

theorem step_later {s s' : DeploySys σ} {choice} (stepped : step (backend P) (requests jwksUrl) s choice = some s') :
    Later s.world s'.world := by
  cases step_cases stepped with
  | start | crash => exact .refl _
  | @run i fate t c rest answer world session at_i next handled =>
      cases c with
      | boot b => exact (boot_serves handled).1.later
      | seed c =>
          obtain ⟨fate, handled⟩ := seed_serves handled
          exact (stated_of_handle handled).installs.later
      | api c =>
          obtain ⟨fate, handled⟩ := api_serves handled
          exact Reads.handled_later handled
  | env e => exact disturb_grows P s.world e

theorem run_later {s s' : DeploySys σ} {ok} (run : Run (backend P) (requests jwksUrl) ok s s') :
    Later s.world s'.world := by
  induction run with
  | refl => exact .refl _
  | tail _ _ stepped ih => exact ih.trans (step_later stepped)

/-- What has ended was held to it, as of the moments since `s₀`. -/
theorem held_run (client : ClientErrors P) {s₀ s : DeploySys σ} (run : Run (backend P) (requests jwksUrl) Served s₀ s)
    {i : ℕ} {t : DeployThread} (at_i : s.threads[i]? = some t) (arrived : s₀.threads.length ≤ i)
    {result : Except BootErr DeployAnswer} (ended : t.ctl.outcome? = some result) :
    result = .error (.other .died) ∨ ∃ past s₁, Visits (backend P) (requests jwksUrl) s₀ past s₁ ∧
      Run (backend P) (requests jwksUrl) anyStep s₁ s ∧ Held t.req past s₁.world t.session result :=
  watched (watches_run (fun _ => .refl _) .trans step_later (respond_held client)
    (run.imp fun _ _ _ => trivial) i t at_i arrived) ended

theorem stocked_of_up (client : ClientErrors P) {w : World σ} {s : DeploySys σ}
    (run : Run (backend P) (requests jwksUrl) Served ⟨w, []⟩ s) (up : s.threads.any isUp) : Stocked s.world.db := by
  obtain ⟨t, member, up⟩ := List.any_eq_true.mp up
  obtain ⟨i, at_i⟩ := List.getElem?_of_mem member
  have ended : t.ctl.outcome? = some (.ok .up) := by
    rw [isUp] at up
    split at up
    · rename_i same
      rw [same]
      rfl
    · cases up
  rcases held_run client run at_i (Nat.zero_le i) ended with died | ⟨past, s₁, -, since, held⟩
  · cases died
  · cases asked : t.req with
    | boot migrates =>
        rw [asked] at held
        exact (held rfl).grows (run_later since)
    | serve request =>
        rw [asked] at held
        exact absurd rfl held.1

/-- Once a replica of a deployment is up, whichever replicas came up at the same time,
    there are an appetite ruleset and a rate table from then on; no request to a replica
    that is up is refused with 503, whatever else is served meanwhile. -/
theorem stocked_before_served (client : ClientErrors P) {w : World σ} {s : DeploySys σ}
    (run : Run (backend P) (requests jwksUrl) Served ⟨w, []⟩ s) :
    (s.threads.any isUp → Stocked s.world.db) ∧
      ∀ t ∈ s.threads, ∀ request detail, t.req = .serve request → t.ctl ≠ .raise (.other (.http 503 detail)) := by
  refine ⟨stocked_of_up client run, fun t member request detail asked refused => ?_⟩
  obtain ⟨i, at_i⟩ := List.getElem?_of_mem member
  obtain ⟨s₁, before, place, served, after⟩ := exists_arrival run at_i (Nat.zero_le i)
  rw [asked] at served
  have stocked := stocked_of_up client before served
  have ended : t.ctl.outcome? = some (.error (.other (.http 503 detail))) := by rw [refused]; rfl
  rcases held_run client after at_i (Nat.le_of_eq place) ended with died | ⟨past, s₂, visits, -, held⟩
  · cases died
  · rw [asked] at held
    obtain ⟨w', among, missing⟩ := held.2 detail rfl
    obtain ⟨s', rfl, since, -⟩ := visits.moments.mem among
    exact missing (stocked.grows (run_later since))

end Runs

/-! ## Deployments and the API -/

section Refinement

variable {jwksUrl : String}

theorem lifespan_aside (migrates : Bool) : (lifespan migrates).Calls (Aside (backend P)) := by
  have boots : (ofBoot Startup.bootstrapDatabase).Calls (Aside (backend P)) := by
    refine Prog.calls_rename (Prog.calls_of_forall (fun c => ?_) _)
    exact fun w session fate answer w' session' handled => (boot_serves handled).1.disturbs P
  have seeds : (ofSeeds Startup.lifespan).Calls (Aside (backend P)) := by
    refine Prog.calls_translate (Prog.calls_of_forall (fun c => ?_) _)
    intro w session fate answer w' session' handled
    obtain ⟨fate, handled⟩ := seed_serves handled
    exact (stated_of_handle handled).installs.disturbs P
  cases migrates with
  | false => exact seeds
  | true => exact boots.bind fun _ => seeds

/-- The API in a deployment. -/
def embedding (P : PasModel σ φ υ) (jwksUrl : String) :
    Embedding (Api.backend P) (backend P) (Api.respond jwksUrl) (respond jwksUrl) where
  call := .api
  reply _ reply := reply
  up := .other
  down := below
  wrap := .response
  part := DeployRequest.api?
  fresh := rfl
  disturb := rfl
  serves := api_serves
  embeds {req' req} found := by
    cases req' with
    | serve request =>
        cases found
        rfl
    | boot migrates => cases found
  rests {req'} missing := by
    cases req' with
    | serve request => cases missing
    | boot migrates => exact (lifespan_aside migrates).bind fun _ => trivial

/-- A request to a deployment beside the same request to the API. -/
structure Serves (t : DeployThread) (u : ApiThread) : Prop where
  request : t.req = .serve u.req
  session : t.session = u.session
  outcome : t.ctl.outcome? = u.ctl.outcome?.map fun result => (result.map .response).mapError .other

/-- Every run of a deployment, its replicas left out, is one of the API over the same
    store: what they install, its environment installs there. -/
theorem deployment_refines {w : World σ} {s : DeploySys σ}
    (run : Run (backend P) (requests jwksUrl) anyStep ⟨w, []⟩ s) :
    ∃ r : ApiSys σ, Run (Api.backend P) (Api.requests jwksUrl) anyStep ⟨w, []⟩ r ∧ r.world = s.world ∧
      List.Forall₂ Serves (s.threads.filter fun t => t.req.api?.isSome) r.threads := by
  obtain ⟨r, reached, within⟩ :=
    Embedding.within_run (E := embedding P jwksUrl) (r := ⟨w, []⟩) run ⟨rfl, .nil⟩
  refine ⟨r, reached, within.world, within.threads.forall₂.imp fun t u runs => ?_⟩
  refine ⟨?_, runs.session, runs.outcome⟩
  have part : t.req.api? = some u.req := runs.part
  cases asked : t.req with
  | serve request =>
      rw [asked] at part
      cases part
      rfl
  | boot migrates =>
      rw [asked] at part
      cases part

end Refinement

/-! ## A first installation -/

def install : Backend DeployReply BootErr (World (List Lifecycle.Policy)) Db (DeployFate Lifecycle.Reaction)
    (Env Lifecycle.UserAct) :=
  backend (Lifecycle.model Lifecycle.byNumber)

/-- A call of a startup that succeeds. -/
def succeeds : DeployFate Lifecycle.Reaction := .boot (.answer (.ok ()))

/-- A look into a table by a seed. -/
def looks : DeployFate Lifecycle.Reaction := .seed (some (.read 0))

def inserts (id : String) : DeployFate Lifecycle.Reaction := .seed (some (.stamp ⟨id, 0⟩))

/-- Two replicas come up together. The first waits out one refused connection and migrates
    an empty database; both find no version 2 of the rate table, and the other's own one is
    a duplicate by the time it inserts it. Then `bob` creates a file and has it assessed. -/
def firstInstall : List (Choice DeployRequest (DeployFate Lifecycle.Reaction) (Env Lifecycle.UserAct)) :=
  [.start (.boot true), .start (.boot true)] ++
    [.boot (.answer (.error .operational)), succeeds, succeeds, succeeds, .boot (.upgrade 0 0), looks, looks, looks].map
      (.run 0) ++
    [succeeds, succeeds, .boot (.upgrade 4 0), looks, looks, looks].map (.run 1) ++
    [inserts "t2", .seed (some .commit)].map (.run 0) ++ [.run 1 (inserts "t3")] ++
    [.start (.serve (Endpoints.asked "bob" (.createSubmission Scenario.payload)))] ++
    [Scenario.insert "c" 1, Scenario.insert "s" 2, Scenario.insert "created" 3, .commit, Scenario.read].map
      (fun fate => .run 2 (.api fate)) ++
    [.start (.serve (Endpoints.asked "bob" (.assessSubmission "s")))] ++
    [Scenario.read, Scenario.read, Scenario.read, Scenario.insert "d" 4, Scenario.insert "assessed" 5, .commit,
      Scenario.read].map (fun fate => .run 3 (.api fate))

def isAssessed (t : DeployThread) : Bool :=
  match t.ctl with
  | .ret (.response (.written (.decision row))) => row.submissionId == "s"
  | _ => false

def isDuplicate (t : DeployThread) : Bool :=
  match t.ctl with
  | .raise (.other .integrity) => true
  | _ => false

theorem firstInstall_run : ∃ s : DeploySys (List Lifecycle.Policy),
    Run install (requests "jwks") Served ⟨.initial [], []⟩ s ∧ s.threads.any isUp ∧ s.threads.any isDuplicate ∧
      s.threads.any isAssessed := by
  obtain ⟨s, run, checked⟩ := exists_run install (requests "jwks") Served ⟨.initial [], []⟩ firstInstall
    (fun s => s.threads.any isUp && s.threads.any isDuplicate && s.threads.any isAssessed) (by decide +kernel)
  simp only [Bool.and_eq_true] at checked
  obtain ⟨⟨up, duplicate⟩, assessed⟩ := checked
  exact ⟨s, run, up, duplicate, assessed⟩

theorem firstInstall_served : ∃ s : DeploySys (List Lifecycle.Policy), s.threads.any isDuplicate ∧
    s.threads.any isAssessed ∧ Stocked s.world.db ∧
      ∀ t ∈ s.threads, ∀ request detail, t.req = .serve request → t.ctl ≠ .raise (.other (.http 503 detail)) := by
  obtain ⟨s, run, up, duplicate, assessed⟩ := firstInstall_run
  obtain ⟨stocked, available⟩ := stocked_before_served (Answered.lifecycle_client _) run
  exact ⟨s, duplicate, assessed, stocked up, available⟩

theorem firstInstall_refines : ∃ s : DeploySys (List Lifecycle.Policy), s.threads.any isDuplicate ∧
    s.threads.any isAssessed ∧ ∃ r : ApiSys (List Lifecycle.Policy),
      Run Endpoints.apiService (Api.requests "jwks") anyStep ⟨.initial [], []⟩ r ∧ r.world = s.world ∧
        List.Forall₂ Serves (s.threads.filter fun t => t.req.api?.isSome) r.threads := by
  obtain ⟨s, run, -, duplicate, assessed⟩ := firstInstall_run
  obtain ⟨r, reached, world, serves⟩ := deployment_refines (run.imp fun _ _ _ => trivial)
  exact ⟨s, duplicate, assessed, r, reached, world, serves⟩

end Underwriting.Deployment
