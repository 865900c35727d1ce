import Underwriting.Bind.Token
import Underwriting.Lib.Journal

/-! # Tokens that are served

Whatever the token endpoint answers and however often it fails, a call that makes no
fetch returns the token of the last fetch that succeeded, while more than the skew of
its lifetime is left. The two cached fields always come from one fetch.
-/

namespace Underwriting.Tokens

open Journal
open Lists (IsLast isLast_snoc)

/-- An answer grants a token for a lifetime: 300 s where it names none. -/
inductive Grants (raiseForStatus : StatusCheck) : Except PyErr TokenResponse → String → PyFloat → Prop where
  | timed {resp fields value ttl lifetime} (accepted : raiseForStatus resp = .ok ())
      (body : resp.body = some (.obj fields)) (token : fields.lookup "access_token" = some value)
      (named : fields.lookup "expires_in" = some ttl) (number : floatOf ttl = .ok lifetime) :
      Grants raiseForStatus (.ok resp) value.toText lifetime
  | untimed {resp fields value} (accepted : raiseForStatus resp = .ok ())
      (body : resp.body = some (.obj fields)) (token : fields.lookup "access_token" = some value)
      (unnamed : fields.lookup "expires_in" = none) :
      Grants raiseForStatus (.ok resp) value.toText (.finite 300)

/-- One call of `token` in a sequence of them. -/
abbrev TokenUse := Entry TokenCache Visit TokenOutcome

/-- A fetch that succeeded. -/
structure Succeeded (e : TokenUse) : Prop where
  fetched : e.output.posts ≠ []
  returned : e.output.result.isOk

/-- What a call may do after the earlier ones. -/
structure Truthful (self : ClientCredentialsTokenProvider) (raiseForStatus : StatusCheck) (earlier : List TokenUse)
    (e : TokenUse) : Prop where
  served : e.output.posts = [] → ∃ f token lifetime, IsLast Succeeded earlier f ∧
    Grants raiseForStatus f.input.answer token lifetime ∧ f.output.result = .ok token ∧ e.output.result = .ok token ∧
    f.input.now ≤ e.input.now ∧ (PyFloat.finite (e.input.now - f.input.now)).lt (lifetime.sub (.finite 30))
  fetched : e.output.posts ≠ [] → e.output.posts = [self.request] ∧
    ((∃ token lifetime, Grants raiseForStatus e.input.answer token lifetime ∧ e.output.result = .ok token) ∨
      (∃ err, e.output.result = .error err) ∧ ¬∃ token lifetime, Grants raiseForStatus e.input.answer token lifetime)
  kept : ∀ err, e.output.result = .error err → e.after = e.before

variable {raiseForStatus : StatusCheck} {answer : Except PyErr TokenResponse} {token : String} {lifetime : PyFloat}

/-- What is read of an object whose token is there. -/
theorem readToken_obj {resp : TokenResponse} {fields : List (String × Json)} {value : Json}
    (accepted : raiseForStatus resp = .ok ()) (body : resp.body = some (.obj fields))
    (token : fields.lookup "access_token" = some value) :
    readToken raiseForStatus resp =
      (floatOf ((fields.lookup "expires_in").getD defaultTtlSeconds)).map fun ttl => (value.toText, ttl) := by
  simp only [readToken, accepted, PolicyClient.json, body]
  have found : item (.obj fields) "access_token" = .ok value := by
    simp only [item, Json.field?, token]
  have looked : get (.obj fields) "expires_in" defaultTtlSeconds =
      .ok ((fields.lookup "expires_in").getD defaultTtlSeconds) := rfl
  change (item (.obj fields) "access_token" >>= fun accessToken =>
    get (.obj fields) "expires_in" defaultTtlSeconds >>= fun ttl => _) = _
  rw [found, looked]
  change (floatOf _ >>= fun ttl => pure (value.toText, ttl)) = _
  cases floatOf ((fields.lookup "expires_in").getD defaultTtlSeconds) <;> rfl

theorem Grants.read (grants : Grants raiseForStatus answer token lifetime) :
    answer >>= readToken raiseForStatus = .ok (token, lifetime) := by
  cases grants with
  | timed accepted body token named number =>
      apply (readToken_obj accepted body token).trans
      rw [named, Option.getD_some, number]
      rfl
  | untimed accepted body token unnamed =>
      apply (readToken_obj accepted body token).trans
      rw [unnamed]
      rfl

theorem Grants.of_read (read : answer >>= readToken raiseForStatus = .ok (token, lifetime)) :
    Grants raiseForStatus answer token lifetime := by
  obtain ⟨resp, rfl, granted⟩ := bind_ok read
  change readToken raiseForStatus resp = _ at read
  obtain ⟨_, accepted, rest⟩ := bind_ok granted
  obtain ⟨body, decoded, rest⟩ := bind_ok rest
  obtain ⟨value, taken, -⟩ := bind_ok rest
  obtain ⟨fields, rfl, found⟩ := item_ok taken
  have body := PolicyClient.json_ok decoded
  rw [readToken_obj accepted body found] at read
  cases named : fields.lookup "expires_in" with
  | none =>
      rw [named] at read
      cases read
      exact .untimed accepted body found named
  | some ttl =>
      rw [named, Option.getD_some] at read
      cases number : floatOf ttl with
      | error err =>
          rw [number] at read
          cases read
      | ok seconds =>
          rw [number] at read
          cases read
          exact .timed accepted body found named number

/-! ## The sequence of calls -/

/-- The cache is as it was made, or holds what the last fetch that succeeded was granted. -/
inductive Kept (raiseForStatus : StatusCheck) (past : List TokenUse) : TokenCache → Prop where
  | empty (none : ∀ f ∈ past, ¬Succeeded f) : Kept raiseForStatus past {}
  | granted {f token lifetime} (last : IsLast Succeeded past f)
      (grants : Grants raiseForStatus f.input.answer token lifetime) (returned : f.output.result = .ok token) :
      Kept raiseForStatus past ⟨some token, (PyFloat.finite f.input.now).add lifetime⟩

variable {self : ClientCredentialsTokenProvider} {past : List TokenUse} {cache : TokenCache} {e : TokenUse}

theorem Kept.snoc (kept : Kept raiseForStatus past cache) (other : ¬Succeeded e) :
    Kept raiseForStatus (past ++ [e]) cache := by
  cases kept with
  | empty none =>
      apply Kept.empty
      exact Lists.forall_mem_snoc none other
  | granted last grants returned => exact .granted (last.snoc other) grants returned

/-- A kept token comes from the last fetch that succeeded, and is not yet stale. -/
theorem Kept.fresh (kept : Kept raiseForStatus past cache) {now : ℚ} {token : String} (holds : cache.Holds now token) :
    ∃ f lifetime, IsLast Succeeded past f ∧ Grants raiseForStatus f.input.answer token lifetime ∧
      f.output.result = .ok token ∧ (PyFloat.finite (now - f.input.now)).lt (lifetime.sub (.finite 30)) := by
  obtain ⟨held, fresh⟩ := holds
  cases kept with
  | empty => cases held
  | granted last grants returned =>
      cases held
      rw [PyFloat.lt_add_sub] at fresh
      exact ⟨_, _, last, grants, returned, fresh⟩

/-- A call serves what is kept, or fetches. -/
theorem truthful (kept : Kept raiseForStatus past cache) {visit : Visit}
    (later : ∀ f ∈ past, f.input.now ≤ visit.now) {ended : TokenOutcome × TokenCache}
    (answered : self.Answered raiseForStatus cache visit ended) :
    Truthful self raiseForStatus past ⟨cache, visit, ended.1, ended.2⟩ := by
  constructor
  · intro unfetched
    cases answered with
    | served holds =>
        obtain ⟨f, lifetime, last, grants, returned, fresh⟩ := kept.fresh holds
        exact ⟨f, _, lifetime, last, grants, returned, rfl, later f last.mem, fresh⟩
    | fetched | failed => cases unfetched
  · intro fetches
    cases answered with
    | served => exact absurd rfl fetches
    | fetched stale read => exact ⟨rfl, .inl ⟨_, _, .of_read read, rfl⟩⟩
    | failed stale read =>
        refine ⟨rfl, .inr ⟨⟨_, rfl⟩, ?_⟩⟩
        rintro ⟨token, lifetime, grants⟩
        cases read.symm.trans grants.read
  · intro err raised
    cases answered with
    | served | fetched => cases raised
    | failed => rfl

/-- The two fields are set by one fetch or left alone. -/
theorem Kept.next (kept : Kept raiseForStatus past cache) {visit : Visit} {ended : TokenOutcome × TokenCache}
    (answered : self.Answered raiseForStatus cache visit ended) :
    Kept raiseForStatus (past ++ [⟨cache, visit, ended.1, ended.2⟩]) ended.2 := by
  cases answered with
  | served =>
      apply kept.snoc
      exact fun succeeded => succeeded.fetched rfl
  | fetched stale read => exact .granted (isLast_snoc ⟨List.cons_ne_nil _ _, rfl⟩) (.of_read read) rfl
  | failed =>
      apply kept.snoc
      rintro ⟨-, returned⟩
      cases returned

/-- Whatever the fetches come to, in calls at times in order: a call without a fetch
    returns the token of the last fetch that succeeded, less than its lifetime minus
    30 s after it; any other call makes one fetch and returns its token or raises; and
    one that raises leaves the cache as it was. -/
theorem never_stale (self : ClientCredentialsTokenProvider) (raiseForStatus : StatusCheck) (visits : List Visit)
    (ordered : visits.Pairwise fun first second => first.now ≤ second.now) {earlier rest : List TokenUse} {e : TokenUse}
    (split : journal (self.answer raiseForStatus) {} visits = earlier ++ e :: rest) :
    Truthful self raiseForStatus earlier e := by
  have initially : Kept raiseForStatus [] {} := .empty fun _ member => absurd member List.not_mem_nil
  apply journal_satisfies ?_ initially ordered split
  intro past cache visit kept later
  have answered := self.answer_cases raiseForStatus cache visit
  exact ⟨truthful kept later answered, kept.next answered⟩

/-- A token for 60 s is served after 29 s; after 30 s it is fetched again, here in vain. -/
theorem fetched_again :
    let provider : ClientCredentialsTokenProvider := ⟨"https://auth/token", "uw", "secret", "policy:write", 10⟩
    let check : StatusCheck := fun resp =>
      if 200 ≤ resp.statusCode ∧ resp.statusCode < 300 then .ok () else .error .outage
    let first := entry (provider.answer check) {}
      ⟨1000, .ok ⟨200, some (.obj [("access_token", .str "t"), ("expires_in", .int 60)]), ""⟩⟩
    let second := entry (provider.answer check) first.after ⟨1029, .error .outage⟩
    let third := entry (provider.answer check) second.after ⟨1030, .ok ⟨503, none, "unavailable"⟩⟩
    second.output.posts = [] ∧ third.output.posts = [provider.request] ∧
      Truthful provider check [first] second ∧ Truthful provider check [first, second] third := by
  intro provider check first second third
  constructor
  · decide +kernel
  constructor
  · decide +kernel
  constructor
  · exact never_stale provider check [first.input, second.input] (by decide +kernel) rfl
  · exact never_stale provider check [first.input, second.input, third.input] (by decide +kernel) rfl

end Underwriting.Tokens
