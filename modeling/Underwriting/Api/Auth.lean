import Underwriting.Errors
import Underwriting.Lib.Text

/-! # Scopes and actors

`app/api/auth.py`: the two dependencies that read the bearer token, `require_scope`
and `current_actor`. PyJWT is a parameter: `decode token jwksUrl` has the claims of
a token that verifies, or the exception it raises.
-/

namespace Underwriting

/-- The claims dictionary of a token. -/
abbrev Claims := List (String × Json)

/-- What PyJWT raises. -/
inductive TokenError where
  /-- `ExpiredSignatureError` -/
  | expired
  /-- any other `PyJWTError` -/
  | invalid
  deriving DecidableEq, Repr

abbrev Decode := String → String → Except TokenError Claims

namespace Auth

/-- The actor when auth is off. -/
def devActor : String := "underwriter@ktayl"

/-- The token of the header `Authorization: Bearer <jwt>`. -/
def bearerToken (header : Option String) : Except PyErr String :=
  let header := header.getD ""
  if "Bearer ".toList.isPrefixOf header.toList then .ok (String.ofList (header.toList.drop "Bearer ".length))
  else .error (.http 401 "Authorization: Bearer header required")

/-- The first of the claims that is present and not empty. -/
def firstClaim (claims : Claims) : List String → String
  | [] => "unknown"
  | key :: rest =>
      match claims.lookup key with
      | some value => if value.truthy then value.toText else firstClaim claims rest
      | none => firstClaim claims rest

def actorKeys : List String := ["preferred_username", "email", "sub"]

def actorFromClaims (claims : Claims) : String := firstClaim claims actorKeys

/-- The words of the claim `scope`; one that is no text has none. -/
def scopesFromClaims (claims : Claims) : List String :=
  match (claims.lookup "scope").getD (.str "") with
  | .str scope => Unicode.split scope
  | _ => []

def currentActor (decode : Decode) (jwksUrl : String) (header : Option String) : Except PyErr String :=
  if jwksUrl = "" then .ok devActor
  else do
    let token ← bearerToken header
    match decode token jwksUrl with
    | .ok claims => return actorFromClaims claims
    | .error _ => .error (.http 401 "token validation failed")

def requireScope (decode : Decode) (jwksUrl required : String) (header : Option String) : Except PyErr String :=
  if jwksUrl = "" then .ok devActor
  else do
    let token ← bearerToken header
    match decode token jwksUrl with
    | .ok claims =>
        if required ∈ scopesFromClaims claims then return actorFromClaims claims
        else .error (.http 403 ("required scope: " ++ required))
    | .error .expired => .error (.http 401 "token has expired")
    | .error .invalid => .error (.http 401 "token validation failed")

theorem bearerToken_ok_iff {header : Option String} {token : String} :
    bearerToken header = .ok token ↔ header = some ("Bearer " ++ token) := by
  constructor
  · intro found
    simp only [bearerToken] at found
    split at found
    · rename_i opens
      cases header with
      | none => cases opens
      | some text =>
          obtain ⟨rest, same⟩ := List.isPrefixOf_iff_prefix.mp opens
          obtain rfl := Except.ok.inj found
          have split : text.toList = "Bearer ".toList ++ rest := same.symm
          have token : text.toList.drop "Bearer ".length = rest := by
            rw [split]
            exact List.drop_left
          rw [Option.getD_some, token]
          refine congrArg some (String.toList_inj.mp ?_)
          rw [String.toList_append, split]
          exact congrArg ("Bearer ".toList ++ ·) String.toList_ofList.symm
    · cases found
  · rintro rfl
    have opens : "Bearer ".toList.isPrefixOf ("Bearer " ++ token).toList = true := by
      rw [String.toList_append]
      exact List.isPrefixOf_iff_prefix.mpr (List.prefix_append _ _)
    have rest : ("Bearer " ++ token).toList.drop "Bearer ".length = token.toList := by
      rw [String.toList_append]
      exact List.drop_left
    rw [bearerToken, Option.getD_some, if_pos opens, rest, String.ofList_toList]

/-- Without a bearer token the answer is 401. -/
theorem bearerToken_error {header : Option String} {err : PyErr} (failed : bearerToken header = .error err) :
    err = .http 401 "Authorization: Bearer header required" := by
  simp only [bearerToken] at failed
  split at failed <;> cases failed
  rfl

end Auth

end Underwriting
