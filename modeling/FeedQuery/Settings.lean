import FeedQuery.Session.Step
import FeedQuery.Text
import FeedQuery.Text.Printable

/-!
# Settings

A setting comes from a flag, or else from the environment, where an empty value counts as none, or
else from a default. Base URLs lose the slashes at their end, and the number of records to ask for
is brought between 1 and 100 (`resolveLimit`). An account is used only when both its name and its
password are given.
-/

namespace FeedQuery

/-- The variables of an environment. -/
abbrev Environment := List (String × String)

/-- The value of a variable. -/
def Environment.get? (env : Environment) (name : String) : Option String :=
  (env.find? (·.1 == name)).map (·.2)

/-- The flags of a command line. -/
structure Flags where
  /-- The base URL of the public host. -/
  service : Option String
  /-- The base URL of the account's host. -/
  authService : Option String
  identifier : Option String
  password : Option String
  limit : Option Nat
  /-- What becomes of lists in records. -/
  policy : ArrayPolicy
  /-- Whether a query that anything is wrong with is refused. -/
  strict : Bool

/-- The settings of a run. -/
structure Settings where
  /-- The base URL of the public host. -/
  service : String
  /-- The base URL of the account's host. -/
  authService : String
  /-- The account to sign in with. -/
  credentials : Option Credentials
  limit : Nat
  /-- How queries are read and shown. -/
  options : QueryOptions

namespace Settings

/-- The public host when none is given. -/
def defaultService : String := "https://public.api.bsky.app"

/-- The account's host when none is given. -/
def defaultAuthService : String := "https://bsky.social"

/-- The number of records to ask for when none is given. -/
def defaultLimit : Nat := 50

/-- The greatest number of records to ask for. -/
def maxLimit : Nat := 100

/-- The number of times that a request may be repeated. -/
def maxRetries : Nat := 2

/-- A setting from a flag, or else from the environment. -/
def resolve? (env : Environment) (explicit : Option String) (name : String) : Option String :=
  match explicit with
  | some value => some value
  | none => (env.get? name).bind fun value => if value = "" then none else some value

/-- A base URL from a flag, the environment or a default, without slashes at its end. -/
def resolveUrl (env : Environment) (explicit : Option String) (name default : String) : String :=
  Text.trimEndOf '/' ((resolve? env explicit name).getD default)

/-- The base URL of the public host. -/
def resolveService (env : Environment) (explicit : Option String) : String :=
  resolveUrl env explicit "SKYQL_SERVICE" defaultService

/-- The base URL of the account's host. -/
def resolveAuthService (env : Environment) (explicit : Option String) : String :=
  resolveUrl env explicit "SKYQL_AUTH_SERVICE" defaultAuthService

/-- A number of records brought between 1 and the greatest one. -/
def clampLimit (limit : Nat) : Nat := max 1 (min limit maxLimit)

/-- The number of records to ask for; a variable that is no number counts as none. -/
def resolveLimit (env : Environment) (explicit : Option Nat) : Nat :=
  let fromEnv := (env.get? "SKYQL_LIMIT").bind (Text.unsigned? Text.maxWord32)
  clampLimit ((explicit.or fromEnv).getD defaultLimit)

/-- The account to sign in with. -/
def resolveCredentials (env : Environment) (flags : Flags) : Option Credentials := do
  let identifier ← resolve? env flags.identifier "SKYQL_IDENTIFIER"
  let password ← resolve? env flags.password "SKYQL_PASSWORD"
  return ⟨identifier, password⟩

/-- The settings for flags in an environment. -/
def resolve (env : Environment) (flags : Flags) : Settings where
  service := resolveService env flags.service
  authService := resolveAuthService env flags.authService
  credentials := resolveCredentials env flags
  limit := resolveLimit env flags.limit
  options := ⟨flags.policy, flags.strict⟩

/-- The settings for a single host and no account. -/
def forService (url : String) : Settings where
  service := Text.trimEndOf '/' url
  authService := Text.trimEndOf '/' url
  credentials := none
  limit := defaultLimit
  options := ⟨.skip, false⟩

/-- The session that settings start with. -/
def session (s : Settings) : Session :=
  .anonymous s.service s.authService s.limit maxRetries

/-- The file of the lines entered before, in the home directory or else in the working one. -/
def historyPath (env : Environment) : String :=
  let home := ((env.get? "HOME").or (env.get? "USERPROFILE")).getD "."
  if home = "" || home.toList.getLast? == some '/' then home ++ ".skyql_history"
  else home ++ "/.skyql_history"

end Settings

/-- Credentials for the eye: without the password. -/
def Credentials.redacted (c : Credentials) : String :=
  "Credentials \x7b identifier: " ++ Text.quoted c.identifier ++
    ", password: \"<redacted>\" \x7d"

end FeedQuery
