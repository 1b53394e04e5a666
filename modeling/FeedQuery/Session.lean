import FeedQuery.Http
import FeedQuery.Json.Parser
import FeedQuery.Text
import FeedQuery.Text.Encoding
import FeedQuery.Timestamp

/-!
# Sessions

A session talks to the service for one account or for none: it asks by calls (`Call`) and watches
the expiry of its token (`AccessToken.expiry?`).
-/

namespace FeedQuery.AccessToken

/-!
## Access tokens

An access token is a text in parts between dots. Its second part holds claims: a JSON object in
base 64, of which `exp` is the time when the token expires (`AccessToken.expiry?`). A token that
does not hold such a time counts as one that does not expire.
-/

/-- The text that a part holds; padding at its end is passed over. -/
def payload? (part : List Char) : Option String :=
  (Text.Base64Url.decode? (Text.dropEndWhile (· == '=') part)).bind fun bytes =>
    String.fromUTF8? ⟨bytes.toArray⟩

/-- The greatest number of a signed 64-bit word. -/
def maxSigned64 : Int := Int.pow 2 63 - 1

/-- The time of expiry that claims name: an integer that a signed 64-bit word holds, and a point in
time of the calendar. -/
def expiryIn? (claims : Json.Value) : Option Int := do
  let seconds ← (← claims.get? "exp").int?
  if seconds ≤ maxSigned64 && Timestamp.inCalendar seconds then some seconds else none

/-- The time when a token expires, in seconds since the start of 1970. -/
def expiry? (token : String) : Option Int := do
  let text ← payload? (← (Text.parts (· == '.') token.toList)[1]?)
  expiryIn? (← Json.parse? text)

end FeedQuery.AccessToken

namespace FeedQuery

/-!
## Operations and their parameters

A call is an operation that asks for data, with its parameters in order. Most operations answer in
pages and take the size of a page and the place where it starts (`Page`).
-/

/-- An operation that asks for data, with its parameters. -/
structure Call where
  /-- The name of the operation. -/
  operation : String
  /-- The parameters, in order; empty ones are not sent. -/
  params : List (String × String)
deriving DecidableEq

/-- Which records to ask for. -/
structure Page where
  limit : Nat
  /-- Where the page starts, when it is not the first. -/
  cursor : Option String
deriving DecidableEq

/-- The first page. -/
def Page.first (limit : Nat) : Page := ⟨limit, none⟩

/-- A page as parameters. -/
def Page.params (p : Page) : List (String × String) :=
  [("limit", toString p.limit), ("cursor", p.cursor.getD "")]

/-- What posts to search for. -/
structure PostSearch where
  q : String
  sort : Option String
  since : Option String
  before : Option String
  mentions : Option String
  author : Option String
  tag : Option String
deriving DecidableEq

/-- A search for words. -/
def PostSearch.ofWords (q : String) : PostSearch := ⟨q, none, none, none, none, none, none⟩

/-- A search as parameters. -/
def PostSearch.params (s : PostSearch) : List (String × String) :=
  [("q", s.q), ("sort", s.sort.getD ""), ("since", s.since.getD ""), ("until", s.before.getD ""),
    ("mentions", s.mentions.getD ""), ("author", s.author.getD ""), ("tag", s.tag.getD "")]

namespace Call

/-- The preferences of the account. -/
def preferences : Call := ⟨"app.bsky.actor.getPreferences", []⟩

/-- The profile of an actor. -/
def profile (actor : String) : Call := ⟨"app.bsky.actor.getProfile", [("actor", actor)]⟩

/-- Suggested accounts. -/
def suggestions (page : Page) : Call := ⟨"app.bsky.actor.getSuggestions", page.params⟩

/-- The accounts that words describe. -/
def searchActors (q : String) (page : Page) : Call :=
  ⟨"app.bsky.actor.searchActors", ("q", q) :: page.params⟩

/-- The posts that an actor likes. -/
def actorLikes (actor : String) (page : Page) : Call :=
  ⟨"app.bsky.feed.getActorLikes", ("actor", actor) :: page.params⟩

/-- The posts of an actor. -/
def authorFeed (actor : String) (page : Page) : Call :=
  ⟨"app.bsky.feed.getAuthorFeed", ("actor", actor) :: page.params⟩

/-- The posts of a custom feed. -/
def feed (feed : String) (page : Page) : Call :=
  ⟨"app.bsky.feed.getFeed", ("feed", feed) :: page.params⟩

/-- The feeds that an actor made. -/
def actorFeeds (actor : String) (page : Page) : Call :=
  ⟨"app.bsky.feed.getActorFeeds", ("actor", actor) :: page.params⟩

/-- Suggested feeds. -/
def suggestedFeeds (page : Page) : Call := ⟨"app.bsky.feed.getSuggestedFeeds", page.params⟩

/-- The home timeline of the account. -/
def timeline (page : Page) : Call := ⟨"app.bsky.feed.getTimeline", page.params⟩

/-- The posts that a search describes. -/
def searchPosts (search : PostSearch) (page : Page) : Call :=
  ⟨"app.bsky.feed.searchPosts", search.params ++ page.params⟩

/-- The accounts that follow an actor. -/
def followers (actor : String) (page : Page) : Call :=
  ⟨"app.bsky.graph.getFollowers", ("actor", actor) :: page.params⟩

/-- The accounts that an actor follows. -/
def follows (actor : String) (page : Page) : Call :=
  ⟨"app.bsky.graph.getFollows", ("actor", actor) :: page.params⟩

/-- The accounts that follow an actor and that the account follows. -/
def mutualFollowers (actor : String) (page : Page) : Call :=
  ⟨"app.bsky.graph.getKnownFollowers", ("actor", actor) :: page.params⟩

end Call

/-!
## Signing in and asking

A session talks to the service for one account or for none. Anonymous requests go to the public
host, all others to the account's host with its access token. `Session.get` refreshes a token that
is about to expire before it is used, and once more when the service says that it has expired.
Signing in and refreshing change the session only when they succeed.
-/

/-- What an account is signed in with. -/
structure AuthTokens where
  /-- The token that authorizes requests. -/
  access : String
  /-- The token that authorizes a refresh. -/
  refresh : String
  /-- The permanent name of the account. -/
  did : String
  /-- The name of the account, possibly empty. -/
  handle : String
deriving DecidableEq

namespace AuthTokens

/-- The name of the account in an answer; a missing one is empty. -/
def handleIn? (answer : Json.Value) : Option String :=
  match answer.get? "handle" with
  | none => some ""
  | some v => v.str?

/-- Reads an answer that signs an account in: an object, or the bare values in order. -/
def ofValue? : Json.Value → Option AuthTokens
  | .obj members => do
    let answer := Json.Value.obj members
    let access ← answer.text? "accessJwt"
    let refresh ← answer.text? "refreshJwt"
    let did ← answer.text? "did"
    let handle ← handleIn? answer
    return ⟨access, refresh, did, handle⟩
  | .arr [.str access, .str refresh, .str did] => some ⟨access, refresh, did, ""⟩
  | .arr [.str access, .str refresh, .str did, .str handle] => some ⟨access, refresh, did, handle⟩
  | _ => none

end AuthTokens

/-- A name and a password. -/
structure Credentials where
  identifier : String
  password : String
deriving DecidableEq

/-- What is sent to sign in. -/
def Credentials.toValue (c : Credentials) : Json.Value :=
  .obj [("identifier", .str c.identifier), ("password", .str c.password)]

/-- A session with the service. -/
structure Session where
  /-- The base URL of the public host. -/
  service : String
  /-- The base URL of the account's host. -/
  authService : String
  /-- The number of records to ask for. -/
  limit : Nat
  /-- The number of times that a request may be repeated. -/
  maxRetries : Nat
  /-- What the account is signed in with, if it is. -/
  auth : Option AuthTokens

/-- What a step comes to: its result, the session after it, and the network after it. -/
structure Turn (α : Type) where
  result : Except SessionError α
  session : Session
  network : Network

/-- The same step with another form of its result. -/
def Turn.map {α β : Type} (f : α → β) (t : Turn α) : Turn β :=
  ⟨t.result.map f, t.session, t.network⟩

namespace Session

/-- A session without an account. -/
def anonymous (service authService : String) (limit maxRetries : Nat) : Session :=
  ⟨service, authService, limit, maxRetries, none⟩

/-- Whether an account is signed in. -/
def isAuthenticated (s : Session) : Bool := s.auth.isSome

/-- The host that requests go to. -/
def host (s : Session) : String := if s.isAuthenticated then s.authService else s.service

/-- The name of the account. -/
def handle? (s : Session) : Option String := s.auth.map (·.handle)

/-- The permanent name of the account. -/
def did? (s : Session) : Option String := s.auth.map (·.did)

/-- The time when the access token expires. -/
def expiry? (s : Session) : Option Int := s.auth.bind fun a => AccessToken.expiry? a.access

/-- The same session with another number of records to ask for. -/
def withLimit (s : Session) (limit : Nat) : Session := { s with limit }

/-- The session without its account. -/
def logout (s : Session) : Session := { s with auth := none }

/-- The operation that signs in. -/
def createSession : String := "com.atproto.server.createSession"

/-- The operation that refreshes the tokens. -/
def refreshSession : String := "com.atproto.server.refreshSession"

/-- The request that signs in. -/
def loginRequest (s : Session) (creds : Credentials) : Request :=
  ⟨.post, s.authService, createSession, [], none, some creds.toValue⟩

/-- The request that refreshes the tokens. -/
def refreshRequest (s : Session) (a : AuthTokens) : Request :=
  ⟨.post, s.authService, refreshSession, [], some a.refresh, none⟩

/-- The request for the data of an operation. -/
def getRequest (s : Session) (call : Call) : Request :=
  ⟨.get, s.host, call.operation, Request.sentParams call.params, s.auth.map (·.access), none⟩

/-- Signs in. -/
def login (s : Session) (creds : Credentials) (n : Network) : Turn Unit :=
  let (result, n) := Client.send s.maxRetries (s.loginRequest creds) n
  match result with
  | .error e => ⟨.error e.asRefusal, s, n⟩
  | .ok answer =>
    match AuthTokens.ofValue? answer with
    | none => ⟨.error (.auth (.unreadable "createSession")), s, n⟩
    | some tokens => ⟨.ok (), { s with auth := some tokens }, n⟩

/-- Replaces the tokens by fresh ones; an empty name keeps the one known before. -/
def refresh (s : Session) (n : Network) : Turn Unit :=
  match s.auth with
  | none => ⟨.error (.auth .notLoggedIn), s, n⟩
  | some old =>
    let (result, n) := Client.send s.maxRetries (s.refreshRequest old) n
    match result with
    | .error e => ⟨.error e, s, n⟩
    | .ok answer =>
      match AuthTokens.ofValue? answer with
      | none => ⟨.error (.auth (.unreadable "refreshSession")), s, n⟩
      | some tokens =>
        let handle := if tokens.handle = "" then old.handle else tokens.handle
        ⟨.ok (), { s with auth := some { tokens with handle } }, n⟩

/-- A token is refreshed when it has less than so many milliseconds left. -/
def refreshMargin : Int := 60000

/-- Whether the access token has expired or is about to. -/
def isStale (s : Session) (n : Network) : Bool :=
  s.expiry?.any fun seconds => seconds * 1000 - n.now < refreshMargin

/-- Refreshes the tokens if that is due. -/
def ensureFresh (s : Session) (n : Network) : Turn Unit :=
  if s.isStale n then s.refresh n else ⟨.ok (), s, n⟩

/-- Asks once for the data of an operation. -/
def fetch (s : Session) (call : Call) (n : Network) : Turn Json.Value :=
  let (result, n) := Client.send s.maxRetries (s.getRequest call) n
  ⟨result, s, n⟩

/-- Asks for the data of an operation, with tokens that are fresh, and with refreshed ones once more
when the service says that they have expired. -/
def get (s : Session) (call : Call) (n : Network) : Turn Json.Value :=
  let fresh := s.ensureFresh n
  match fresh.result with
  | .error e => ⟨.error e, fresh.session, fresh.network⟩
  | .ok () =>
    let first := fresh.session.fetch call fresh.network
    match first.result with
    | .ok answer => ⟨.ok answer, first.session, first.network⟩
    | .error e =>
      if e.isExpiredToken && first.session.isAuthenticated then
        let again := first.session.refresh first.network
        match again.result with
        | .error e => ⟨.error e, again.session, again.network⟩
        | .ok () => again.session.fetch call again.network
      else ⟨.error e, first.session, first.network⟩

end Session

end FeedQuery
