import FeedQuery.Query
import FeedQuery.Retrieval
import FeedQuery.Session
import FeedQuery.Table

/-!
# What a session does

A session runs queries and searches (`Session.run`, `Session.search`), and goes on in steps, which
sign in and out, refresh and ask (`Session.step`).
-/

namespace FeedQuery

/-!
## Running queries

`Session.execute` asks for what a retrieval names, unless that needs an account and none is signed
in. `Session.run` takes a text all the way: it compiles it, plans a retrieval, executes it and makes
a table of the answer; `Session.search` does the same for words to search for.
-/

/-- What executing a retrieval comes to. -/
inductive Fetched where
  | answer (value : Json.Value)
  /-- Nothing was asked for: that needs a signed-in account. -/
  | stealth

/-- How queries are read and shown. -/
structure QueryOptions where
  /-- What becomes of lists in records. -/
  policy : ArrayPolicy
  /-- Whether a query that anything is wrong with is refused. -/
  strict : Bool
deriving DecidableEq

/-- What running a query comes to. -/
structure Report where
  compiled : Compiled
  retrieval : Option Retrieval
  outcome : Outcome

/-- What to search for. -/
inductive SearchTarget where
  | posts
  | actors
deriving DecidableEq

/-- The member of an answer that lists what was found. -/
def SearchTarget.collectionKey : SearchTarget → String
  | .posts => "posts"
  | .actors => "actors"

/-- The call that searches for words. -/
def SearchTarget.call (target : SearchTarget) (words : String) (page : Page) : Call :=
  match target with
  | .posts => .searchPosts (.ofWords words) page
  | .actors => .searchActors words page

namespace Session

/-- The first page of the session's size. -/
def page (s : Session) : Page := .first s.limit

/-- The call for a retrieval; `none` for the profile of the account when there is no account. -/
def callFor? (s : Session) : Retrieval → Option Call
  | .timeline => some (.timeline s.page)
  | .authorFeed actor => some (.authorFeed actor s.page)
  | .feed feed => some (.feed feed s.page)
  | .actorFeeds actor => some (.actorFeeds actor s.page)
  | .suggestedFeeds => some (.suggestedFeeds s.page)
  | .profile (some actor) => some (.profile actor)
  | .profile none => s.handle?.map .profile
  | .suggestions => some (.suggestions s.page)
  | .actorLikes actor => some (.actorLikes actor s.page)
  | .followers actor => some (.followers actor s.page)
  | .follows actor => some (.follows actor s.page)
  | .mutualFollowers actor => some (.mutualFollowers actor s.page)

/-- Executes a retrieval. -/
def execute (s : Session) (r : Retrieval) (n : Network) : Turn Fetched :=
  if r.requiresAuth && !s.isAuthenticated then ⟨.ok .stealth, s, n⟩
  else
    match s.callFor? r with
    | none => ⟨.ok .stealth, s, n⟩
    | some call => (s.get call n).map .answer

/-- Reads a text as the options say. -/
def compile (opts : QueryOptions) (text : String) : Except QueryError Compiled :=
  if opts.strict then Compiled.strict text else Compiled.ofText text

/-- What is shown of what a retrieval fetched. -/
def outcomeOf (opts : QueryOptions) (fields : List String) (r : Retrieval) : Fetched → Outcome
  | .stealth => .stealth r.operation
  | .answer value => .ofTable (.ofRecords opts.policy fields (r.records value))

/-- Runs a query. -/
def run (s : Session) (opts : QueryOptions) (text : String) (n : Network) : Turn Report :=
  match compile opts text with
  | .error e => ⟨.error (.query e), s, n⟩
  | .ok compiled =>
    match compiled.query.plan with
    | none => ⟨.ok ⟨compiled, none, .noData⟩, s, n⟩
    | some r =>
      (s.execute r n).map fun fetched =>
        ⟨compiled, some r, outcomeOf opts compiled.query.fields r fetched⟩

/-- Searches for words. -/
def search (s : Session) (opts : QueryOptions) (target : SearchTarget) (words : String)
    (n : Network) : Turn Outcome :=
  (s.get (target.call words s.page) n).map fun value =>
    .ofTable (.ofRecords opts.policy [] (Retrieval.collection target.collectionKey value))

end Session

/-!
## Steps of a session

A session goes on in steps: signing in and out, refreshing, asking. `Session.step` is one of them
and `Session.steps` several, one after the other on one network.
-/

/-- A step of a session. -/
inductive Step where
  | login (creds : Credentials)
  | logout
  | refresh
  /-- Sets the number of records to ask for. -/
  | setLimit (limit : Nat)
  /-- Sets the time, in milliseconds since the start of 1970. -/
  | timePasses (now : Int)
  | query (opts : QueryOptions) (text : String)
  | search (opts : QueryOptions) (target : SearchTarget) (words : String)
  | execute (r : Retrieval)
  | get (call : Call)

/-- What a step that does not fail comes to. -/
inductive Reply where
  /-- Nothing but the change itself. -/
  | done
  | report (r : Report)
  | outcome (o : Outcome)
  | fetched (f : Fetched)
  | value (v : Json.Value)

namespace Session

/-- Takes a step. -/
def step (s : Session) (n : Network) : Step → Turn Reply
  | .login creds => (s.login creds n).map fun _ => .done
  | .logout => ⟨.ok .done, s.logout, n⟩
  | .refresh => (s.refresh n).map fun _ => .done
  | .setLimit limit => ⟨.ok .done, s.withLimit limit, n⟩
  | .timePasses now => ⟨.ok .done, s, { n with now }⟩
  | .query opts text => (s.run opts text n).map .report
  | .search opts target words => (s.search opts target words n).map .outcome
  | .execute r => (s.execute r n).map .fetched
  | .get call => (s.get call n).map .value

/-- Takes steps one after the other. -/
def steps (s : Session) (n : Network) : List Step → List (Turn Reply)
  | [] => []
  | step :: rest =>
    let turn := s.step n step
    turn :: steps turn.session turn.network rest

/-- Starts a session, signed in when there are credentials. -/
def start (s : Session) (creds : Option Credentials) (n : Network) : Turn Unit :=
  match creds with
  | none => ⟨.ok (), s, n⟩
  | some creds => s.login creds n

end Session

end FeedQuery
