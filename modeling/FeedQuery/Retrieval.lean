import FeedQuery.Json.Basic
import FeedQuery.Query
import FeedQuery.Text.Casing

/-!
# Retrievals

A query is answered by one operation of the service (`Retrieval`), which is chosen by its table and
its first comparison with a recognized key (`Query.plan`).
-/

namespace FeedQuery

/-!
## Operations and their subjects

A retrieval is one operation of the service with its subject. The operations differ in what they are
called, whether they need a signed-in account, and where in the answer the records are.
-/

/-- An operation of the service, with its subject. -/
inductive Retrieval where
  | timeline
  | authorFeed (actor : String)
  | feed (feed : String)
  /-- The feeds that an actor made. -/
  | actorFeeds (actor : String)
  | suggestedFeeds
  /-- The profile of an actor, or of the account itself. -/
  | profile (actor : Option String)
  | suggestions
  | actorLikes (actor : String)
  | followers (actor : String)
  | follows (actor : String)
  /-- The accounts that follow an actor and that the account follows. -/
  | mutualFollowers (actor : String)
deriving DecidableEq

namespace Retrieval

/-- What the operation is called in messages. -/
def operation : Retrieval → String
  | timeline => "getTimeline"
  | authorFeed _ => "getAuthorFeed"
  | feed _ => "getFeed"
  | actorFeeds _ => "getActorFeeds"
  | suggestedFeeds => "getSuggestedFeeds"
  | profile _ => "getProfile"
  | suggestions => "getSuggestions"
  | actorLikes _ => "getActorLikes"
  | followers _ => "getFollowers"
  | follows _ => "getFollows"
  | mutualFollowers _ => "getMutualFollowers"

/-- Whether the operation needs a signed-in account. -/
def requiresAuth : Retrieval → Bool
  | timeline | suggestions | actorLikes _ | mutualFollowers _ => true
  | _ => false

/-- The member of the answer that lists the records; `none` when the answer is the record. -/
def collectionKey : Retrieval → Option String
  | timeline | authorFeed _ | feed _ | actorLikes _ => some "feed"
  | actorFeeds _ | suggestedFeeds => some "feeds"
  | suggestions => some "actors"
  | followers _ | mutualFollowers _ => some "followers"
  | follows _ => some "follows"
  | profile _ => none

/-- The list under a name in an answer; no records when there is none. -/
def collection (key : String) (answer : Json.Value) : List Json.Value :=
  ((answer.get? key).bind Json.Value.arr?).getD []

/-- The records of an answer. An answer that is itself the record gives none when it is empty. -/
def records (r : Retrieval) (answer : Json.Value) : List Json.Value :=
  match r.collectionKey with
  | some key => collection key answer
  | none =>
    match answer with
    | .obj [] => []
    | .null => []
    | other => [other]

end Retrieval

/-!
## Planning

`Query.plan` chooses the retrieval for a query from its table, in any letter case, and from its
first comparison with a recognized key. The operator of that comparison, the other comparisons and
the connectors do not matter.
-/

/-- The keys that name the subject of a retrieval. -/
def recognizedKeys : List String := ["actor", "author", "feed"]

/-- The tables that can be asked for, each with what it holds. -/
def tables : List (String × String) := [
  ("timeline", "Home timeline of the signed-in account"),
  ("posts", "Posts by an actor, or of a custom feed (feed = ...)"),
  ("feeds", "Feeds created by an actor, or suggested feeds"),
  ("profile", "Profile of an actor, or of the signed-in account"),
  ("suggestions", "Suggested accounts to follow"),
  ("likes", "Posts liked by an actor"),
  ("followers", "Accounts following an actor"),
  ("following", "Accounts an actor follows"),
  ("mutuals", "Followers of an actor that you also follow")]

/-- Who or what a retrieval is about. -/
inductive Subject where
  | nobody
  | actor (name : String)
  | feed (uri : String)
deriving DecidableEq

namespace Query

/-- The first comparison with a recognized key. -/
def firstRecognized? (conditions : List Condition) : Option Predicate :=
  (conditions.filterMap comparison?).find? fun p => recognizedKeys.contains p.key

/-- Who or what the conditions name first. -/
def subject (conditions : List Condition) : Subject :=
  match firstRecognized? conditions with
  | none => .nobody
  | some p => if p.key = "feed" then .feed p.value else .actor p.value

/-- The retrieval for a table, in lower case, and a subject. -/
def retrievalFor (table : String) (subject : Subject) : Option Retrieval :=
  match table, subject with
  | "timeline", _ => some .timeline
  | "suggestions", _ => some .suggestions
  | "posts", .actor a => some (.authorFeed a)
  | "posts", .feed f => some (.feed f)
  | "feeds", .actor a => some (.actorFeeds a)
  | "feeds", .nobody => some .suggestedFeeds
  | "profile", .actor a => some (.profile (some a))
  | "profile", .nobody => some (.profile none)
  | "likes", .actor a => some (.actorLikes a)
  | "followers", .actor a => some (.followers a)
  | "following", .actor a => some (.follows a)
  | "mutuals", .actor a => some (.mutualFollowers a)
  | _, _ => none

/-- The retrieval for a query, if there is one. -/
def plan (q : Query) : Option Retrieval :=
  retrievalFor (Text.lower q.table) (subject q.conditions)

end Query

end FeedQuery
