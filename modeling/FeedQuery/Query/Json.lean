import FeedQuery.Query
import FeedQuery.Retrieval
import FeedQuery.Tree.Json

/-!
# Queries and retrievals as JSON

A comparison is an object and a connector a word, both in one list. A retrieval is an object that
names its operation and holds its subject.
-/

namespace FeedQuery

namespace Condition

/-- A piece of a condition as a value. -/
def toValue : Condition → Json.Value
  | .comparison p =>
    .obj [("key", .str p.key), ("operator", .str p.operator), ("value", .str p.value)]
  | .connector c => .str c.word

/-- Reads a piece of a condition. -/
def ofValue? : Json.Value → Option Condition
  | .str word =>
    if word = Connector.and.word then some (.connector .and)
    else if word = Connector.or.word then some (.connector .or)
    else none
  | v => do
    let key ← v.text? "key"
    let operator ← v.text? "operator"
    let value ← v.text? "value"
    return .comparison ⟨key, operator, value⟩

end Condition

namespace Query

/-- A query as a value. -/
def toValue (q : Query) : Json.Value :=
  .obj [("table", .str q.table), ("predicates", .arr (q.conditions.map Condition.toValue)),
    ("fields", Json.Value.ofStrings q.fields)]

/-- Reads a query. -/
def ofValue? (v : Json.Value) : Option Query := do
  let table ← v.text? "table"
  let conditions ← (← (← v.get? "predicates").arr?).mapM Condition.ofValue?
  let fields ← (← v.get? "fields").strings?
  return ⟨table, conditions, fields⟩

end Query

namespace Retrieval

/-- The name of an operation in the JSON form of a retrieval. -/
def opName : Retrieval → String
  | timeline => "timeline"
  | authorFeed _ => "author_feed"
  | feed _ => "feed"
  | actorFeeds _ => "actor_feeds"
  | suggestedFeeds => "suggested_feeds"
  | profile _ => "profile"
  | suggestions => "suggestions"
  | actorLikes _ => "actor_likes"
  | followers _ => "followers"
  | follows _ => "follows"
  | mutualFollowers _ => "mutual_followers"

/-- The subject of a retrieval as a member. -/
def subjectMember : Retrieval → Json.Members
  | timeline | suggestedFeeds | suggestions => []
  | feed f => [("feed", .str f)]
  | profile none => [("actor", .null)]
  | profile (some a) => [("actor", .str a)]
  | authorFeed a | actorFeeds a | actorLikes a | followers a | follows a | mutualFollowers a =>
    [("actor", .str a)]

/-- A retrieval as a value. -/
def toValue (r : Retrieval) : Json.Value := .obj (("op", .str r.opName) :: r.subjectMember)

/-- Reads the actor of a profile, which may be missing or null. -/
def optionalActor? (v : Json.Value) : Option (Option String) :=
  match v.get? "actor" with
  | none | some .null => some none
  | some (.str a) => some (some a)
  | some _ => none

/-- Reads a retrieval. -/
def ofValue? (v : Json.Value) : Option Retrieval := do
  let actor := v.text? "actor"
  match ← v.text? "op" with
  | "timeline" => some timeline
  | "author_feed" => actor.map authorFeed
  | "feed" => (v.text? "feed").map feed
  | "actor_feeds" => actor.map actorFeeds
  | "suggested_feeds" => some suggestedFeeds
  | "profile" => (optionalActor? v).map profile
  | "suggestions" => some suggestions
  | "actor_likes" => actor.map actorLikes
  | "followers" => actor.map followers
  | "follows" => actor.map follows
  | "mutual_followers" => actor.map mutualFollowers
  | _ => none

end Retrieval

end FeedQuery
