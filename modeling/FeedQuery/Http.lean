import FeedQuery.Json.Parser
import FeedQuery.Json.Printer
import FeedQuery.QueryError
import FeedQuery.Text
import FeedQuery.Url

/-!
# Requests and answers

A request is sent to a host of the service (`Network`), again if need be (`Client.send`), and comes
to a value or to an error.

Redirections are left out. Whatever carries a request to its host follows them on its own, so that
an answer is the one at the end of them; the requests on the way there are not on the log.
-/

namespace FeedQuery

/-!
## What is asked and answered

A request names a host, an operation of the service and its parameters; an answer is a response, or
the news that there is none. `Network` plays the other side: it answers each request that can be
sent with the next answer of a list, and keeps a log of what was asked and of the pauses in between.
-/

/-- The kinds of requests. -/
inductive Verb where
  | get
  | post
deriving DecidableEq

/-- The word for a kind of request. -/
def Verb.word : Verb → String
  | .get => "GET"
  | .post => "POST"

/-- A request to a host of the service. -/
structure Request where
  verb : Verb
  host : String
  operation : String
  params : List (String × String)
  /-- The token that authorizes the request. -/
  bearer : Option String
  /-- What is sent along. -/
  body : Option Json.Value

namespace Request

/-- Parameters without the empty ones, which are not sent. -/
def sentParams (params : List (String × String)) : List (String × String) :=
  params.filter (·.2 != "")

/-- The address of an operation below the base URL, whose slashes at the end are left out. -/
def address (r : Request) : String := Text.trimEndOf '/' r.host ++ "/xrpc/" ++ r.operation

/-- The URL of a request; `none` when its address is no URL. -/
def url? (r : Request) : Option Url := (Url.parse? r.address).map (·.withParams r.params)

/-- The URL of a request in messages. -/
def urlText (r : Request) : String := (r.url?.map Url.text).getD r.address

/-- The greatest number of bytes of a URL. -/
def maxUrl : Nat := 65534

/-- Whether a text may stand in a header: it holds no control other than a tab. -/
def fitsHeader (s : String) : Bool :=
  s.toList.all fun c => c == '\t' || (0x20 ≤ c.toNat && c.toNat != 0x7F)

/-- Whether a request can be sent. -/
def isSendable (r : Request) : Bool :=
  r.url?.any (fun u => u.text.utf8ByteSize ≤ maxUrl) && r.bearer.all fitsHeader

/-- The header that authorizes a request. -/
def authorization (r : Request) : Option String := r.bearer.map ("Bearer " ++ ·)

/-- The text sent along, empty when there is none. -/
def bodyText (r : Request) : String := (r.body.map Json.Value.compact).getD ""

end Request

/-- What a request comes to. -/
inductive Answer where
  /-- A response with a status, the header that says when to try again, and a body. -/
  | response (status : Nat) (retryAfter : Option String) (body : String)
  /-- The host could not be reached in time. -/
  | unreachable
  /-- The host closed the connection without a response, or within the body of a response that is
  final. The body of a response after which the request is sent again is not read. -/
  | dropped
  /-- The request could not be sent. -/
  | unsent
deriving DecidableEq

/-- What happens on the network. -/
inductive Traffic where
  /-- A request and its answer. -/
  | exchange (request : Request) (answer : Answer)
  /-- A pause of so many milliseconds. -/
  | pause (milliseconds : UInt64)

/-- The other side: its answers, and what has happened so far. -/
structure Network where
  /-- The answers to come, in order. -/
  answers : List Answer
  /-- The answer when there are no more. -/
  afterwards : Answer
  /-- The time, in milliseconds since the start of 1970. -/
  now : Int
  /-- What has happened, in order. -/
  log : List Traffic

namespace Network

/-- A network on which no host can be reached. -/
def offline (now : Int) : Network := ⟨[], .unreachable, now, []⟩

/-- The next answer. -/
def next (n : Network) : Answer := n.answers.headD n.afterwards

/-- The answer to a request. -/
def answerTo (n : Network) (r : Request) : Answer := if r.isSendable then n.next else .unsent

/-- Sends a request; one that cannot be sent takes no answer from the list. -/
def exchange (n : Network) (r : Request) : Answer × Network :=
  (n.answerTo r, { n with
    answers := if r.isSendable then n.answers.tail else n.answers
    log := n.log ++ [.exchange r (n.answerTo r)] })

/-- Pauses. -/
def pause (n : Network) (milliseconds : UInt64) : Network :=
  { n with log := n.log ++ [.pause milliseconds] }

/-- The requests that reached a host, in order. -/
def requests (n : Network) : List Request :=
  n.log.filterMap fun
    | .exchange r answer => if answer = .unreachable ∨ answer = .unsent then none else some r
    | .pause _ => none

/-- The pauses, in order. -/
def pauses (n : Network) : List UInt64 :=
  n.log.filterMap fun
    | .exchange .. => none
    | .pause milliseconds => some milliseconds

end Network

/-!
## Sending requests

`Client.send` sends a request until an answer is final. An answer that a server error, a refusal for
too many requests or a host out of reach stands behind is tried again after a pause, as long as the
number of repetitions allows. The last answer decides the result (`Client.conclude`).
-/

/-- Why an account could not be signed in or stay so. -/
inductive AuthFault where
  /-- The service says why. -/
  | refused (message : String)
  /-- The answer of that operation holds no tokens. -/
  | unreadable (operation : String)
  | notLoggedIn
deriving DecidableEq

/-- The wording of a fault. -/
def AuthFault.message : AuthFault → String
  | .refused message => message
  | .unreadable operation => s!"unexpected {operation} response"
  | .notLoggedIn => "not logged in"

/-- Why a step of a session fails. -/
inductive SessionError where
  | query (e : QueryError)
  /-- The request for that URL got no response. -/
  | http (url : String)
  | json
  | api (status : Nat) (error message : String)
  /-- The account cannot be signed in or stay so. -/
  | auth (fault : AuthFault)
deriving DecidableEq

namespace SessionError

/-- The wording of an error. -/
def message : SessionError → String
  | .query e => e.message
  | .http url => s!"HTTP error: error sending request for url ({url})"
  | .json => "JSON error: the response is not a JSON value"
  | .api status error message => s!"{error} ({status}): {message}"
  | .auth fault => s!"Authentication failed: {fault.message}"

/-- The name that the service gives to an expired token. -/
def expiredToken : String := "ExpiredToken"

/-- Whether the service says that the token has expired. -/
def isExpiredToken : SessionError → Bool
  | .api _ error _ => error == expiredToken
  | _ => false

/-- The error as one of signing in: what the service says counts as its reason. -/
def asRefusal : SessionError → SessionError
  | .api _ _ message => .auth (.refused message)
  | other => other

end SessionError

/-- What a response says about a refusal. -/
structure ErrorBody where
  /-- The name of the error. -/
  error : Option String
  /-- What is said about it. -/
  message : Option String
deriving DecidableEq

namespace ErrorBody

/-- Reads a text that may be null. -/
def nullable? (cs : List Char) : Option (Option String × List Char) :=
  match Json.skipSpace cs with
  | '"' :: rest => do
    let (text, rest) ← Json.textBody? rest
    return (some (String.ofList text), rest)
  | 'n' :: rest => (Json.literal? "ull".toList rest).map (none, ·)
  | _ => none

/-- The names of the members that count. -/
def names : List String := ["error", "message"]

/-- Reads the value of a member: one that counts is a text or null, and any other is passed over. -/
def member? (name : String) (cs : List Char) :
    Option (List (String × Option String) × List Char) :=
  if name ∈ names then (nullable? cs).map fun (text, rest) => ([(name, text)], rest)
  else (Json.skipValue? (Json.steps cs) cs).map ([], ·)

/-- Reads the members of an object and its closing brace. `fuel` bounds the number of members. -/
def members? : Nat → List Char → Option (List (String × Option String) × List Char)
  | 0, _ => none
  | fuel + 1, cs =>
    match Json.skipSpace cs with
    | '"' :: rest => do
      let (name, rest) ← Json.textBody? rest
      match Json.skipSpace rest with
      | ':' :: rest =>
        let (found, rest) ← member? (String.ofList name) rest
        match Json.skipSpace rest with
        | ',' :: rest =>
          let (more, rest) ← members? fuel rest
          return (found ++ more, rest)
        | '\x7d' :: rest => return (found, rest)
        | _ => none
      | _ => none
    | _ => none

/-- The member of that name, which may be missing, but not be there twice. -/
def once? (members : List (String × Option String)) (name : String) : Option (Option String) :=
  match members.filter (·.1 == name) with
  | [] => some none
  | [(_, text)] => some text
  | _ => none

/-- Reads the rest of a refusal that is an object, after its opening brace. -/
def object? (cs : List Char) : Option (ErrorBody × List Char) :=
  match Json.skipSpace cs with
  | '\x7d' :: rest => some (⟨none, none⟩, rest)
  | cs => do
    let (members, rest) ← members? (cs.length + 1) cs
    return (⟨← once? members "error", ← once? members "message"⟩, rest)

/-- Reads the rest of a refusal that is a list of the bare values in order, after its opening
bracket. -/
def list? (cs : List Char) : Option (ErrorBody × List Char) :=
  match Json.skipSpace cs with
  | ']' :: rest => some (⟨none, none⟩, rest)
  | cs => do
    let (error, rest) ← nullable? cs
    match Json.skipSpace rest with
    | ']' :: rest => return (⟨error, none⟩, rest)
    | ',' :: rest =>
      let (message, rest) ← nullable? rest
      match Json.skipSpace rest with
      | ']' :: rest => return (⟨error, message⟩, rest)
      | _ => none
    | _ => none

/-- Reads a refusal that is all the text holds. -/
def read? (text : String) : Option ErrorBody := do
  let (body, rest) ← match Json.skipSpace text.toList with
    | '\x7b' :: rest => object? rest
    | '[' :: rest => list? rest
    | _ => none
  if (Json.skipSpace rest).isEmpty then some body else none

/-- Reads the refusal in a body; a body that holds none says nothing. -/
def ofText (body : String) : ErrorBody := (read? body).getD ⟨none, none⟩

end ErrorBody

namespace Client

/-- The greatest number of characters of a body in a message. -/
def maxExcerpt : Nat := 200

/-- The start of a body, on its own when it is short enough. -/
def excerpt (body : String) : String :=
  let cs := Text.trimChars body.toList
  if maxExcerpt < cs.length then String.ofList (cs.take maxExcerpt ++ ['.', '.', '.'])
  else String.ofList cs

/-- The error that a refusal is. -/
def apiError (status : Nat) (body : String) : SessionError :=
  let said := ErrorBody.ofText body
  .api status (said.error.getD s!"HTTP {status}") (said.message.getD (excerpt body))

/-- Whether a status means success. -/
def isSuccess (status : Nat) : Bool := 200 ≤ status && status < 300

/-- What a final answer comes to. A success without a body is null. -/
def conclude (r : Request) : Answer → Except SessionError Json.Value
  | .unreachable | .dropped | .unsent => .error (.http r.urlText)
  | .response status _ body =>
    if !isSuccess status then .error (apiError status body)
    else if Text.allBlank body then .ok .null
    else
      match Json.parse? body with
      | some v => .ok v
      | none => .error .json

/-- The pause before the repetition after `used` others, in milliseconds of a 64-bit word: it starts
at half a second and doubles. -/
def backoff (used : Nat) : UInt64 := UInt64.ofNat (500 * Nat.pow 2 used)

/-- The longest pause that a service may ask for, in seconds. -/
def maxPatience : Nat := 10

/-- The pause when a service asks for one but does not say how long, in seconds. -/
def usualPatience : Nat := 2

/-- The pause after a refusal for too many requests, in milliseconds. -/
def patience (retryAfter : Option String) : UInt64 :=
  let asked := (retryAfter.bind (Text.unsigned? Text.maxWord64)).getD usualPatience
  UInt64.ofNat (1000 * min asked maxPatience)

/-- The pause after which an answer is worth another try, after `used` repetitions; `none` for a
final answer. -/
def pauseAfter? (used : Nat) : Answer → Option UInt64
  | .unreachable => some (backoff used)
  | .dropped | .unsent => none
  | .response status retryAfter _ =>
    if 500 ≤ status then some (backoff used)
    else if status = 429 then some (patience retryAfter)
    else none

/-- Sends a request after `used` repetitions, with so many left. -/
def sendFrom (used : Nat) (r : Request) : Nat → Network → Except SessionError Json.Value × Network
  | 0, n =>
    let (answer, n) := n.exchange r
    (conclude r answer, n)
  | left + 1, n =>
    let (answer, n) := n.exchange r
    match pauseAfter? used answer with
    | some milliseconds => sendFrom (used + 1) r left (n.pause milliseconds)
    | none => (conclude r answer, n)

/-- Sends a request, with so many repetitions at most. -/
def send (maxRetries : Nat) (r : Request) (n : Network) :
    Except SessionError Json.Value × Network :=
  sendFrom 0 r maxRetries n

end Client

end FeedQuery
