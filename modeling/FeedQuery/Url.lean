import FeedQuery.Text
import FeedQuery.Text.Casing
import FeedQuery.Text.Encoding
import FeedQuery.Text.Printable

/-!
# URLs

A URL has a scheme, a host, a path and parameters. What people write is read as a URL of the web
(`Url.parse?`), with the host in its plain form.
-/

namespace FeedQuery.Url

/-!
## Names and addresses of hosts

The host of a URL is a name, an address of four numbers, or an address of eight groups in brackets.
A name may be written with percent signs and in any letter case; one whose last part is a number is
an address and has to be a valid one.
-/

/-- The bytes of a text in which a percent sign and two hexadecimal digits stand for a byte. -/
def unescaped : List Char → List UInt8
  | '%' :: a :: b :: rest =>
    match Text.hexValue? a, Text.hexValue? b with
    | some x, some y => .ofNat (x * 16 + y) :: unescaped rest
    | _, _ => '%'.toUInt8 :: unescaped (a :: b :: rest)
  | c :: rest => (String.singleton c).toUTF8.data.toList ++ unescaped rest
  | [] => []

/-- The parts of a name between its dots; a dot at the end starts no other part. -/
def labels (cs : List Char) : List (List Char) :=
  let parts := Text.parts (· == '.') cs
  if parts.getLast? = some [] then parts.dropLast else parts

/-- The number that digits of a base write. -/
def numberIn? (base : Nat) (cs : List Char) : Option Nat :=
  cs.foldl (fun n c => do
    let n ← n
    let d ← Text.hexValue? c
    if d < base then some (n * base + d) else none) (some 0)

/-- A number of an address: hexadecimal after `0x`, octal after another zero, decimal otherwise. -/
def addressNumber? : List Char → Option Nat
  | [] => none
  | '0' :: 'x' :: rest | '0' :: 'X' :: rest => numberIn? 16 rest
  | '0' :: c :: rest => numberIn? 8 (c :: rest)
  | cs => numberIn? 10 cs

/-- Whether the last part of a name is a number. -/
def endsInNumber (cs : List Char) : Bool :=
  match (labels cs).getLast? with
  | some [] | none => false
  | some last => last.all Char.isDigit || (addressNumber? last).isSome

/-- Whether numbers make an address: all but the last are bytes, and the last fills the rest of the
32 bits. -/
def isAddress (numbers : List Nat) : Bool :=
  match numbers.getLast? with
  | none => false
  | some last =>
    numbers.length ≤ 4 && numbers.dropLast.all (· < 256) && last < Nat.pow 256 (5 - numbers.length)

/-- Whether a text is an address of four numbers, of which some may be left out. -/
def isShortAddress (cs : List Char) : Bool :=
  match (labels cs).mapM addressNumber? with
  | some numbers => isAddress numbers
  | none => false

/-- Whether a text is a byte in decimal digits, without leading zeros. -/
def isByte (cs : List Char) : Bool :=
  match cs with
  | [] => false
  | ['0'] => true
  | '0' :: _ => false
  | cs => cs.all Char.isDigit && cs.length ≤ 3 && ((numberIn? 10 cs).any (· < 256))

/-- Whether a text is a group of up to four hexadecimal digits. -/
def isGroup (cs : List Char) : Bool :=
  1 ≤ cs.length && cs.length ≤ 4 && cs.all fun c => (Text.hexValue? c).isSome

/-- The number of groups that parts between colons are; four bytes at the end count as two. -/
def groups? (four : Bool) : List (List Char) → Option Nat
  | [] => some 0
  | [last] =>
    if isGroup last then some 1
    else
      let bytes := Text.parts (· == '.') last
      if four && bytes.length = 4 && bytes.all isByte then some 2 else none
  | part :: rest => if isGroup part then (groups? four rest).map (· + 1) else none

/-- The number of groups in a text, none for the empty one. -/
def groupsIn? (four : Bool) (cs : List Char) : Option Nat :=
  if cs.isEmpty then some 0 else groups? four (Text.parts (· == ':') cs)

/-- Cuts a text at its first two colons in a row. -/
def atGap : List Char → Option (List Char × List Char)
  | ':' :: ':' :: rest => some ([], rest)
  | c :: rest => (atGap rest).map fun (before, after) => (c :: before, after)
  | [] => none

/-- Whether a text is an address of eight groups; two colons stand for one or more of them. -/
def isLongAddress (cs : List Char) : Bool :=
  match atGap cs with
  | none => groupsIn? true cs == some 8
  | some (before, after) =>
    match groupsIn? false before, groupsIn? true after with
    | some m, some n => m + n ≤ 7
    | _, _ => false

/-- The characters of ASCII that no name holds. -/
def forbidden : List Char := " \"#%/:<>?@[\\]^`\x7b|\x7d\x7f".toList

/-- Whether a character may stand in a name. -/
def isNamePart (c : Char) : Bool :=
  if c.toNat < 0x80 then 0x20 < c.toNat && !forbidden.contains c
  else !Text.inRanges Text.hiddenRanges c.toNat

/-- The host that a text writes, in lower case. -/
def host? (cs : List Char) : Option String :=
  match cs with
  | [] => none
  | '[' :: rest =>
    if rest.getLast? = some ']' && isLongAddress rest.dropLast then some (String.ofList cs)
    else none
  | cs => do
    let name := Text.lowerChars (← String.fromUTF8? ⟨(unescaped cs).toArray⟩).toList
    if name.isEmpty || !name.all isNamePart then none
    else if endsInNumber name && !isShortAddress name then none
    else some (String.ofList name)

end FeedQuery.Url

namespace FeedQuery

/-!
## Reading and writing URLs

The URLs that requests go to. `Url.parse?` reads what people write: dot segments are resolved,
backslashes count as slashes, and characters that have no place in a URL are escaped. Only URLs of
the web are read, since requests go to no others. `Url.target` is what is asked of the host.
-/

/-- A URL of the web. -/
structure Url where
  /-- The scheme, in lower case. -/
  scheme : String
  host : String
  /-- The port, unless it is the usual one. -/
  port : Option Nat
  path : List String
  /-- What stands after the question mark. -/
  query : Option String
deriving DecidableEq

namespace Url

/-- The schemes of the web, each with its usual port. -/
def schemes : List (String × Nat) := [("http", 80), ("https", 443)]

/-- The greatest port. -/
def maxPort : Nat := 65535

/-- Whether a character ends the part of a URL that names the host. -/
def endsAuthority (c : Char) : Bool := c == '/' || c == '\\' || c == '?' || c == '#'

/-- A character that is passed over: a tab or a line break. -/
def isIgnored (c : Char) : Bool := c == '\t' || c == '\n' || c == '\r'

/-- Whether a character is left out at the ends of a URL. -/
def isMargin (c : Char) : Bool := c.toNat ≤ 0x20

/-- A URL without what does not count. -/
def cleaned (cs : List Char) : List Char :=
  (Text.dropEndWhile isMargin (cs.dropWhile isMargin)).filter (!isIgnored ·)

/-- What stands after the last `@`, if there is one. -/
def afterUser (cs : List Char) : List Char := (cs.reverse.takeWhile (· != '@')).reverse

/-- Cuts an authority at the colon before its port; colons in brackets do not count. -/
def atPort (inBrackets : Bool) : List Char → List Char × Option (List Char)
  | [] => ([], none)
  | c :: rest =>
    if c = ':' && !inBrackets then ([], some rest)
    else
      let (host, port) := atPort (c == '[' || (inBrackets && c != ']')) rest
      (c :: host, port)

/-- The port that digits write; without digits it is the usual one. -/
def port? (cs : List Char) : Option (Option Nat) :=
  if cs.isEmpty then some none
  else if !cs.all Char.isDigit then none
  else (numberIn? 10 cs).bind fun n => if n ≤ maxPort then some (some n) else none

/-- Escapes the bytes of a character. -/
def escapeChar (c : Char) : List Char :=
  (String.singleton c).toUTF8.data.toList.flatMap fun b =>
    ['%', Text.FormEncoded.hexDigit (b.toNat / 16), Text.FormEncoded.hexDigit (b.toNat % 16)]

/-- Escapes the controls, the characters beyond ASCII and those that are listed. -/
def escape (listed : List Char) (cs : List Char) : String :=
  String.ofList (cs.flatMap fun c =>
    if c.toNat < 0x20 || 0x7E < c.toNat || listed.contains c then escapeChar c else [c])

/-- What is escaped in a path. -/
def inPath : List Char := " \"#<>?`\x7b\x7d".toList

/-- What is escaped in a query. -/
def inQuery : List Char := " \"#<>'".toList

/-- A segment in lower case, with its escaped dots as dots. -/
def dots : List Char → List Char
  | '%' :: '2' :: 'e' :: rest | '%' :: '2' :: 'E' :: rest => '.' :: dots rest
  | c :: rest => c :: dots rest
  | [] => []

/-- Resolves segments after those that are resolved, the latest first: one dot stays, and two go
back. -/
def resolve (resolved : List String) : List (List Char) → List String
  | [] => resolved.reverse
  | segment :: rest =>
    let ended (resolved : List String) := if rest.isEmpty then "" :: resolved else resolved
    match dots segment with
    | ['.'] => resolve (ended resolved) rest
    | ['.', '.'] => resolve (ended resolved.tail) rest
    | _ => resolve (escape inPath segment :: resolved) rest

/-- The segments of a path, which starts with a slash if it is there. -/
def segments (cs : List Char) : List String :=
  match cs with
  | [] => [""]
  | _ :: rest => resolve [] (Text.parts (fun c => c == '/' || c == '\\') rest)

/-- Reads what stands after the scheme and its slashes. -/
def parseRest? (scheme : String) (usual : Nat) (cs : List Char) : Option Url := do
  let (hostPart, portPart) := atPort false (afterUser (cs.takeWhile (!endsAuthority ·)))
  let host ← host? hostPart
  let port ← port? (portPart.getD [])
  let rest := (cs.dropWhile (!endsAuthority ·)).takeWhile (· != '#')
  let query := match rest.dropWhile (· != '?') with
    | [] => none
    | _ :: query => some (escape inQuery query)
  return ⟨scheme, host, if port = some usual then none else port,
    segments (rest.takeWhile (· != '?')), query⟩

/-- Reads a URL; `none` for what is no URL of the web. -/
def parse? (s : String) : Option Url :=
  let cs := cleaned s.toList
  let scheme := Text.lowerAscii (String.ofList (cs.takeWhile (· != ':')))
  match cs.dropWhile (· != ':') with
  | [] => none
  | _ :: rest =>
    (schemes.lookup scheme).bind fun usual =>
      parseRest? scheme usual (rest.dropWhile fun c => c == '/' || c == '\\')

/-- The URL with more parameters at the end of its query. -/
def withParams (u : Url) (params : List (String × String)) : Url :=
  if params.isEmpty then { u with query := u.query.filter (· != "") }
  else
    let before := match u.query with
      | none | some "" => ""
      | some query => query ++ "&"
    { u with query := some (before ++ Text.FormEncoded.encodePairs params) }

/-- What is asked of the host: the path and the query. -/
def target (u : Url) : String :=
  "/" ++ "/".intercalate u.path ++ (u.query.map ("?" ++ ·)).getD ""

/-- The URL as a text. -/
def text (u : Url) : String :=
  u.scheme ++ "://" ++ u.host ++ (u.port.map fun n => ":" ++ toString n).getD "" ++ u.target

end Url

end FeedQuery
