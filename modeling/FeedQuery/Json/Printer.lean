import FeedQuery.Json.Basic

/-!
# Writing JSON

A value is written on one line or on several. A double is written with the fewest digits that read
back as it.
-/

namespace FeedQuery.Json.Binary64

/-!
## Shortest decimal text of a double

`Binary64.shortest` finds, on the coarsest decimal grid that has one, the grid point nearest to a
double among those that read back as it. `Binary64.text` writes it: plainly when the leading digit
stands between the fifth place after the point and the sixteenth before it, with an exponent
otherwise.
-/

/-- The greatest `k` with `10 ^ k ≤ n / d`, for positive `n` and `d`: an estimate from the binary
logarithm, corrected by one place. -/
def decade (n d : Nat) : Int :=
  let estimate : Int := Int.fdiv (binade n d * 30103) 100000
  let reaches (k : Int) : Bool := d * Nat.pow 10 k.toNat ≤ n * Nat.pow 10 (-k).toNat
  if reaches (estimate + 1) then estimate + 1
  else if reaches estimate then estimate
  else estimate - 1

/-- The reals that round to a positive double, as quarters of its unit: the two ends, and whether
they belong to it. -/
structure Basin where
  /-- The double itself, over `unit`. -/
  middle : Nat
  /-- The lower end, over `unit`. -/
  lower : Nat
  /-- The upper end, over `unit`. -/
  upper : Nat
  /-- The common denominator. -/
  unit : Nat
  /-- The ends round to the double too when its significand is even. -/
  closed : Bool

/-- The reals that round to `x`. Below a power of two the next double is only half as far. -/
def basin (x : Binary64) : Basin :=
  let scale := Nat.pow 2 x.exponent.toNat
  let half := if x.significand = Nat.pow 2 52 ∧ minExponent < x.exponent then 1 else 2
  { middle := 4 * x.significand * scale
    lower := (4 * x.significand - half) * scale
    upper := (4 * x.significand + 2) * scale
    unit := 4 * x.den
    closed := x.significand % 2 == 0 }

/-- Whether `c · 10 ^ e` lies in the basin. -/
def Basin.holds (b : Basin) (c : Nat) (e : Int) : Bool :=
  let value := c * Nat.pow 10 e.toNat * b.unit
  let scale := Nat.pow 10 (-e).toNat
  if b.closed then b.lower * scale ≤ value && value ≤ b.upper * scale
  else b.lower * scale < value && value < b.upper * scale

/-- The neighbours on the grid of step `10 ^ e`: the one in the basin, or of two the nearer, a tie
going to the even one. -/
def Basin.pick? (b : Basin) (e : Int) : Option Nat :=
  let num := b.middle * Nat.pow 10 (-e).toNat
  let den := b.unit * Nat.pow 10 e.toNat
  let below := num / den
  match b.holds below e && below != 0, b.holds (below + 1) e with
  | true, true => some (roundDiv num den)
  | true, false => some below
  | false, true => some (below + 1)
  | false, false => none

/-- Tries grids with ever more digits, `left` of them at most. -/
def Basin.search (b : Basin) (leading : Int) : Nat → Nat → Nat × Int
  | digits, 0 => (b.middle * Nat.pow 10 (digits - leading).toNat / b.unit, leading - digits)
  | digits, left + 1 =>
    match b.pick? (leading - digits) with
    | some c => (c, leading - digits)
    | none => b.search leading (digits + 1) left

/-- Moves the zeros at the end of a number into its power of ten. -/
def stripZeros (digits : Nat) (e : Int) : Nat → Nat × Int
  | 0 => (digits, e)
  | left + 1 =>
    if digits % 10 = 0 ∧ digits ≠ 0 then stripZeros (digits / 10) (e + 1) left else (digits, e)

/-- Seventeen digits tell any two doubles apart. -/
def maxDigits : Nat := 17

/-- The fewest digits `c` and the power `e` such that `c · 10 ^ e` reads back as the nonzero
double; of several, the nearest. -/
def shortest (x : Binary64) : Nat × Int :=
  let (c, e) := x.basin.search (decade x.num x.den) 0 maxDigits
  stripZeros c e maxDigits

/-- The least power of ten of a leading digit that is written without an exponent. -/
def minPlain : Int := -5

/-- The greatest power of ten of a leading digit that is written without an exponent. -/
def maxPlain : Int := 15

/-- Writes the digits `ds` whose first stands at the power of ten `lead`. -/
def layout (ds : List Char) (lead : Int) : List Char :=
  if minPlain ≤ lead ∧ lead ≤ maxPlain then
    if lead < 0 then
      '0' :: '.' :: (List.replicate (-lead - 1).toNat '0' ++ ds)
    else if ds.length ≤ lead.toNat + 1 then
      ds ++ List.replicate (lead.toNat + 1 - ds.length) '0' ++ ['.', '0']
    else ds.take (lead.toNat + 1) ++ '.' :: ds.drop (lead.toNat + 1)
  else
    let mantissa := match ds with
      | [] => []
      | [d] => [d]
      | d :: rest => d :: '.' :: rest
    let sign := if lead < 0 then '-' else '+'
    mantissa ++ 'e' :: sign :: (toString lead.natAbs).toList

/-- The text of a double: the shortest digits that read back as it, always with a point or an
exponent. -/
def text (x : Binary64) : String :=
  let sign := if x.negative then ['-'] else []
  if x.isZero then String.ofList (sign ++ ['0', '.', '0'])
  else
    let (c, e) := x.shortest
    let ds := (toString c).toList
    String.ofList (sign ++ layout ds (e + (ds.length : Int) - 1))

end FeedQuery.Json.Binary64

namespace FeedQuery.Json

/-!
## Layouts of a value

Two layouts of a value: `Value.compact`, without any space, and `Value.pretty`, one item to a line
and two spaces to a level. Texts are quoted by `quote`, which escapes the quote, the backslash and
the control characters below the space, and nothing else.
-/

/-- The hexadecimal digit of a number below sixteen, in lower case. -/
def hexDigit (n : Nat) : Char := "0123456789abcdef".toList.getD n '0'

/-- The characters that stand for one character of a quoted text. -/
def escape (c : Char) : List Char :=
  if c = '"' then ['\\', '"']
  else if c = '\\' then ['\\', '\\']
  else if c = '\n' then ['\\', 'n']
  else if c = '\r' then ['\\', 'r']
  else if c = '\t' then ['\\', 't']
  else if c = '\x08' then ['\\', 'b']
  else if c = '\x0c' then ['\\', 'f']
  else if c.toNat < 0x20 then
    ['\\', 'u', '0', '0', hexDigit (c.toNat / 16), hexDigit (c.toNat % 16)]
  else [c]

/-- A text between quotes. -/
def quote (s : String) : String :=
  String.ofList ('"' :: s.toList.flatMap escape ++ ['"'])

namespace Value

mutual

/-- The value on one line without spaces. -/
def compact : Value → String
  | .null => "null"
  | .bool b => if b then "true" else "false"
  | .int n => toString n
  | .double x => x.text
  | .str s => quote s
  | .arr items => "[" ++ ",".intercalate (compactItems items) ++ "]"
  | .obj members => "\x7b" ++ ",".intercalate (compactMembers members) ++ "\x7d"

/-- The items of a list, each written by `compact`. -/
def compactItems : List Value → List String
  | [] => []
  | v :: rest => compact v :: compactItems rest

/-- The members of an object, each written by `compact` after its name. -/
def compactMembers : List (String × Value) → List String
  | [] => []
  | (k, v) :: rest => (quote k ++ ":" ++ compact v) :: compactMembers rest

end

/-- A line break and the indentation of a level. -/
def newline (level : Nat) : String := "\n" ++ String.ofList (List.replicate (2 * level) ' ')

/-- Items one to a line inside brackets; nothing between the brackets when there are none. -/
def block (opening closing : String) (level : Nat) : List String → String
  | [] => opening ++ closing
  | items =>
    opening ++ newline (level + 1) ++ ("," ++ newline (level + 1)).intercalate items ++
      newline level ++ closing

mutual

/-- The value with one item to a line, at a level of indentation. -/
def prettyAt (level : Nat) : Value → String
  | .null => "null"
  | .bool b => if b then "true" else "false"
  | .int n => toString n
  | .double x => x.text
  | .str s => quote s
  | .arr items => block "[" "]" level (prettyItems (level + 1) items)
  | .obj members => block "\x7b" "\x7d" level (prettyMembers (level + 1) members)

/-- The items of a list, each written by `prettyAt`. -/
def prettyItems (level : Nat) : List Value → List String
  | [] => []
  | v :: rest => prettyAt level v :: prettyItems level rest

/-- The members of an object, each written by `prettyAt` after its name. -/
def prettyMembers (level : Nat) : List (String × Value) → List String
  | [] => []
  | (k, v) :: rest => (quote k ++ ": " ++ prettyAt level v) :: prettyMembers level rest

end

/-- The value with one item to a line and two spaces to a level. -/
def pretty (v : Value) : String := prettyAt 0 v

end Value

end FeedQuery.Json
