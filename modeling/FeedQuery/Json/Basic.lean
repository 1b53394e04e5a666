/-!
# JSON values

The values of the data format. A number that is no integer of a machine word is a finite double
(`Binary64`), which is read from a decimal literal with the rounding of machine arithmetic.
-/

namespace FeedQuery.Json

/-!
## Finite binary floating-point numbers

A finite double is a sign and a dyadic rational `significand · 2 ^ exponent`. Every operation goes
through `Binary64.nearest?`, which rounds an exact quotient of natural numbers to the nearest
double, a tie to the even significand, and is `none` where the magnitude is too large. A decimal
literal is read by `Binary64.ofDecimal?`: its leading digits, held in one machine word, are rounded
first and then scaled by rounded powers of ten.
-/

/-- A finite double: a sign and a magnitude `significand · 2 ^ exponent`. -/
structure Binary64 where
  /-- Whether the sign is a minus; zero has a sign too. -/
  negative : Bool
  /-- The significand, below `2 ^ 53`. -/
  significand : Nat
  /-- The power of two that the significand counts. -/
  exponent : Int
deriving DecidableEq

namespace Binary64

/-- The least power of two that a significand may count. -/
def minExponent : Int := -1074

/-- The greatest power of two that a significand may count. -/
def maxExponent : Int := 971

/-- Zero, with a sign. -/
def zero (negative : Bool) : Binary64 := ⟨negative, 0, minExponent⟩

/-- Whether the number is zero, of either sign. -/
def isZero (x : Binary64) : Bool := x.significand == 0

/-- The same magnitude with the given sign. -/
def withSign (x : Binary64) (negative : Bool) : Binary64 := { x with negative }

/-- The numerator of the magnitude over `x.den`. -/
def num (x : Binary64) : Nat := x.significand * Nat.pow 2 x.exponent.toNat

/-- The denominator of the magnitude, a power of two. -/
def den (x : Binary64) : Nat := Nat.pow 2 (-x.exponent).toNat

/-- The integer nearest to `n / d`; a tie goes to the even one. -/
def roundDiv (n d : Nat) : Nat :=
  let q := n / d
  let r := n % d
  if 2 * r < d then q else if d < 2 * r then q + 1 else q + q % 2

/-- The greatest `l` with `2 ^ l ≤ n / d`, for positive `n` and `d`. -/
def binade (n d : Nat) : Int :=
  let l : Int := (n.log2 : Int) - (d.log2 : Int)
  if d * Nat.pow 2 l.toNat ≤ n * Nat.pow 2 (-l).toNat then l else l - 1

/-- The double nearest to `n / d`, a tie going to the even significand; `none` when the magnitude
is beyond the greatest double. -/
def nearest? (negative : Bool) (n d : Nat) : Option Binary64 :=
  if n = 0 then some (zero negative)
  else
    let e := max (binade n d - 52) minExponent
    let m := roundDiv (n * Nat.pow 2 (-e).toNat) (d * Nat.pow 2 e.toNat)
    let x : Binary64 :=
      if m = Nat.pow 2 53 then ⟨negative, Nat.pow 2 52, e + 1⟩ else ⟨negative, m, e⟩
    if maxExponent < x.exponent then none else some x

/-- The rounded product. -/
def mul? (x y : Binary64) : Option Binary64 :=
  nearest? (x.negative != y.negative) (x.num * y.num) (x.den * y.den)

/-- The rounded quotient, by a number that is not zero. -/
def div? (x y : Binary64) : Option Binary64 :=
  nearest? (x.negative != y.negative) (x.num * y.den) (x.den * y.num)

/-- The greatest power of ten below the greatest double is `10 ^ 308`. -/
def maxTen : Nat := 308

/-- The double nearest to `10 ^ k`, for `k` up to `maxTen`. -/
def powerOfTen (k : Nat) : Binary64 := (nearest? false (Nat.pow 10 k) 1).getD (zero false)

/-- Divides by `10 ^ k`, in steps of at most `maxTen` decimal places, rounding after each. -/
def scaleDown (x : Binary64) (k : Nat) : Binary64 :=
  if _h : maxTen < k then
    if x.isZero then x
    else scaleDown ((x.div? (powerOfTen maxTen)).getD x) (k - maxTen)
  else (x.div? (powerOfTen k)).getD x
termination_by k
decreasing_by simp only [maxTen] at *; omega

/-- Multiplies by `10 ^ e`; `none` when the magnitude becomes too large. -/
def scaleByTen? (x : Binary64) (e : Int) : Option Binary64 :=
  if e < 0 then some (x.scaleDown (-e).toNat)
  else if x.isZero then some x
  else if maxTen < e.toNat then none
  else x.mul? (powerOfTen e.toNat)

/-- The greatest whole number that the leading digits of a literal are gathered in. -/
def maxWord : Nat := Nat.pow 2 64 - 1

/-- Appends digits to a word as long as the result fits one, and gives the digits left over. -/
def gather (word : Nat) : List Nat → Nat × List Nat
  | [] => (word, [])
  | d :: ds => if word * 10 + d ≤ maxWord then gather (word * 10 + d) ds else (word, d :: ds)

/-- Reads a decimal literal from the digits before and after its point and its power of ten. -/
def ofDecimal? (negative : Bool) (whole fraction : List Nat) (exponent : Int) :
    Option Binary64 :=
  let (word, dropped) := gather 0 whole
  let (word, unread) := gather word fraction
  let places : Int := (fraction.length : Int) - (unread.length : Int)
  let scale := exponent + (dropped.length : Int) - places
  (((nearest? false word 1).getD (zero false)).scaleByTen? scale).map (·.withSign negative)

end Binary64

/-!
## Values and their members

A value of the data format, with the members of an object in order. `Value.merged` gives an object
written with repeated keys its meaning: a repeated key keeps its first place and takes its last
value (`Members.put`).
-/

/-- A JSON value. Objects keep the order of their members. -/
inductive Value where
  | null
  | bool (b : Bool)
  /-- A number that is written as an integer. -/
  | int (n : Int)
  /-- A number with a fraction or an exponent, or an integer that no machine word holds. -/
  | double (x : Binary64)
  | str (s : String)
  | arr (items : List Value)
  /-- A list of named values. -/
  | obj (members : List (String × Value))

/-- The members of an object, in order. -/
abbrev Members := List (String × Value)

namespace Members

/-- The value of the first member of that name. -/
def get? (members : Members) (key : String) : Option Value :=
  (members.find? (·.1 == key)).map (·.2)

/-- Whether there is a member of that name. -/
def has (members : Members) (key : String) : Bool := members.any (·.1 == key)

/-- The names, in order. -/
def keys (members : Members) : List String := members.map (·.1)

/-- Sets a member: in place when the name is there, at the end otherwise. -/
def put : Members → String → Value → Members
  | [], key, value => [(key, value)]
  | (k, v) :: rest, key, value =>
    if k == key then (k, value) :: rest else (k, v) :: put rest key value

/-- The members in the order of their first occurrence, each with its last value. -/
def ofList (pairs : List (String × Value)) : Members :=
  pairs.foldl (fun members kv => members.put kv.1 kv.2) []

end Members

namespace Value

mutual

/-- The value with every repeated member of its objects resolved. -/
def merged : Value → Value
  | .arr items => .arr (mergedItems items)
  | .obj members => .obj (Members.ofList (mergedMembers members))
  | other => other

/-- The companion of `merged` for the items of a list. -/
def mergedItems : List Value → List Value
  | [] => []
  | v :: rest => merged v :: mergedItems rest

/-- The companion of `merged` for the members of an object. -/
def mergedMembers : List (String × Value) → List (String × Value)
  | [] => []
  | (k, v) :: rest => (k, merged v) :: mergedMembers rest

end

/-- The member of that name, for an object that has it. -/
def get? : Value → String → Option Value
  | .obj members, key => Members.get? members key
  | _, _ => none

/-- The text, for a text. -/
def str? : Value → Option String
  | .str s => some s
  | _ => none

/-- The truth value, for a truth value. -/
def bool? : Value → Option Bool
  | .bool b => some b
  | _ => none

/-- The integer, for a number that is written as one. -/
def int? : Value → Option Int
  | .int n => some n
  | _ => none

/-- The natural number, for an integer that is not negative. -/
def nat? : Value → Option Nat
  | .int (.ofNat n) => some n
  | _ => none

/-- The items, for a list. -/
def arr? : Value → Option (List Value)
  | .arr items => some items
  | _ => none

/-- The members, for an object. -/
def obj? : Value → Option Members
  | .obj members => some members
  | _ => none

/-- The text under a name, for an object that has it. -/
def text? (v : Value) (key : String) : Option String := (v.get? key).bind str?

/-- A natural number as a value. -/
def ofNat (n : Nat) : Value := .int n

/-- A list of texts as a value. -/
def ofStrings (texts : List String) : Value := .arr (texts.map .str)

end Value

end FeedQuery.Json
