import FeedQuery.Json.Basic
import FeedQuery.Text

/-!
# Reading JSON

`read?` reads one value from a text that holds nothing else but blanks around it, with objects as
they are written; `parse?` also resolves repeated members. Containers nest to a depth of `maxDepth`
at most. The readers take the characters that are left and give back those after what they read.

A reader that looks for certain members only passes over the values of all others (`skipValue?`).
What is passed over has to be well-formed, but nothing is made of it: a number may be too large, a
text may hold half a character, and containers may nest to any depth.
-/

namespace FeedQuery.Json

/-- A blank of the format: space, tab and the two line breaks. -/
def isSpace (c : Char) : Bool := c == ' ' || c == '\n' || c == '\t' || c == '\r'

/-- The characters after any blanks. -/
def skipSpace (cs : List Char) : List Char := cs.dropWhile isSpace

/-- The number of four hexadecimal digits. -/
def hex4? (a b c d : Char) : Option Nat := do
  let a ← Text.hexValue? a
  let b ← Text.hexValue? b
  let c ← Text.hexValue? c
  let d ← Text.hexValue? d
  return ((a * 16 + b) * 16 + c) * 16 + d

/-- Whether a number is the first half of a character beyond the basic plane. -/
def isLeading (n : Nat) : Bool := 0xD800 ≤ n && n ≤ 0xDBFF

/-- Whether a number is the second half of a character beyond the basic plane. -/
def isTrailing (n : Nat) : Bool := 0xDC00 ≤ n && n ≤ 0xDFFF

/-- The character that a backslash and a letter stand for. -/
def unescape? (c : Char) : Option Char :=
  match c with
  | '"' => some '"'
  | '\\' => some '\\'
  | '/' => some '/'
  | 'b' => some '\x08'
  | 'f' => some '\x0c'
  | 'n' => some '\n'
  | 'r' => some '\r'
  | 't' => some '\t'
  | _ => none

/-- Reads the rest of a quoted text, after its opening quote. A character beyond the basic plane may
be written as two halves; a half alone and a bare control character are refused. -/
def textBody? : List Char → Option (List Char × List Char)
  | '"' :: rest => some ([], rest)
  | '\\' :: 'u' :: a :: b :: c :: d :: rest => do
    let n ← hex4? a b c d
    if isTrailing n then none
    else if isLeading n then
      match rest with
      | '\\' :: 'u' :: a :: b :: c :: d :: rest =>
        let low ← hex4? a b c d
        if isTrailing low then
          let (cs, rest) ← textBody? rest
          return (Char.ofNat (0x10000 + (n - 0xD800) * 0x400 + (low - 0xDC00)) :: cs, rest)
        else none
      | _ => none
    else
      let (cs, rest) ← textBody? rest
      return (Char.ofNat n :: cs, rest)
  | '\\' :: c :: rest => do
    let c ← unescape? c
    let (cs, rest) ← textBody? rest
    return (c :: cs, rest)
  | c :: rest =>
    if c.toNat < 0x20 || c == '\\' then none
    else do
      let (cs, rest) ← textBody? rest
      return (c :: cs, rest)
  | [] => none

/-- A decimal digit. -/
def isDigit (c : Char) : Bool := '0' ≤ c && c ≤ '9'

/-- The values of decimal digits. -/
def digitValues (cs : List Char) : List Nat := cs.map (fun c => c.toNat - '0'.toNat)

/-- The number that decimal digits write. -/
def digitsNat (ds : List Nat) : Nat := ds.foldl (fun n d => n * 10 + d) 0

/-- Reads the digits after a point, if one comes next; at least one has to follow it. -/
def fraction? : List Char → Option (Option (List Nat) × List Char)
  | '.' :: rest =>
    let ds := rest.takeWhile isDigit
    if ds.isEmpty then none else some (some (digitValues ds), rest.dropWhile isDigit)
  | rest => some (none, rest)

/-- Reads a power of ten, if one comes next; at least one digit has to follow its mark and sign. -/
def exponent? : List Char → Option (Option Int × List Char)
  | c :: rest =>
    if c == 'e' || c == 'E' then
      let (minus, rest) := match rest with
        | '-' :: rest => (true, rest)
        | '+' :: rest => (false, rest)
        | rest => (false, rest)
      let ds := rest.takeWhile isDigit
      let n : Int := digitsNat (digitValues ds)
      if ds.isEmpty then none
      else some (some (if minus then -n else n), rest.dropWhile isDigit)
    else some (none, c :: rest)
  | [] => some (none, [])

/-- The value of a number written without fraction and exponent: an integer if a signed or an
unsigned machine word holds it, and a double otherwise. Minus zero is a double. -/
def wholeNumber? (minus : Bool) (whole : List Nat) : Option Value :=
  let n := digitsNat whole
  if minus then
    if 0 < n ∧ n ≤ Nat.pow 2 63 then some (.int (-(n : Int)))
    else (Binary64.ofDecimal? true whole [] 0).map .double
  else if n < Nat.pow 2 64 then some (.int n)
  else (Binary64.ofDecimal? false whole [] 0).map .double

/-- A number as it is written. -/
structure Numeral where
  minus : Bool
  /-- The digits before the point. -/
  whole : List Nat
  /-- The digits after the point, if there is one. -/
  fraction : Option (List Nat)
  /-- The power of ten, if one is written. -/
  exponent : Option Int

/-- The number that is written; `none` for one that is too large. -/
def Numeral.value? (n : Numeral) : Option Value :=
  if n.fraction.isNone && n.exponent.isNone then wholeNumber? n.minus n.whole
  else
    (Binary64.ofDecimal? n.minus n.whole (n.fraction.getD []) (n.exponent.getD 0)).map .double

/-- Reads how a number is written. Its whole part is zero or starts with another digit. -/
def numeral? (cs : List Char) : Option (Numeral × List Char) := do
  let (minus, cs) := match cs with
    | '-' :: rest => (true, rest)
    | cs => (false, cs)
  let whole := digitValues (cs.takeWhile isDigit)
  if whole.isEmpty || (whole.head? == some 0 && 1 < whole.length) then none
  else
    let (fraction, rest) ← fraction? (cs.dropWhile isDigit)
    let (exponent, rest) ← exponent? rest
    return (⟨minus, whole, fraction, exponent⟩, rest)

/-- Reads a number. -/
def number? (cs : List Char) : Option (Value × List Char) := do
  let (n, rest) ← numeral? cs
  return (← n.value?, rest)

/-- Containers nest at most this deep. -/
def maxDepth : Nat := 127

/-- The characters after the given ones. -/
def literal? : List Char → List Char → Option (List Char)
  | [], cs => some cs
  | _ :: _, [] => none
  | c :: cs, d :: ds => if c = d then literal? cs ds else none

mutual

/-- Reads a value. `depth` more levels of containers may open, and `fuel` bounds the steps. -/
def value? (depth : Nat) : Nat → List Char → Option (Value × List Char)
  | 0, _ => none
  | fuel + 1, cs =>
    match skipSpace cs with
    | '"' :: rest => do
      let (s, rest) ← textBody? rest
      return (.str (String.ofList s), rest)
    | '[' :: rest =>
      match depth with
      | 0 => none
      | depth + 1 =>
        match skipSpace rest with
        | ']' :: rest => some (.arr [], rest)
        | rest => do
          let (items, rest) ← items? depth fuel rest
          return (.arr items, rest)
    | '\x7b' :: rest =>
      match depth with
      | 0 => none
      | depth + 1 =>
        match skipSpace rest with
        | '\x7d' :: rest => some (.obj [], rest)
        | rest => do
          let (members, rest) ← members? depth fuel rest
          return (.obj members, rest)
    | 'n' :: rest => (literal? "ull".toList rest).map (Value.null, ·)
    | 't' :: rest => (literal? "rue".toList rest).map (Value.bool true, ·)
    | 'f' :: rest => (literal? "alse".toList rest).map (Value.bool false, ·)
    | rest => number? rest

/-- Reads the items of a list and its closing bracket. -/
def items? (depth : Nat) : Nat → List Char → Option (List Value × List Char)
  | 0, _ => none
  | fuel + 1, cs => do
    let (v, rest) ← value? depth fuel cs
    match skipSpace rest with
    | ',' :: rest =>
      let (vs, rest) ← items? depth fuel rest
      return (v :: vs, rest)
    | ']' :: rest => return ([v], rest)
    | _ => none

/-- Reads the members of an object and its closing brace. -/
def members? (depth : Nat) : Nat → List Char → Option (List (String × Value) × List Char)
  | 0, _ => none
  | fuel + 1, cs =>
    match skipSpace cs with
    | '"' :: rest => do
      let (k, rest) ← textBody? rest
      match skipSpace rest with
      | ':' :: rest =>
        let (v, rest) ← value? depth fuel rest
        match skipSpace rest with
        | ',' :: rest =>
          let (kvs, rest) ← members? depth fuel rest
          return ((String.ofList k, v) :: kvs, rest)
        | '\x7d' :: rest => return ([(String.ofList k, v)], rest)
        | _ => none
      | _ => none
    | _ => none

end

/-- Passes over the rest of a quoted text, after its opening quote. -/
def skipText? : List Char → Option (List Char)
  | '"' :: rest => some rest
  | '\\' :: 'u' :: a :: b :: c :: d :: rest =>
    if (hex4? a b c d).isSome then skipText? rest else none
  | '\\' :: c :: rest => if (unescape? c).isSome then skipText? rest else none
  | c :: rest => if c.toNat < 0x20 || c == '\\' then none else skipText? rest
  | [] => none

mutual

/-- Passes over a value. `fuel` bounds the steps. -/
def skipValue? : Nat → List Char → Option (List Char)
  | 0, _ => none
  | fuel + 1, cs =>
    match skipSpace cs with
    | '"' :: rest => skipText? rest
    | '[' :: rest =>
      match skipSpace rest with
      | ']' :: rest => some rest
      | rest => skipItems? fuel rest
    | '\x7b' :: rest =>
      match skipSpace rest with
      | '\x7d' :: rest => some rest
      | rest => skipMembers? fuel rest
    | 'n' :: rest => literal? "ull".toList rest
    | 't' :: rest => literal? "rue".toList rest
    | 'f' :: rest => literal? "alse".toList rest
    | rest => (numeral? rest).map (·.2)

/-- Passes over the items of a list and its closing bracket. -/
def skipItems? : Nat → List Char → Option (List Char)
  | 0, _ => none
  | fuel + 1, cs => do
    match skipSpace (← skipValue? fuel cs) with
    | ',' :: rest => skipItems? fuel rest
    | ']' :: rest => some rest
    | _ => none

/-- Passes over the members of an object and its closing brace. -/
def skipMembers? : Nat → List Char → Option (List Char)
  | 0, _ => none
  | fuel + 1, cs =>
    match skipSpace cs with
    | '"' :: rest => do
      match skipSpace (← skipText? rest) with
      | ':' :: rest =>
        match skipSpace (← skipValue? fuel rest) with
        | ',' :: rest => skipMembers? fuel rest
        | '\x7d' :: rest => some rest
        | _ => none
      | _ => none
    | _ => none

end

/-- The steps that reading so many characters takes at most. -/
def steps (cs : List Char) : Nat := 2 * cs.length + 2

/-- Reads a value that is all the text holds, with objects as they are written. -/
def read? (text : String) : Option Value := do
  let cs := text.toList
  let (v, rest) ← value? maxDepth (steps cs) cs
  if (skipSpace rest).isEmpty then some v else none

/-- Reads a value that is all the text holds; a repeated member keeps its first place and takes its
last value. -/
def parse? (text : String) : Option Value := (read? text).map Value.merged

end FeedQuery.Json
