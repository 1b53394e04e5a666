/-!
# Texts that are safe in a URL

Two ways to write bytes with characters that a URL may hold: names and values in its query part, and
base 64.
-/

namespace FeedQuery.Text.FormEncoded

/-!
## Form encoding

Names and values in the query part of a URL. Letters, digits and four marks stand for themselves, a
plus sign for a space, and a percent sign with two hexadecimal digits for every other byte.
-/

/-- Whether a byte stands for itself. -/
def isPlain (b : UInt8) : Bool :=
  let n := b.toNat
  (0x30 ≤ n && n ≤ 0x39) || (0x41 ≤ n && n ≤ 0x5A) || (0x61 ≤ n && n ≤ 0x7A) ||
  n == 0x2A || n == 0x2D || n == 0x2E || n == 0x5F

/-- The hexadecimal digit of a number below sixteen, in upper case. -/
def hexDigit (n : Nat) : Char := "0123456789ABCDEF".toList.getD n '0'

/-- The characters of a byte. -/
def encodeByte (b : UInt8) : List Char :=
  if isPlain b then [Char.ofNat b.toNat]
  else if b.toNat = 0x20 then ['+']
  else ['%', hexDigit (b.toNat / 16), hexDigit (b.toNat % 16)]

/-- The characters of a text. -/
def encode (s : String) : String := String.ofList (s.toUTF8.data.toList.flatMap encodeByte)

/-- The characters of a name and its value. -/
def encodePair (pair : String × String) : String := encode pair.1 ++ "=" ++ encode pair.2

/-- The characters of names and values. -/
def encodePairs (pairs : List (String × String)) : String :=
  "&".intercalate (pairs.map encodePair)

end FeedQuery.Text.FormEncoded

namespace FeedQuery.Text.Base64Url

/-!
## Base 64 for URLs

Bytes as characters that are safe in a URL, without padding. `Base64Url.decode?` refuses whatever
`Base64Url.encode` does not produce: other characters, a lone last character, and bits of the last
character that belong to no byte.
-/

/-- The characters, in the order of the six-bit numbers they stand for. -/
def alphabet : List Char :=
  "ABCDEFGHIJKLMNOPQRSTUVWXYZabcdefghijklmnopqrstuvwxyz0123456789-_".toList

/-- The character of a six-bit number. -/
def digit (n : Nat) : Char := alphabet.getD n 'A'

/-- The six-bit number of a character. -/
def value? (c : Char) : Option Nat :=
  if 'A' ≤ c ∧ c ≤ 'Z' then some (c.toNat - 'A'.toNat)
  else if 'a' ≤ c ∧ c ≤ 'z' then some (c.toNat - 'a'.toNat + 26)
  else if '0' ≤ c ∧ c ≤ '9' then some (c.toNat - '0'.toNat + 52)
  else if c = '-' then some 62
  else if c = '_' then some 63
  else none

/-- Six-bit numbers for bytes: four for every three, the last ones filled up with zero bits. -/
def split : List UInt8 → List Nat
  | a :: b :: c :: rest =>
    let n := a.toNat * 65536 + b.toNat * 256 + c.toNat
    n / 262144 :: n / 4096 % 64 :: n / 64 % 64 :: n % 64 :: split rest
  | [a, b] =>
    let n := a.toNat * 65536 + b.toNat * 256
    [n / 262144, n / 4096 % 64, n / 64 % 64]
  | [a] =>
    let n := a.toNat * 65536
    [n / 262144, n / 4096 % 64]
  | [] => []

/-- The bytes of six-bit numbers, if they are the numbers of bytes. -/
def join? : List Nat → Option (List UInt8)
  | a :: b :: c :: d :: rest =>
    let n := a * 262144 + b * 4096 + c * 64 + d
    (join? rest).map fun bytes =>
      .ofNat (n / 65536) :: .ofNat (n / 256 % 256) :: .ofNat (n % 256) :: bytes
  | [a, b, c] =>
    let n := a * 262144 + b * 4096 + c * 64
    if n % 256 = 0 then some [.ofNat (n / 65536), .ofNat (n / 256 % 256)] else none
  | [a, b] =>
    let n := a * 262144 + b * 4096
    if n % 65536 = 0 then some [.ofNat (n / 65536)] else none
  | [_] => none
  | [] => some []

/-- The characters of bytes. -/
def encode (bytes : List UInt8) : List Char := (split bytes).map digit

/-- The bytes of characters, if they are the characters of bytes. -/
def decode? (cs : List Char) : Option (List UInt8) := (cs.mapM value?).bind join?

end FeedQuery.Text.Base64Url
