/-!
# Texts

What the other modules need of characters and texts: classes of characters, places in bytes, parts,
words and lines, blanks at the ends, and numerals. The functions on texts have a form on lists of
characters, on which facts are stated.
-/

namespace FeedQuery.Text

/-!
## Classes of characters

A class of characters is listed by the first and the last number of each of its ranges.
-/

/-- Whether a number lies in one of the ranges. -/
def inRanges (ranges : List (Nat × Nat)) (n : Nat) : Bool :=
  ranges.any fun range => range.1 ≤ n && n ≤ range.2

/-!
## Parts of texts

Cutting a text at certain characters, which belong to no part.
-/

/-- The parts between the characters that satisfy `p`, given the part being read. -/
def partsFrom (p : Char → Bool) : List Char → List Char → List (List Char)
  | part, [] => [part]
  | part, c :: cs => if p c then part :: partsFrom p [] cs else partsFrom p (part ++ [c]) cs

/-- The parts between the characters that satisfy `p`, in order; there is always one more than there
are such characters. -/
def parts (p : Char → Bool) (cs : List Char) : List (List Char) := partsFrom p [] cs

/-!
## Characters by bytes

Places in a text are counted in bytes of its UTF-8 form.
-/

/-- The number of bytes of characters. -/
def byteSize (cs : List Char) : Nat := cs.foldr (fun c size => c.utf8Size + size) 0

/-- The characters that lie wholly in the first `n` bytes. -/
def takeBytes : Nat → List Char → List Char
  | _, [] => []
  | n, c :: cs => if c.utf8Size ≤ n then c :: takeBytes (n - c.utf8Size) cs else []

/-- The characters from byte `start` up to byte `stop`, if both are the ends of characters. -/
def sliceBytes? (start stop : Nat) (cs : List Char) : Option (List Char) :=
  let before := takeBytes start cs
  let inside := takeBytes (stop - start) (cs.drop before.length)
  if start ≤ stop ∧ byteSize before = start ∧ byteSize inside = stop - start then some inside
  else none

/-!
## Widths and lines

Widths are counted in characters.
-/

/-- So many copies of a character. -/
def copies (n : Nat) (c : Char) : String := String.ofList (List.replicate n c)

/-- The number of characters of a text. -/
def width (s : String) : Nat := s.toList.length

/-- Characters filled up with spaces on the right to a width. -/
def padChars (w : Nat) (cs : List Char) : List Char :=
  cs ++ List.replicate (w - cs.length) ' '

/-- A text filled up with spaces on the right to a width. The width may be any number here; some
versions of the formatter that the program uses refuse one above 65535. -/
def pad (w : Nat) (s : String) : String := String.ofList (padChars w s.toList)

/-- A text and a line break. -/
def line (s : String) : String := s ++ "\n"

/-- The lines of a text, given the line being read; a break at the end starts no other line. -/
def linesFrom : List Char → List Char → List (List Char)
  | part, [] => if part.isEmpty then [] else [part]
  | part, c :: cs => if c = '\n' then part :: linesFrom [] cs else linesFrom (part ++ [c]) cs

/-- The lines of a text, without their breaks. -/
def lines (s : String) : List String := (linesFrom [] s.toList).map String.ofList

/-!
## Blank characters and words

The characters of the Unicode property `White_Space`, and what is said of text in terms of them:
trimming at the ends, and splitting into words. All functions have a form on lists of characters,
on which facts are stated, and a form on strings.
-/

/-- A blank is a character with the property `White_Space`. -/
def isBlank (c : Char) : Bool :=
  let n := c.toNat
  (0x9 ≤ n && n ≤ 0xD) || n == 0x20 || n == 0x85 || n == 0xA0 || n == 0x1680 ||
  (0x2000 ≤ n && n ≤ 0x200A) || n == 0x2028 || n == 0x2029 || n == 0x202F || n == 0x205F ||
  n == 0x3000

/-- Drops the blanks at the start. -/
def trimStartChars (cs : List Char) : List Char := cs.dropWhile isBlank

/-- Drops the characters at the end that satisfy `p`. -/
def dropEndWhile (p : Char → Bool) (cs : List Char) : List Char :=
  (cs.reverse.dropWhile p).reverse

/-- Drops the blanks at the end. -/
def trimEndChars (cs : List Char) : List Char := dropEndWhile isBlank cs

/-- Drops the blanks at both ends. -/
def trimChars (cs : List Char) : List Char := trimEndChars (trimStartChars cs)

/-- The text without its leading and trailing blanks. -/
def trim (s : String) : String := String.ofList (trimChars s.toList)

/-- The text without its trailing blanks. -/
def trimEnd (s : String) : String := String.ofList (trimEndChars s.toList)

/-- The text without the copies of `c` at its end. -/
def trimEndOf (c : Char) (s : String) : String :=
  String.ofList (dropEndWhile (· == c) s.toList)

/-- The maximal runs of characters that are not blank, given the run being read. -/
def wordsFrom : List Char → List Char → List (List Char)
  | run, [] => if run.isEmpty then [] else [run]
  | run, c :: cs =>
    if isBlank c then
      if run.isEmpty then wordsFrom [] cs else run :: wordsFrom [] cs
    else wordsFrom (run ++ [c]) cs

/-- The maximal runs of characters that are not blank, in order. -/
def wordChars (cs : List Char) : List (List Char) := wordsFrom [] cs

/-- The words of a text: its maximal runs of characters that are not blank. -/
def words (s : String) : List String := (wordChars s.toList).map String.ofList

/-- Whether a text holds nothing but blanks. -/
def allBlank (s : String) : Bool := s.toList.all isBlank

/-!
## Numerals

Whole numbers as they are given in settings and headers: decimal digits, with a sign in front or
without, and within bounds. Escaped characters are written with hexadecimal digits.
-/

/-- The number that decimal digits write, for at least one digit and nothing else. -/
def digits? (cs : List Char) : Option Nat :=
  if !cs.isEmpty && cs.all (fun c => '0' ≤ c && c ≤ '9') then
    some (cs.foldl (fun n c => n * 10 + (c.toNat - '0'.toNat)) 0)
  else none

/-- The number that a text writes, up to `bound`; a plus sign in front is allowed. -/
def unsigned? (bound : Nat) (s : String) : Option Nat :=
  let n? := match s.toList with
    | '+' :: rest => digits? rest
    | cs => digits? cs
  n?.bind fun n => if n ≤ bound then some n else none

/-- The number that a text writes, up to `bound`; either sign is allowed in front, but the number
may not be negative. -/
def signed? (bound : Nat) (s : String) : Option Nat :=
  match s.toList with
  | '-' :: rest => (digits? rest).bind fun n => if n = 0 then some 0 else none
  | _ => unsigned? bound s

/-- The value of a hexadecimal digit, in either case. -/
def hexValue? (c : Char) : Option Nat :=
  if '0' ≤ c ∧ c ≤ '9' then some (c.toNat - '0'.toNat)
  else if 'a' ≤ c ∧ c ≤ 'f' then some (c.toNat - 'a'.toNat + 10)
  else if 'A' ≤ c ∧ c ≤ 'F' then some (c.toNat - 'A'.toNat + 10)
  else none

/-- The greatest number of a 32-bit word. -/
def maxWord32 : Nat := Nat.pow 2 32 - 1

/-- The greatest number of a 64-bit word. -/
def maxWord64 : Nat := Nat.pow 2 64 - 1

end FeedQuery.Text
