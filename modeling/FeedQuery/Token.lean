import FeedQuery.Text

/-!
# Tokens

The tokens of a query, how they are read from a text, and how what is wrong with a text is shown
below the token that it is about.
-/

namespace FeedQuery

/-!
## Tokens of a query

A token is a kind, the text it was read from, the place of that text in the query, and the messages
recorded for it. Places are counted in bytes of the text's UTF-8 form.
-/

/-- A stretch of a text: the bytes from `start` up to, but not with, `stop`. -/
structure Span where
  /-- The first byte. -/
  start : Nat
  /-- The byte after the last. -/
  stop : Nat
deriving DecidableEq

/-- The number of bytes of a stretch. -/
def Span.length (s : Span) : Nat := s.stop - s.start

/-- The kinds of tokens. -/
inductive TokenKind where
  | kwSelect
  | kwFrom
  | kwWhere
  | kwAnd
  | kwOr
  /-- A text between single quotes. -/
  | string
  /-- A name, possibly with dots. -/
  | identifier
  | comma
  | star
  | equals
  /-- Anything else. -/
  | error
deriving DecidableEq

namespace TokenKind

/-- All kinds. -/
def all : List TokenKind :=
  [kwSelect, kwFrom, kwWhere, kwAnd, kwOr, string, identifier, comma, star, equals, error]

/-- The name of a kind in traces and trees. -/
def name : TokenKind → String
  | kwSelect => "SELECT"
  | kwFrom => "FROM"
  | kwWhere => "WHERE"
  | kwAnd => "AND"
  | kwOr => "OR"
  | string => "STRING"
  | identifier => "IDENTIFIER"
  | comma => "COMMA"
  | star => "STAR"
  | equals => "EQUALS"
  | error => "ERROR"

/-- The kind of that name. -/
def ofName? (name : String) : Option TokenKind := all.find? (·.name == name)

/-- The keyword that is written so; keywords are upper-case words. -/
def keyword? (word : String) : Option TokenKind :=
  if word = "SELECT" then some kwSelect
  else if word = "FROM" then some kwFrom
  else if word = "WHERE" then some kwWhere
  else if word = "AND" then some kwAnd
  else if word = "OR" then some kwOr
  else none

/-- Whether a kind is one of the five keywords. -/
def isKeyword : TokenKind → Bool
  | kwSelect | kwFrom | kwWhere | kwAnd | kwOr => true
  | _ => false

/-- Whether a token of this kind starts a clause; recovery from an error leaves it in place. -/
def startsClause : TokenKind → Bool
  | kwFrom | kwWhere => true
  | _ => false

/-- Whether a token of this kind can start a field. -/
def startsField : TokenKind → Bool
  | star | identifier | string => true
  | _ => false

/-- How tightly an operator binds, from the loosest up; `none` for what is no operator. -/
def precedence? : TokenKind → Option Nat
  | kwOr => some 0
  | kwAnd => some 1
  | equals => some 2
  | _ => none

end TokenKind

/-- A token of a query. -/
structure Token where
  /-- What the token is. -/
  kind : TokenKind
  /-- The text it was read from, with its quotes. -/
  text : String
  /-- Where that text stands in the query. -/
  span : Span
  /-- What is wrong with it, in the order in which that was noticed. -/
  errors : List String
deriving DecidableEq

/-- The token with one more message. -/
def Token.withError (t : Token) (message : String) : Token :=
  { t with errors := t.errors ++ [message] }

/-- Something wrong with a query: a message, and the place of the token it is about. A message
without a place is about the end of the query. -/
structure Diagnostic where
  message : String
  span : Option Span
deriving DecidableEq

/-- A diagnostic on one line, with its place in bytes. -/
def Diagnostic.text (d : Diagnostic) : String :=
  match d.span with
  | some span => s!"{d.message} at {span.start}..{span.stop}"
  | none => s!"{d.message} at end of input"

/-!
## Reading tokens

`Token.scan` reads a text from left to right. Blanks separate tokens and are dropped; nothing else
is: a character that starts no token, a literal without content and a literal without an end become
tokens of kind `error` that carry a message. The reader goes character by character
(`Scan.step`) and keeps what it has read of a word or a literal in a `Scan.Pending`.
-/

namespace Scan

/-- What the reader is in the middle of. Characters are kept with the latest first. -/
inductive Pending where
  /-- Between tokens. -/
  | idle
  /-- In a word that started at byte `start`. -/
  | word (start : Nat) (read : List Char)
  /-- In a literal whose opening quote stands at byte `start`. -/
  | literal (start : Nat) (read : List Char)
deriving DecidableEq

/-- A letter starts a word; only the letters of ASCII count. -/
def isLetter (c : Char) : Bool := ('a' ≤ c && c ≤ 'z') || ('A' ≤ c && c ≤ 'Z')

/-- A word goes on with letters and dots. -/
def isWordPart (c : Char) : Bool := isLetter c || c == '.'

/-- The quote around literals. -/
def quoteMark : Char := '\''

/-- The message for a literal without content. -/
def emptyLiteral : String := "empty string literal"

/-- The message for a literal without an end. -/
def unterminatedLiteral : String := "unterminated string literal"

/-- The message for a character that starts no token. -/
def unexpectedCharacter (c : Char) : String := s!"unexpected character '{c}'"

/-- The token of a word, which ends before byte `stop`. -/
def wordToken (start : Nat) (read : List Char) (stop : Nat) : Token :=
  let text := String.ofList read.reverse
  ⟨(TokenKind.keyword? text).getD .identifier, text, ⟨start, stop⟩, []⟩

/-- The token of a literal whose closing quote has been read; it has to hold a character. -/
def literalToken (start : Nat) (read : List Char) (stop : Nat) : Token :=
  let text := String.ofList read.reverse
  if 2 < read.length then ⟨.string, text, ⟨start, stop⟩, []⟩
  else ⟨.error, text, ⟨start, stop⟩, [emptyLiteral]⟩

/-- The token of a literal that the text ends in. -/
def openToken (start : Nat) (read : List Char) (stop : Nat) : Token :=
  ⟨.error, String.ofList read.reverse, ⟨start, stop⟩, [unterminatedLiteral]⟩

/-- The token of a single character at byte `start`. -/
def markToken (start : Nat) (c : Char) : Token :=
  let token (kind : TokenKind) (errors : List String) : Token :=
    ⟨kind, String.singleton c, ⟨start, start + c.utf8Size⟩, errors⟩
  if c = ',' then token .comma []
  else if c = '*' then token .star []
  else if c = '=' then token .equals []
  else token .error [unexpectedCharacter c]

/-- Reads a character at byte `start` between tokens. -/
def begin (start : Nat) (c : Char) : List Token × Pending :=
  if Text.isBlank c then ([], .idle)
  else if isLetter c then ([], .word start [c])
  else if c = quoteMark then ([], .literal start [c])
  else ([markToken start c], .idle)

/-- Reads a character at byte `start`: the tokens that it completes, and what goes on. -/
def step (start : Nat) (c : Char) : Pending → List Token × Pending
  | .idle => begin start c
  | .word first read =>
    if isWordPart c then ([], .word first (c :: read))
    else
      let (tokens, next) := begin start c
      (wordToken first read start :: tokens, next)
  | .literal first read =>
    if c = quoteMark then ([literalToken first (c :: read) (start + c.utf8Size)], .idle)
    else ([], .literal first (c :: read))

/-- The token that the end of the text completes. -/
def finish (stop : Nat) : Pending → List Token
  | .idle => []
  | .word first read => [wordToken first read stop]
  | .literal first read => [openToken first read stop]

/-- Reads the characters that stand from byte `start` on. -/
def tokens (start : Nat) (pending : Pending) : List Char → List Token
  | [] => finish start pending
  | c :: cs =>
    let (done, next) := step start c pending
    done ++ tokens (start + c.utf8Size) next cs

end Scan

/-- The tokens of a text, in order. -/
def Token.scan (text : String) : List Token := Scan.tokens 0 .idle text.toList

/-!
## Diagnostics below the query

`Diagnostic.render` shows what is wrong with a text: the message, the text, and carets below the
token that the message is about. Places count bytes; columns count characters.
-/

namespace Diagnostic

/-- The column of a diagnostic and the number of its carets, at least one. -/
def carets (text : List Char) : Option Span → Nat × Nat
  | some span =>
    ((Text.takeBytes span.start text).length,
      max 1 (((Text.sliceBytes? span.start span.stop text).map List.length).getD 1))
  | none => (text.length, 1)

/-- A diagnostic below the text it is about. -/
def render (text : String) (d : Diagnostic) : String :=
  let (column, count) := carets text.toList d.span
  Text.line s!"error: {d.message}" ++ Text.line s!"  | {text}" ++
    Text.line ("  | " ++ Text.copies column ' ' ++ Text.copies count '^')

/-- Diagnostics, each below the text. -/
def renderAll (text : String) (ds : List Diagnostic) : String := String.join (ds.map (render text))

end Diagnostic

end FeedQuery
