import FeedQuery.Trace
import Mathlib.Data.List.Induction
import Mathlib.Data.List.InsertIdx

/-!
# A parse call by call

A parse works on its recorder by calls: it starts nodes and ends them, takes tokens and records
messages. `Calls.file` is the grammar once more, but its state is the list of the calls made so far;
what the recorder is after them is found by performing them (`Moment.after`). A moment of a parse
also knows of every event which call has put it there, and a node that has been started is known by
the call that started it, besides its mark (`Opening`).

`Calls.recorder_ofTokens` says that these are the calls of the parse: performing them gives what the
grammar gives.
-/

namespace FeedQuery

/-- The rules of the grammar that start nodes. -/
inductive Rule where
  | file
  | statement
  | fieldList
  | fromClause
  | whereClause
  | operand
  /-- An operator and its operands. -/
  | operation
  /-- A token that has no place. -/
  | stray
deriving DecidableEq

/-- The kinds of the nodes that a rule makes. -/
def Rule.kinds : Rule → List NodeKind
  | .file => [.file]
  | .statement => [.selectStmt]
  | .fieldList => [.fieldList]
  | .fromClause => [.fromClause]
  | .whereClause => [.whereClause]
  | .operand => [.exprName, .exprString, .errorTree]
  | .operation => [.exprBinary]
  | .stray => [.errorTree]

/-- A node that has been started. -/
structure Opening where
  /-- The number of the call that started it. -/
  call : Nat
  /-- The mark that this call gave. -/
  mark : Mark
deriving DecidableEq

/-- A call of a recorder. -/
inductive RecorderCall where
  /-- The rule starts a node. -/
  | enter (rule : Rule)
  /-- The rule starts a node right before a finished one. -/
  | enterBefore (rule : Rule) (first : Mark)
  /-- A node ends, and its kind is said. -/
  | leave (node : Opening) (kind : NodeKind)
  /-- The next token is taken, if there is one. -/
  | advance
  /-- A message is recorded. -/
  | complain (message : String)
deriving DecidableEq

/-- The recorder after a call. -/
def Recorder.perform (r : Recorder) : RecorderCall → Recorder
  | .enter _ => r.enter.2
  | .enterBefore _ first => (r.enterBefore first).2
  | .leave node kind => (r.leave node.mark kind).2
  | .advance => r.advance
  | .complain message => r.complain message

/-- A moment of a parse. -/
structure Moment where
  recorder : Recorder
  /-- The events, each with the number of the call that put it there. -/
  entries : List (Event × Nat)
  /-- The number of calls so far. -/
  count : Nat

namespace Moment

/-- The events after a call. The call that ends a node overwrites the event at its mark, whichever
that is; the event stays the one that another call has put there. -/
def entriesAfter (m : Moment) : RecorderCall → List (Event × Nat)
  | .enter _ => m.entries ++ [(.enter Recorder.placeholder, m.count)]
  | .enterBefore _ first =>
    m.entries.insertIdx first.index (.enter Recorder.placeholder, m.count)
  | .leave node kind =>
    m.entries.modify node.mark.index (fun entry => (.enter kind, entry.2)) ++ [(.leave, m.count)]
  | .advance =>
    if m.recorder.pending.isEmpty then m.entries else m.entries ++ [(.advance, m.count)]
  | .complain _ => m.entries

/-- The node that a call starts, and the rule that starts it. -/
def started? (m : Moment) : RecorderCall → Option (Rule × Opening)
  | .enter rule => some (rule, ⟨m.count, m.recorder.enter.1⟩)
  | .enterBefore rule first => some (rule, ⟨m.count, (m.recorder.enterBefore first).1⟩)
  | _ => none

/-- The moment after a call. -/
def next (m : Moment) (call : RecorderCall) : Moment :=
  ⟨m.recorder.perform call, m.entriesAfter call, m.count + 1⟩

/-- The moment of a parse of the tokens after the given calls. -/
def after (ts : List Token) (calls : List RecorderCall) : Moment :=
  calls.foldl next ⟨.ofTokens ts, [], 0⟩

/-- The moment after one more call is the next one. -/
theorem after_append_singleton (ts : List Token) (calls : List RecorderCall) (call : RecorderCall) :
    after ts (calls ++ [call]) = (after ts calls).next call := by
  rw [after, List.foldl_append]
  rfl

/-- The number of calls is counted. -/
theorem count_after (ts : List Token) (calls : List RecorderCall) :
    (after ts calls).count = calls.length := by
  induction calls using List.reverseRecOn with
  | nil => rfl
  | append_singleton calls call ih =>
    rw [after_append_singleton, List.length_append, ← ih]
    rfl

/-- A call does to the events what it does to those of the recorder. -/
theorem map_fst_entriesAfter {m : Moment} (h : m.entries.map (·.1) = m.recorder.events)
    (call : RecorderCall) : (m.entriesAfter call).map (·.1) = (m.recorder.perform call).events := by
  cases call with
  | enter rule => rw [entriesAfter, List.map_append, h]; rfl
  | enterBefore rule first => rw [entriesAfter, List.map_insertIdx, h]; rfl
  | leave node kind =>
    have hset : (m.entries.modify node.mark.index fun entry => (.enter kind, entry.2)).map (·.1) =
        (m.entries.map (·.1)).set node.mark.index (.enter kind) := by
      refine List.ext_getElem? fun i => ?_
      rw [List.getElem?_map, List.getElem?_modify, List.getElem?_set]
      grind
    rw [entriesAfter, List.map_append, hset, h]
    rfl
  | advance =>
    rw [entriesAfter, Recorder.perform, Recorder.advance]
    cases m.recorder.pending with
    | nil => exact h
    | cons t ts => simp [h]
  | complain message =>
    rw [entriesAfter, Recorder.perform, Recorder.complain, h]
    split <;> rfl

/-- A call puts one event there at most, and the events that are there stay the ones that the calls
before have put there. -/
theorem map_snd_entriesAfter (m : Moment) (call : RecorderCall) :
    ((m.entriesAfter call).map (·.2)).Perm (m.entries.map (·.2)) ∨
      ((m.entriesAfter call).map (·.2)).Perm (m.count :: m.entries.map (·.2)) := by
  cases call with
  | enter rule =>
    rw [entriesAfter, List.map_append]
    exact .inr (List.perm_append_singleton ..)
  | enterBefore rule first =>
    rw [entriesAfter, List.map_insertIdx]
    by_cases hle : first.index ≤ (m.entries.map (·.2)).length
    · exact .inr (List.perm_insertIdx _ _ hle)
    · rw [List.insertIdx_of_length_lt (Nat.not_le.1 hle)]
      exact .inl (.refl _)
  | leave node kind =>
    have hmodify : (m.entries.modify node.mark.index
        fun entry => (.enter kind, entry.2)).map (·.2) = m.entries.map (·.2) := by
      refine List.ext_getElem? fun i => ?_
      rw [List.getElem?_map, List.getElem?_modify, List.getElem?_map]
      grind
    rw [entriesAfter, List.map_append, hmodify]
    exact .inr (List.perm_append_singleton ..)
  | advance =>
    rw [entriesAfter]
    split
    case isTrue => exact .inl (.refl _)
    case isFalse =>
      rw [List.map_append]
      exact .inr (List.perm_append_singleton ..)
  | complain message => exact .inl (.refl _)

/-- The events are those of the recorder. -/
theorem map_fst_entries (ts : List Token) (calls : List RecorderCall) :
    (after ts calls).entries.map (·.1) = (after ts calls).recorder.events := by
  induction calls using List.reverseRecOn with
  | nil => rfl
  | append_singleton calls call ih =>
    rw [after_append_singleton]
    exact map_fst_entriesAfter ih call

end Moment

namespace Calls

open Grammar

variable (ts : List Token)

/-- The recorder after the calls. -/
def recorder (calls : List RecorderCall) : Recorder := (Moment.after ts calls).recorder

/-! ## The calls of the rules -/

/-- Starts a node. -/
def enter (rule : Rule) (calls : List RecorderCall) : Opening × List RecorderCall :=
  (⟨calls.length, (recorder ts calls).enter.1⟩, calls ++ [.enter rule])

/-- Starts a node right before a finished one. -/
def enterBefore (rule : Rule) (first : Mark) (calls : List RecorderCall) :
    Opening × List RecorderCall :=
  (⟨calls.length, ((recorder ts calls).enterBefore first).1⟩, calls ++ [.enterBefore rule first])

/-- Ends a node and says its kind. -/
def leave (node : Opening) (kind : NodeKind) (calls : List RecorderCall) :
    Mark × List RecorderCall :=
  (((recorder ts calls).leave node.mark kind).1, calls ++ [.leave node kind])

/-- Takes the next token. -/
def advance (calls : List RecorderCall) : List RecorderCall := calls ++ [.advance]

/-- Records a message. -/
def complain (message : String) (calls : List RecorderCall) : List RecorderCall :=
  calls ++ [.complain message]

/-- Takes the next token unless it starts a clause. -/
def skip (calls : List RecorderCall) : List RecorderCall :=
  if (recorder ts calls).atClause then calls else advance calls

/-- Takes a token of that kind, or records the message and takes whatever is there instead. -/
def expect (kind : TokenKind) (message : String) (calls : List RecorderCall) : List RecorderCall :=
  if (recorder ts calls).at? kind then advance calls else skip ts (complain message calls)

/-- Puts the next token into an error node of its own, with the message. -/
def reject (message : String) (calls : List RecorderCall) : List RecorderCall :=
  let (node, calls) := enter ts .stray calls
  (leave ts node .errorTree (advance (complain message calls))).2

/-- Parses an operand. -/
def operand (calls : List RecorderCall) : Mark × List RecorderCall :=
  let (node, calls) := enter ts .operand calls
  match (recorder ts calls).peek with
  | some .identifier => leave ts node .exprName (advance calls)
  | some .string => leave ts node .exprString (advance calls)
  | _ => leave ts node .errorTree (skip ts (complain expectedExpression calls))

/-- Parses the operators behind the operand at `first`. -/
def operators (left : Option TokenKind) : Nat → Mark → List RecorderCall → List RecorderCall
  | 0, _, calls => calls
  | fuel + 1, first, calls =>
    match (recorder ts calls).peek with
    | none => calls
    | some op =>
      if bindsTighter left op then
        let (node, calls) := enterBefore ts .operation first calls
        let (inner, calls) := operand ts (advance calls)
        let calls := operators (some op) fuel inner calls
        let (whole, calls) := leave ts node .exprBinary calls
        operators left fuel whole calls
      else calls

/-- Parses an expression. -/
def expression (calls : List RecorderCall) : List RecorderCall :=
  let (first, calls) := operand ts calls
  operators ts none (recorder ts calls).pending.length first calls

/-- Parses a field. -/
def field (calls : List RecorderCall) : List RecorderCall :=
  match (recorder ts calls).peek with
  | some .star => advance calls
  | some .comma => complain expectedField calls
  | _ => expression ts calls

/-- Parses the fields after the first one. -/
def moreFields : Nat → List RecorderCall → List RecorderCall
  | 0, calls => calls
  | fuel + 1, calls =>
    let r := recorder ts calls
    if r.peek.isNone || r.atClause then calls
    else if r.at? .comma then moreFields fuel (field ts (advance calls))
    else if r.atField then moreFields fuel (field ts (complain expectedComma calls))
    else moreFields fuel (reject ts expectedComma calls)

/-- Parses the fields. -/
def fieldList (calls : List RecorderCall) : List RecorderCall :=
  let (node, calls) := enter ts .fieldList calls
  let calls := field ts calls
  (leave ts node .fieldList (moreFields ts (recorder ts calls).pending.length calls)).2

/-- Parses the table. -/
def fromClause (calls : List RecorderCall) : List RecorderCall :=
  let (node, calls) := enter ts .fromClause calls
  let calls := expect ts .identifier expectedTable (expect ts .kwFrom expectedFrom calls)
  (leave ts node .fromClause calls).2

/-- Parses the condition. -/
def whereClause (calls : List RecorderCall) : List RecorderCall :=
  let (node, calls) := enter ts .whereClause calls
  (leave ts node .whereClause (expression ts (expect ts .kwWhere expectedWhere calls))).2

/-- Puts each token that is left into an error node. -/
def leftovers : Nat → List RecorderCall → List RecorderCall
  | 0, calls => calls
  | fuel + 1, calls =>
    if (recorder ts calls).peek.isNone then calls
    else leftovers fuel (reject ts unexpectedToken calls)

/-- Parses a statement and whatever comes after it. -/
def statement (calls : List RecorderCall) : List RecorderCall :=
  let (node, calls) := enter ts .statement calls
  let calls := fieldList ts (expect ts .kwSelect expectedSelect calls)
  let calls := if (recorder ts calls).at? .kwFrom then fromClause ts calls else calls
  let calls := if (recorder ts calls).at? .kwWhere then whereClause ts calls else calls
  (leave ts node .selectStmt (leftovers ts (recorder ts calls).pending.length calls)).2

/-- Parses a query. -/
def file (calls : List RecorderCall) : List RecorderCall :=
  let (node, calls) := enter ts .file calls
  (leave ts node .file (statement ts calls)).2

/-- The calls of the parse of the tokens. -/
def ofTokens : List RecorderCall := file ts []

/-! ## They are the calls of the grammar -/

variable (calls : List RecorderCall)

/-- The recorder after one more call is the one that performs it. -/
theorem recorder_append_singleton (call : RecorderCall) :
    recorder ts (calls ++ [call]) = (recorder ts calls).perform call := by
  rw [recorder, Moment.after_append_singleton]
  rfl

@[simp] theorem recorder_enter (rule : Rule) :
    recorder ts (enter ts rule calls).2 = (recorder ts calls).enter.2 :=
  recorder_append_singleton ..

@[simp] theorem mark_enter (rule : Rule) :
    (enter ts rule calls).1.mark = (recorder ts calls).enter.1 := rfl

@[simp] theorem recorder_enterBefore (rule : Rule) (first : Mark) :
    recorder ts (enterBefore ts rule first calls).2 =
      ((recorder ts calls).enterBefore first).2 :=
  recorder_append_singleton ..

@[simp] theorem mark_enterBefore (rule : Rule) (first : Mark) :
    (enterBefore ts rule first calls).1.mark = ((recorder ts calls).enterBefore first).1 := rfl

@[simp] theorem recorder_leave (node : Opening) (kind : NodeKind) :
    recorder ts (leave ts node kind calls).2 = ((recorder ts calls).leave node.mark kind).2 :=
  recorder_append_singleton ..

@[simp] theorem mark_leave (node : Opening) (kind : NodeKind) :
    (leave ts node kind calls).1 = ((recorder ts calls).leave node.mark kind).1 := rfl

@[simp] theorem recorder_advance : recorder ts (advance calls) = (recorder ts calls).advance :=
  recorder_append_singleton ..

@[simp] theorem recorder_complain (message : String) :
    recorder ts (complain message calls) = (recorder ts calls).complain message :=
  recorder_append_singleton ..

@[simp] theorem recorder_skip : recorder ts (skip ts calls) = (recorder ts calls).skip := by
  rw [skip, Recorder.skip]
  split <;> simp

@[simp] theorem recorder_expect (kind : TokenKind) (message : String) :
    recorder ts (expect ts kind message calls) = (recorder ts calls).expect kind message := by
  rw [expect, Recorder.expect]
  split <;> simp

@[simp] theorem recorder_reject (message : String) :
    recorder ts (reject ts message calls) = (recorder ts calls).reject message := by
  simp [reject, Recorder.reject]

/-- The calls of an operand give its mark and what the grammar makes of the recorder. -/
theorem operand_eq :
    ((operand ts calls).1, recorder ts (operand ts calls).2) =
      Grammar.operand (recorder ts calls) := by
  simp only [operand, Grammar.operand, recorder_enter]
  split <;> simp [*]

@[simp] theorem mark_operand :
    (operand ts calls).1 = (Grammar.operand (recorder ts calls)).1 :=
  congrArg Prod.fst (operand_eq ts calls)

@[simp] theorem recorder_operand :
    recorder ts (operand ts calls).2 = (Grammar.operand (recorder ts calls)).2 :=
  congrArg Prod.snd (operand_eq ts calls)

@[simp] theorem recorder_operators (left : Option TokenKind) (fuel : Nat) (first : Mark) :
    recorder ts (operators ts left fuel first calls) =
      Grammar.operators left fuel first (recorder ts calls) := by
  induction fuel generalizing left first calls with
  | zero => rfl
  | succ fuel ih =>
    rw [operators, Grammar.operators]
    cases (recorder ts calls).peek with
    | none => rfl
    | some op =>
      dsimp only
      split
      · simp [ih]
      · rfl

@[simp] theorem recorder_expression :
    recorder ts (expression ts calls) = Grammar.expression (recorder ts calls) := by
  simp [expression, Grammar.expression]

@[simp] theorem recorder_field :
    recorder ts (field ts calls) = Grammar.field (recorder ts calls) := by
  rw [field, Grammar.field]
  split <;> simp [*]

@[simp] theorem recorder_moreFields (fuel : Nat) :
    recorder ts (moreFields ts fuel calls) = Grammar.moreFields fuel (recorder ts calls) := by
  induction fuel generalizing calls with
  | zero => rfl
  | succ fuel ih =>
    simp only [moreFields, Grammar.moreFields]
    split
    · rfl
    · split
      · simp [ih]
      · split <;> simp [ih]

@[simp] theorem recorder_fieldList :
    recorder ts (fieldList ts calls) = Grammar.fieldList (recorder ts calls) := by
  simp [fieldList, Grammar.fieldList]

@[simp] theorem recorder_fromClause :
    recorder ts (fromClause ts calls) = Grammar.fromClause (recorder ts calls) := by
  simp [fromClause, Grammar.fromClause]

@[simp] theorem recorder_whereClause :
    recorder ts (whereClause ts calls) = Grammar.whereClause (recorder ts calls) := by
  simp [whereClause, Grammar.whereClause]

@[simp] theorem recorder_leftovers (fuel : Nat) :
    recorder ts (leftovers ts fuel calls) = Grammar.leftovers fuel (recorder ts calls) := by
  induction fuel generalizing calls with
  | zero => rfl
  | succ fuel ih =>
    rw [leftovers, Grammar.leftovers]
    split
    · rfl
    · simp [ih]

@[simp] theorem recorder_statement :
    recorder ts (statement ts calls) = Grammar.statement (recorder ts calls) := by
  simp [statement, Grammar.statement, apply_ite (recorder ts)]

/-- **The calls are those of the parse.** Performing them gives what the grammar gives. -/
theorem recorder_ofTokens : recorder ts (ofTokens ts) = Grammar.file (Recorder.ofTokens ts) := by
  have hstart : recorder ts [] = Recorder.ofTokens ts := rfl
  simp [ofTokens, file, Grammar.file, hstart]

end Calls

end FeedQuery
