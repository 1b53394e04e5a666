import FeedQuery.Proofs.Derivation.Recording
import FeedQuery.Proofs.Trace.Calls

/-!
# Marks

The mark of a node is the number of events before it, and events are inserted while it is in use: an
operator starts a node right before its first operand. What keeps the marks right is that events are
only inserted before the last finished node, behind the start of every node that has not ended. So
the rules never change the events that were there before them, they only add finished nodes and
tokens (`Calls.Adds`); and when a node ends, its start stands where its rule has put it
(`Calls.Ending`).

`Calls.kinds_written` says this for every call that ends a node, and that in the trace the end is
the one that matches the start.
-/

namespace FeedQuery

namespace Calls

section
variable (ts : List Token) (calls : List RecorderCall)

/-- The events after the calls, each with the number of the call that put it there. -/
def entries : List (Event × Nat) := (Moment.after ts calls).entries

/-- The events after one more call are those that the call makes of them. -/
theorem entries_append_singleton (call : RecorderCall) :
    entries ts (calls ++ [call]) = (Moment.after ts calls).entriesAfter call := by
  rw [entries, Moment.after_append_singleton]
  rfl

/-- Without the calls, the events are those of the recorder. -/
theorem map_fst_entries : (entries ts calls).map (·.1) = (recorder ts calls).events :=
  Moment.map_fst_entries ts calls

/-- There are as many events as the recorder has. -/
theorem length_entries : (recorder ts calls).events.length = (entries ts calls).length := by
  rw [← map_fst_entries, List.length_map]

/-- A rule that starts a node puts its start behind all events. -/
theorem entries_enter (rule : Rule) : entries ts (enter ts rule calls).2 =
    entries ts calls ++ [(.enter Recorder.placeholder, calls.length)] := by
  rw [enter, entries_append_singleton, Moment.entriesAfter, Moment.count_after]
  rfl

/-- An operation puts its start where its first operand starts. -/
theorem entries_enterBefore (rule : Rule) (first : Mark) :
    entries ts (enterBefore ts rule first calls).2 =
      (entries ts calls).insertIdx first.index (.enter Recorder.placeholder, calls.length) := by
  rw [enterBefore, entries_append_singleton, Moment.entriesAfter, Moment.count_after]
  rfl

/-- When a node ends, its kind is written at its mark, and its end is put behind all events. -/
theorem entries_leave (node : Opening) (kind : NodeKind) :
    entries ts (leave ts node kind calls).2 =
      (entries ts calls).modify node.mark.index (fun entry => (.enter kind, entry.2)) ++
        [(.leave, calls.length)] := by
  rw [leave, entries_append_singleton, Moment.entriesAfter, Moment.count_after]
  rfl

/-- A message is no event. -/
theorem entries_complain (message : String) :
    entries ts (complain message calls) = entries ts calls :=
  entries_append_singleton ..

/-- The event of a token is put behind all others, if there is a token left. -/
theorem entries_advance : entries ts (advance calls) =
    if (recorder ts calls).pending.isEmpty then entries ts calls
    else entries ts calls ++ [(.advance, calls.length)] := by
  rw [advance, entries_append_singleton, Moment.entriesAfter, Moment.count_after]
  rfl

/-- The node is one that has been started, by the rule. -/
def Started (node : Opening) (rule : Rule) : Prop :=
  ∃ call, calls[node.call]? = some call ∧
    (Moment.after ts (calls.take node.call)).started? call = some (rule, node)

/-- Since the node has been started, a message has been recorded, and a token taken at most. -/
def Complained (node : Opening) : Prop :=
  ∃ rule message, calls.drop node.call = [.enter rule, .complain message] ∨
    calls.drop node.call = [.enter rule, .complain message, .advance]

/-- What holds when a node ends and its kind is said. -/
structure Ending (node : Opening) (kind : NodeKind) : Prop where
  /-- At its mark stands the start of a node. -/
  start : (recorder ts calls).events[node.mark.index]? = some (.enter Recorder.placeholder)
  /-- This start is the one that was put there for the mark. -/
  own : ((entries ts calls)[node.mark.index]?).map (·.2) = some node.call
  /-- The kind is one of the rule that started the node. -/
  kind_mem : ∃ rule, Started ts calls node rule ∧ kind ∈ rule.kinds
  /-- An error node comes from a branch that complains. -/
  complained : kind = .errorTree → Complained calls node

/-- Whenever a node ends, its mark is right. -/
def Sound : Prop :=
  ∀ n node kind, calls[n]? = some (.leave node kind) → Ending ts (calls.take n) node kind

end

/-- The events of finished nodes and of tokens, as the calls have put them there: the start of a
node has the kind that was said when the node ended. -/
inductive Whole (calls : List RecorderCall) : List (Event × Nat) → Prop
  | nil : Whole calls []
  | token {n : Nat} {es : List (Event × Nat)} : calls[n]? = some .advance → Whole calls es →
      Whole calls ((.advance, n) :: es)
  | node {n : Nat} {node : Opening} {kind : NodeKind} {inside es : List (Event × Nat)} :
      calls[n]? = some (.leave node kind) → Whole calls inside → Whole calls es →
      Whole calls ((.enter kind, node.call) :: (inside ++ (.leave, n) :: es))

section
variable {ts : List Token} {calls calls' calls'' : List RecorderCall} {es es' : List (Event × Nat)}
  {node : Opening} {kind : NodeKind}

/-- Finished nodes and tokens may stand behind others. -/
theorem Whole.append (h : Whole calls es) (h' : Whole calls es') : Whole calls (es ++ es') := by
  induction h with
  | nil => exact h'
  | token hn _ ih => exact .token hn ih
  | node hn hinside _ _ ih =>
    have := Whole.node hn hinside ih
    rwa [List.cons_append, List.append_assoc]

/-- Further calls do not change which calls have been made. -/
theorem getElem?_of_isPrefix {n : Nat} {call : RecorderCall} (hpre : calls <+: calls')
    (hn : calls[n]? = some call) : calls'[n]? = some call := by
  obtain ⟨rest, rfl⟩ := hpre
  rw [List.getElem?_append_left (List.getElem?_eq_some_iff.1 hn).1]
  exact hn

/-- Further calls do not change what the calls so far have put there. -/
theorem Whole.mono (h : Whole calls es) (hpre : calls <+: calls') : Whole calls' es := by
  induction h with
  | nil => exact .nil
  | token hn _ ih => exact .token (getElem?_of_isPrefix hpre hn) ih
  | node hn _ _ ihinside ih => exact .node (getElem?_of_isPrefix hpre hn) ihinside ih

/-- From `calls` to `calls'`, finished nodes and tokens have been added behind the events, and every
node that has ended was ended right. -/
structure Adds (ts : List Token) (calls calls' : List RecorderCall) : Prop where
  grows : calls <+: calls'
  whole : ∃ new, Whole calls' new ∧ entries ts calls' = entries ts calls ++ new
  sound : Sound ts calls → Sound ts calls'

/-- A rule that does nothing adds nothing. -/
theorem Adds.refl (ts : List Token) (calls : List RecorderCall) : Adds ts calls calls :=
  ⟨List.prefix_rfl, ⟨[], .nil, (List.append_nil _).symm⟩, id⟩

/-- Of two rules one after the other, the second adds behind what the first has added. -/
theorem Adds.trans (h : Adds ts calls calls') (h' : Adds ts calls' calls'') :
    Adds ts calls calls'' := by
  obtain ⟨new, hnew, heq⟩ := h.whole
  obtain ⟨new', hnew', heq'⟩ := h'.whole
  refine ⟨h.grows.trans h'.grows, ⟨new ++ new', ?_, ?_⟩, h'.sound ∘ h.sound⟩
  · exact (hnew.mono h'.grows).append hnew'
  · rw [heq', heq, List.append_assoc]

/-- After one more call all nodes have ended right, if that call ends none or ends it right. -/
theorem sound_append_singleton {call : RecorderCall} (h : Sound ts calls)
    (hcall : ∀ node kind, call = .leave node kind → Ending ts calls node kind) :
    Sound ts (calls ++ [call]) := by
  intro n node kind hn
  obtain hlt | rfl | hlt := Nat.lt_trichotomy n calls.length
  · rw [List.getElem?_append_left hlt] at hn
    rw [List.take_append_of_le_length (Nat.le_of_lt hlt)]
    exact h n node kind hn
  · rw [List.getElem?_concat_length] at hn
    rw [List.take_left]
    exact hcall node kind (Option.some.inj hn)
  · have hle : (calls ++ [call]).length ≤ n := by
      rw [List.length_append]
      exact hlt
    rw [List.getElem?_eq_none hle] at hn
    cases hn

/-! ## Calls and rules -/

/-- A message adds no event. -/
theorem adds_complain (message : String) : Adds ts calls (complain message calls) where
  grows := List.prefix_append ..
  whole := ⟨[], .nil, by rw [entries_complain, List.append_nil]⟩
  sound h := sound_append_singleton h nofun

/-- Taking a token adds that token. -/
theorem adds_advance : Adds ts calls (advance calls) where
  grows := List.prefix_append ..
  whole := by
    rw [entries_advance]
    split
    case isTrue => exact ⟨[], .nil, (List.append_nil _).symm⟩
    case isFalse => exact ⟨_, .token List.getElem?_concat_length .nil, rfl⟩
  sound h := sound_append_singleton h nofun

/-- Skipping adds a token at most. -/
theorem adds_skip : Adds ts calls (skip ts calls) := by
  rw [skip]
  split
  case isTrue => exact .refl ..
  case isFalse => exact adds_advance

/-- An expected token is added, or another one instead of it, or none. -/
theorem adds_expect (kind : TokenKind) (message : String) :
    Adds ts calls (expect ts kind message calls) := by
  rw [expect]
  split
  case isTrue => exact adds_advance
  case isFalse => exact (adds_complain message).trans adds_skip

/-- A node that a call has started stays started. -/
theorem started_of_isPrefix {call : RecorderCall} {rule : Rule} {mark : Mark}
    (hcall : (Moment.after ts calls).started? call = some (rule, ⟨calls.length, mark⟩))
    (hpre : calls ++ [call] <+: calls') : Started ts calls' ⟨calls.length, mark⟩ rule := by
  obtain ⟨rest, rfl⟩ := hpre
  refine ⟨call, ?_, ?_⟩
  · simp
  · rw [List.append_assoc, List.take_left]
    exact hcall

/-- A node ends: the start of it is the event at its mark, and what has been added since is inside
of it. -/
theorem adds_leave {inside : List (Event × Nat)} (hpre : calls <+: calls')
    (hsound : Sound ts calls → Sound ts calls')
    (hentries : entries ts calls' =
      entries ts calls ++ (.enter Recorder.placeholder, node.call) :: inside)
    (hinside : Whole calls' inside) (hmark : node.mark.index = (entries ts calls).length)
    (hkind : ∃ rule, Started ts calls' node rule ∧ kind ∈ rule.kinds)
    (hcomplained : kind = .errorTree → Complained calls' node) :
    Adds ts calls (leave ts node kind calls').2 := by
  have hstart : (entries ts calls')[node.mark.index]? =
      some (.enter Recorder.placeholder, node.call) := by
    rw [hentries, hmark, List.getElem?_append_right (Nat.le_refl _), Nat.sub_self]
    rfl
  have hending : Ending ts calls' node kind :=
    { start := by
        rw [← map_fst_entries, List.getElem?_map, hstart]
        rfl
      own := by
        rw [hstart]
        rfl
      kind_mem := hkind
      complained := hcomplained }
  have hnext : calls' <+: (leave ts node kind calls').2 := List.prefix_append ..
  have hleave : (leave ts node kind calls').2[calls'.length]? = some (.leave node kind) :=
    List.getElem?_concat_length
  refine ⟨hpre.trans hnext, ⟨_, .node hleave (hinside.mono hnext) .nil, ?_⟩, fun h => ?_⟩
  · rw [entries_leave, hentries, hmark]
    simp [List.modify_eq_take_drop]
  · refine sound_append_singleton (hsound h) ?_
    rintro _ _ ⟨⟩
    exact hending

/-- A rule starts a node, adds what is inside of it, and ends it. -/
theorem adds_node (rule : Rule) (h : Adds ts (enter ts rule calls).2 calls')
    (hkind : kind ∈ rule.kinds)
    (hcomplained : kind = .errorTree → Complained calls' (enter ts rule calls).1) :
    Adds ts calls (leave ts (enter ts rule calls).1 kind calls').2 := by
  obtain ⟨inside, hinside, heq⟩ := h.whole
  have hmark : (enter ts rule calls).1.mark.index = (entries ts calls).length :=
    length_entries ts calls
  have hstarted : Started ts calls' (enter ts rule calls).1 rule :=
    started_of_isPrefix (by rw [Moment.started?, Moment.count_after]; rfl) h.grows
  refine adds_leave ((List.prefix_append ..).trans h.grows) (fun hs => ?_) ?_ hinside hmark
    ⟨rule, hstarted, hkind⟩ hcomplained
  · exact h.sound (sound_append_singleton hs nofun)
  · rw [heq, entries_enter, List.append_assoc]
    rfl

/-- An operation starts right before the finished node that is its first operand. -/
theorem adds_operation {first : Mark} (hfirst : Adds ts calls calls')
    (hmark : first.index = (entries ts calls).length)
    (h : Adds ts (enterBefore ts .operation first calls').2 calls'') :
    Adds ts calls (leave ts (enterBefore ts .operation first calls').1 .exprBinary calls'').2 := by
  obtain ⟨operand, hoperand, heqfirst⟩ := hfirst.whole
  obtain ⟨inside, hinside, heq⟩ := h.whole
  have hpre : calls' <+: calls'' := (List.prefix_append ..).trans h.grows
  have hstarted : Started ts calls'' (enterBefore ts .operation first calls').1 .operation :=
    started_of_isPrefix (by rw [Moment.started?, Moment.count_after]; rfl) h.grows
  have hall : Whole calls'' (operand ++ inside) := (hoperand.mono hpre).append hinside
  refine adds_leave (hfirst.grows.trans hpre) (fun hs => ?_) ?_ hall hmark
    ⟨.operation, hstarted, .head _⟩ nofun
  · exact h.sound (sound_append_singleton (hfirst.sound hs) nofun)
  · rw [heq, entries_enterBefore, heqfirst, hmark, insertIdx_append_length, List.append_assoc]
    rfl

/-- An operand that is missing is an error node with a message and a token at most. -/
theorem complained_skip (rule : Rule) (message : String) :
    Complained (skip ts (complain message (enter ts rule calls).2)) (enter ts rule calls).1 := by
  refine ⟨rule, message, ?_⟩
  rw [skip]
  split
  case isTrue => exact .inl (by simp [complain, enter])
  case isFalse => exact .inr (by simp [advance, complain, enter])

/-- A token that has no place is put into a node. -/
theorem adds_reject (message : String) : Adds ts calls (reject ts message calls) := by
  refine adds_node .stray ((adds_complain message).trans adds_advance) (.head _) fun _ => ?_
  exact ⟨.stray, message, .inr (by simp [advance, complain, enter])⟩

/-- An operand is one finished node, and its mark is where it starts. -/
theorem adds_operand (ts : List Token) (calls : List RecorderCall) :
    Adds ts calls (operand ts calls).2 ∧
      (operand ts calls).1.index = (entries ts calls).length := by
  rw [← length_entries, operand]
  dsimp only
  split
  · exact ⟨adds_node .operand adds_advance (by decide) (absurd · (by decide)), rfl⟩
  · exact ⟨adds_node .operand adds_advance (by decide) (absurd · (by decide)), rfl⟩
  · refine ⟨adds_node .operand ((adds_complain _).trans adds_skip) (by decide) fun _ => ?_, rfl⟩
    exact complained_skip ..

/-- Behind the finished node at `first`, each operator starts an operation right before that node,
so no mark in use is moved. -/
theorem adds_operators {left : Option TokenKind} {fuel : Nat} {first : Mark}
    (h : Adds ts calls calls') (hfirst : first.index = (entries ts calls).length) :
    Adds ts calls (operators ts left fuel first calls') := by
  induction fuel generalizing left first calls calls' with
  | zero => exact h
  | succ fuel ih =>
    rw [operators]
    split
    · exact h
    · split
      case isFalse => exact h
      case isTrue =>
        obtain ⟨hoperand, hinner⟩ :=
          adds_operand ts (advance (enterBefore ts .operation first calls').2)
        exact ih (adds_operation h hfirst (adds_advance.trans (ih hoperand hinner))) hfirst

/-- An expression adds a finished node, which its operators may have put into others. -/
theorem adds_expression : Adds ts calls (expression ts calls) := by
  obtain ⟨hoperand, hfirst⟩ := adds_operand ts calls
  exact adds_operators hoperand hfirst

/-- A field adds a token or an expression, if anything. -/
theorem adds_field : Adds ts calls (field ts calls) := by
  rw [field]
  split
  · exact adds_advance
  · exact adds_complain _
  · exact adds_expression

/-- The fields after the first one add tokens and finished nodes. -/
theorem adds_moreFields (fuel : Nat) : Adds ts calls (moreFields ts fuel calls) := by
  induction fuel generalizing calls with
  | zero => exact .refl ..
  | succ fuel ih =>
    rw [moreFields]
    split
    · exact .refl ..
    · split
      · exact (adds_advance.trans adds_field).trans ih
      · split
        · exact ((adds_complain _).trans adds_field).trans ih
        · exact (adds_reject _).trans ih

/-- The fields are one node. -/
theorem adds_fieldList : Adds ts calls (fieldList ts calls) :=
  adds_node .fieldList (adds_field.trans (adds_moreFields _)) (.head _) nofun

/-- The clause of the table is one node. -/
theorem adds_fromClause : Adds ts calls (fromClause ts calls) :=
  adds_node .fromClause ((adds_expect ..).trans (adds_expect ..)) (.head _) nofun

/-- The clause of the condition is one node. -/
theorem adds_whereClause : Adds ts calls (whereClause ts calls) :=
  adds_node .whereClause ((adds_expect ..).trans adds_expression) (.head _) nofun

/-- Each token that is left is put into a node of its own. -/
theorem adds_leftovers (fuel : Nat) : Adds ts calls (leftovers ts fuel calls) := by
  induction fuel generalizing calls with
  | zero => exact .refl ..
  | succ fuel ih =>
    rw [leftovers]
    split
    · exact .refl ..
    · exact (adds_reject _).trans ih

/-- A clause that is there or not. -/
theorem adds_ite {p : Prop} [Decidable p] (h : Adds ts calls calls') :
    Adds ts calls (if p then calls' else calls) := by
  split
  · exact h
  · exact .refl ..

/-- A statement is one node, whichever clauses it has. -/
theorem adds_statement : Adds ts calls (statement ts calls) := by
  refine adds_node .statement ?_ (.head _) nofun
  refine .trans ?_ (adds_leftovers _)
  refine .trans ?_ (adds_ite adds_whereClause)
  refine .trans ?_ (adds_ite adds_fromClause)
  exact (adds_expect ..).trans adds_fieldList

/-- A query is one node. -/
theorem adds_file (ts : List Token) (calls : List RecorderCall) : Adds ts calls (file ts calls) :=
  adds_node .file adds_statement (.head _) nofun

/-! ## Starts and ends in the trace -/

/-- What stands between the start and the end of a finished node is the trace of trees. -/
theorem Whole.exists_trees (h : Whole calls es) : ∃ trees, es.map (·.1) = Tree.eventsOf trees := by
  induction h with
  | nil => exact ⟨[], rfl⟩
  | token _ _ ih =>
    obtain ⟨trees, hes⟩ := ih
    exact ⟨.leaf ⟨.star, "", ⟨0, 0⟩, []⟩ :: trees, congrArg (Event.advance :: ·) hes⟩
  | @node _ _ kind _ _ _ _ _ ihinside ih =>
    obtain ⟨children, hinside⟩ := ihinside
    obtain ⟨trees, hes⟩ := ih
    refine ⟨.node kind children [] :: trees, ?_⟩
    simp [Tree.eventsOf, Tree.events, hinside, hes]

/-- The call that said the kind of a node in the trace. -/
theorem Whole.exists_leave {n : Nat} (h : Whole calls es) (hmem : (.enter kind, n) ∈ es) :
    ∃ (m : Nat) (node : Opening), calls[m]? = some (.leave node kind) ∧ node.call = n := by
  induction h with
  | nil => cases hmem
  | token _ _ ih =>
    obtain ⟨⟩ | ⟨_, hmem⟩ := hmem
    exact ih hmem
  | @node m node kind' inside es hm _ _ ihinside ih =>
    obtain hhead | hmem := List.mem_cons.1 hmem
    · cases hhead
      exact ⟨m, node, hm, rfl⟩
    · obtain hmem | hmem := List.mem_append.1 hmem
      · exact ihinside hmem
      · obtain ⟨⟩ | ⟨_, hmem⟩ := hmem
        exact ih hmem

/-- The call that starts a node does not end one. -/
theorem Ending.ne_leave {n : Nat} (h : Ending ts (calls.take n) node kind) (node' : Opening)
    (kind' : NodeKind) : calls[node.call]? ≠ some (.leave node' kind') := by
  obtain ⟨rule, ⟨call, hcall, hstarted⟩, -⟩ := h.kind_mem
  intro hleave
  cases hleave.symm.trans (getElem?_of_isPrefix (List.take_prefix n calls) hcall)
  cases hstarted

/-- In the trace, the end of a node matches its start, which has the kind that was said. -/
theorem Whole.exists_matched {n : Nat} (h : Whole calls es) (hsound : Sound ts calls)
    (hn : calls[n]? = some (.leave node kind)) (hmem : n ∈ es.map (·.2)) :
    ∃ before inside after, es =
      before ++ (.enter kind, node.call) :: (inside ++ (.leave, n) :: after) ∧
      Whole calls inside := by
  induction h with
  | nil => cases hmem
  | @token m es hm _ ih =>
    obtain rfl | hmem := List.mem_cons.1 hmem
    · cases hn.symm.trans hm
    · obtain ⟨before, inside, after, rfl, hinside⟩ := ih hmem
      exact ⟨_ :: before, inside, after, rfl, hinside⟩
  | @node m node' kind' inside es hm hinside _ ihinside ih =>
    rw [List.map_cons, List.map_append, List.map_cons, List.mem_cons, List.mem_append,
      List.mem_cons] at hmem
    obtain rfl | hmem | rfl | hmem := hmem
    · exact absurd hn ((hsound _ _ _ hm).ne_leave node kind)
    · obtain ⟨before, inside', after, rfl, hinside'⟩ := ihinside hmem
      refine ⟨(.enter kind', node'.call) :: before, inside', after ++ (.leave, m) :: es, ?_,
        hinside'⟩
      simp
    · cases hm.symm.trans hn
      exact ⟨[], inside, es, rfl, hinside⟩
    · obtain ⟨before, inside', after, rfl, hinside'⟩ := ih hmem
      refine ⟨(.enter kind', node'.call) :: (inside ++ (.leave, m) :: before), inside', after, ?_,
        hinside'⟩
      simp

/-- The events that are there stay. -/
theorem mem_entries_append_singleton {n : Nat} (call : RecorderCall)
    (h : n ∈ (entries ts calls).map (·.2)) :
    n ∈ (entries ts (calls ++ [call])).map (·.2) := by
  rw [entries_append_singleton]
  obtain hperm | hperm := (Moment.after ts calls).map_snd_entriesAfter call
  · exact hperm.mem_iff.2 h
  · exact hperm.mem_iff.2 (.tail _ h)

/-- A call that ends a node puts an event there. -/
theorem mem_entries_of_leave {n : Nat} (h : calls[n]? = some (.leave node kind)) :
    n ∈ (entries ts calls).map (·.2) := by
  induction calls using List.reverseRecOn with
  | nil => cases h
  | append_singleton calls call ih =>
    by_cases hlt : n < calls.length
    · rw [List.getElem?_append_left hlt] at h
      exact mem_entries_append_singleton call (ih h)
    · have hle : n < (calls ++ [call]).length := (List.getElem?_eq_some_iff.1 h).1
      rw [List.length_append, List.length_singleton] at hle
      obtain rfl : n = calls.length := by omega
      rw [List.getElem?_concat_length] at h
      cases h
      have hleave := entries_leave ts calls node kind
      rw [leave] at hleave
      rw [hleave, List.map_append]
      exact List.mem_append_right _ (.head _)

/-- Every event is put there by a call of its own. -/
theorem nodup_entries (ts : List Token) (calls : List RecorderCall) :
    ((entries ts calls).map (·.2)).Nodup ∧
      ∀ n ∈ (entries ts calls).map (·.2), n < calls.length := by
  induction calls using List.reverseRecOn with
  | nil => exact ⟨.nil, nofun⟩
  | append_singleton calls call ih =>
    obtain ⟨hnodup, hlt⟩ := ih
    have hcount := Moment.count_after ts calls
    rw [entries_append_singleton, List.length_append, List.length_singleton]
    obtain hperm | hperm := (Moment.after ts calls).map_snd_entriesAfter call
    · refine ⟨hperm.nodup_iff.2 hnodup, fun n hn => ?_⟩
      exact Nat.lt_succ_of_lt (hlt n (hperm.mem_iff.1 hn))
    · rw [hcount] at hperm
      refine ⟨hperm.nodup_iff.2 (List.nodup_cons.2 ⟨fun hmem => ?_, hnodup⟩), fun n hn => ?_⟩
      · exact Nat.lt_irrefl _ (hlt _ hmem)
      · obtain rfl | hn := List.mem_cons.1 (hperm.mem_iff.1 hn)
        · exact Nat.lt_succ_self _
        · exact Nat.lt_succ_of_lt (hlt n hn)

/-- The events of a parse are those of finished nodes and of tokens. -/
theorem whole_ofTokens (ts : List Token) : Whole (ofTokens ts) (entries ts (ofTokens ts)) := by
  obtain ⟨new, hnew, heq⟩ := (adds_file ts []).whole
  have hnil : entries ts [] = [] := rfl
  rw [hnil, List.nil_append] at heq
  rwa [ofTokens, heq]

/-- All nodes of a parse have ended right. -/
theorem sound_ofTokens (ts : List Token) : Sound ts (ofTokens ts) :=
  (adds_file ts []).sound fun _ _ _ h => nomatch h

end

/-- **Kinds are written to the right place.** The calls are those of the parse, and each event of
the trace was put there by a call of its own. Whenever a node ends, the start of a node stands at
its mark, and it is the one that was put there for this mark; in the trace, the end of the node
matches that start, which has the kind that was said. Every start in the trace has got its kind in
this way: one of the kinds of the rule that started the node, and the kind of error nodes only from
a branch that complains. -/
theorem kinds_written (ts : List Token) :
    recorder ts (ofTokens ts) = Grammar.file (Recorder.ofTokens ts) ∧
    (entries ts (ofTokens ts)).map (·.1) = (Trace.ofTokens ts).events ∧
    ((entries ts (ofTokens ts)).map (·.2)).Nodup ∧
    (∀ n node kind, (ofTokens ts)[n]? = some (.leave node kind) →
      Ending ts ((ofTokens ts).take n) node kind ∧
      ∃ before inside after, entries ts (ofTokens ts) =
          before ++ (.enter kind, node.call) :: (inside ++ (.leave, n) :: after) ∧
        ∃ trees, inside.map (·.1) = Tree.eventsOf trees) ∧
    (∀ kind n, (.enter kind, n) ∈ entries ts (ofTokens ts) →
      ∃ (m : Nat) (node : Opening), node.call = n ∧ (ofTokens ts)[m]? = some (.leave node kind) ∧
        Ending ts ((ofTokens ts).take m) node kind) := by
  have hwhole := whole_ofTokens ts
  have hsound := sound_ofTokens ts
  have hfile := recorder_ofTokens ts
  refine ⟨hfile, ?_, (nodup_entries ts _).1, fun n node kind hn => ?_, fun kind n hmem => ?_⟩
  · rw [map_fst_entries, hfile]
    rfl
  · obtain ⟨before, inside, after, heq, hinside⟩ :=
      hwhole.exists_matched hsound hn (mem_entries_of_leave hn)
    exact ⟨hsound n node kind hn, before, inside, after, heq, hinside.exists_trees⟩
  · obtain ⟨m, node, hm, hnode⟩ := hwhole.exists_leave hmem
    exact ⟨m, node, hnode, hm, hsound m node kind hm⟩

end Calls

end FeedQuery
