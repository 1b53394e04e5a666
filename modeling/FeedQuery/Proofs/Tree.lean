import FeedQuery.Tree

/-!
# Facts about trees

What holds of trees by induction on them, where a subtree stands, and which traces are the traces of
trees (`Tree.ofTrace_eq_ok_iff`).
-/

namespace FeedQuery.Tree

/-!
## Trees and lists of trees

Induction on trees with the children of a node at once (`Tree.induct`), the tokens and the trace of
a list of trees, and trees that satisfy a condition at every node (`Tree.Licensed`).
-/

/-- Induction on trees: a fact about a node follows from the same fact about its children. -/
@[elab_as_elim]
theorem induct {motive : Tree → Prop} (leaf : ∀ token, motive (.leaf token))
    (node : ∀ kind children errors, (∀ c ∈ children, motive c) →
      motive (.node kind children errors)) (t : Tree) : motive t :=
  @Tree.rec motive (fun ts => ∀ c ∈ ts, motive c) leaf node (List.forall_mem_nil _)
    (fun _ _ h hs => List.forall_mem_cons.2 ⟨h, hs⟩) t

/-- The tokens of a list of trees are those of its trees. -/
theorem leavesOf_eq_flatMap (ts : List Tree) : leavesOf ts = ts.flatMap leaves := by
  induction ts with
  | nil => rfl
  | cons t ts ih => simp [leavesOf, ih]

/-- The trace of a list of trees is that of its trees, one after the other. -/
theorem eventsOf_eq_flatMap (ts : List Tree) : eventsOf ts = ts.flatMap events := by
  induction ts with
  | nil => rfl
  | cons t ts ih => simp [eventsOf, ih]

/-- The messages of a list of trees are those of its trees. -/
theorem nodeErrorsOf_eq_flatMap (ts : List Tree) : nodeErrorsOf ts = ts.flatMap nodeErrors := by
  induction ts with
  | nil => rfl
  | cons t ts ih => simp [nodeErrorsOf, ih]

/-- The tokens of trees one after the other. -/
theorem leavesOf_append (us vs : List Tree) : leavesOf (us ++ vs) = leavesOf us ++ leavesOf vs := by
  simp [leavesOf_eq_flatMap]

/-- A list of one tree has the tokens of the tree. -/
theorem leavesOf_singleton (t : Tree) : leavesOf [t] = t.leaves := by
  rw [leavesOf, leavesOf, List.append_nil]

/-- The traces of trees one after the other. -/
theorem eventsOf_append (us vs : List Tree) : eventsOf (us ++ vs) = eventsOf us ++ eventsOf vs := by
  simp [eventsOf_eq_flatMap]

/-! ### Conditions on nodes -/

mutual

/-- Every node of the tree, with its kind, its children and its messages, satisfies `R`. -/
def Licensed (R : NodeKind → List Tree → List String → Prop) : Tree → Prop
  | .leaf _ => True
  | .node kind children errors => R kind children errors ∧ LicensedOf R children

/-- `Licensed` over the trees of a list. -/
def LicensedOf (R : NodeKind → List Tree → List String → Prop) : List Tree → Prop
  | [] => True
  | t :: rest => Licensed R t ∧ LicensedOf R rest

end

/-- `LicensedOf` in the per-element form. -/
theorem licensedOf_iff {R : NodeKind → List Tree → List String → Prop} (ts : List Tree) :
    LicensedOf R ts ↔ ∀ t ∈ ts, Licensed R t := by
  induction ts with
  | nil => simp [LicensedOf]
  | cons t ts ih => simp [LicensedOf, ih]

@[simp] theorem licensed_leaf {R : NodeKind → List Tree → List String → Prop} (t : Token) :
    Licensed R (.leaf t) := trivial

@[simp] theorem licensed_node {R : NodeKind → List Tree → List String → Prop} (kind : NodeKind)
    (children : List Tree) (errors : List String) :
    Licensed R (.node kind children errors) ↔
      R kind children errors ∧ ∀ c ∈ children, Licensed R c := by
  rw [Licensed, licensedOf_iff]

/-- A condition on nodes may be weakened. -/
theorem Licensed.mono {R R' : NodeKind → List Tree → List String → Prop} {t : Tree}
    (h : t.Licensed R) (hR : ∀ kind children errors, R kind children errors →
      R' kind children errors) : t.Licensed R' := by
  induction t using Tree.induct with
  | leaf => trivial
  | node kind children errors ih =>
    obtain ⟨hnode, hc⟩ := (licensed_node ..).1 h
    exact (licensed_node ..).2 ⟨hR _ _ _ hnode, fun c hmem => ih c hmem (hc c hmem)⟩

/-- No node of the tree carries messages. -/
abbrev Unmarked (t : Tree) : Prop := t.Licensed fun _ _ errors => errors = []

/-- A tree without messages on its nodes has none to list. -/
theorem nodeErrors_eq_nil {t : Tree} (h : t.Unmarked) : t.nodeErrors = [] := by
  induction t using Tree.induct with
  | leaf => rfl
  | node kind children errors ih =>
    obtain ⟨rfl, hc⟩ := (licensed_node ..).1 h
    rw [nodeErrors, List.append_nil, nodeErrorsOf_eq_flatMap, List.flatMap_eq_nil_iff]
    exact fun c hmem => ih c hmem (hc c hmem)

/-- A node above unmarked trees lists the messages that it carries itself. -/
theorem nodeErrors_node {children : List Tree} (h : ∀ c ∈ children, c.Unmarked)
    (kind : NodeKind) (errors : List String) :
    (node kind children errors).nodeErrors = errors := by
  have hnil : nodeErrorsOf children = [] := by
    rw [nodeErrorsOf_eq_flatMap, List.flatMap_eq_nil_iff]
    exact fun c hc => nodeErrors_eq_nil (h c hc)
  rw [nodeErrors, hnil, List.nil_append]

/-- Nothing is wrong with a tree when neither its tokens nor its nodes carry messages. -/
theorem diagnostics_eq_nil_iff (t : Tree) :
    t.diagnostics = [] ↔ (∀ u ∈ t.leaves, u.errors = []) ∧ t.nodeErrors = [] := by
  simp [diagnostics, tokenDiagnostics]

/-- Nothing is wrong with a node above unmarked trees when neither its tokens nor the node itself
carry messages. -/
theorem diagnostics_eq_nil {children : List Tree} (h : ∀ c ∈ children, c.Unmarked)
    (kind : NodeKind) (errors : List String) :
    (node kind children errors).diagnostics = [] ↔
      (∀ t ∈ leavesOf children, t.errors = []) ∧ errors = [] := by
  rw [diagnostics_eq_nil_iff, nodeErrors_node h, leaves]

/-!
## Subtrees and what follows them

`Tree.Holds sub t after` says that `sub` stands in `t`, with the tokens `after` of `t` behind it.
`Tree.HoldsOf` is the same over the trees of a list; a subtree of a list of trees is a subtree of
one of them, and the tokens of the trees behind that one follow it too (`Tree.holdsOf_append`).
-/

/-- `sub` stands in a tree, with these tokens of the tree behind it. -/
inductive Holds (sub : Tree) : Tree → List Token → Prop
  | self : Holds sub sub []
  | child {c : Tree} {after : List Token} {kind : NodeKind} {us vs : List Tree}
      {errors : List String} : Holds sub c after →
      Holds sub (.node kind (us ++ c :: vs) errors) (after ++ leavesOf vs)

/-- `sub` stands in one of the trees, with these tokens of the trees behind it. -/
def HoldsOf (sub : Tree) (ts : List Tree) (after : List Token) : Prop :=
  ∃ us c vs after', ts = us ++ c :: vs ∧ Holds sub c after' ∧ after = after' ++ leavesOf vs

/-- In a tree stand the tree itself and what stands in its children. -/
theorem holds_node {sub : Tree} {kind : NodeKind} {children : List Tree} {errors : List String} :
    Holds sub (.node kind children errors) after ↔
      (sub = .node kind children errors ∧ after = []) ∨ HoldsOf sub children after := by
  constructor
  · intro h
    generalize htree : Tree.node kind children errors = tree at h
    cases h with
    | self => exact .inl ⟨rfl, rfl⟩
    | child h =>
      cases htree
      exact .inr ⟨_, _, _, _, rfl, h, rfl⟩
  · rintro (⟨rfl, rfl⟩ | ⟨us, c, vs, after', rfl, h, rfl⟩)
    · exact .self
    · exact .child h

/-- In a token stands nothing but the token. -/
theorem holds_leaf {sub : Tree} {t : Token} :
    Holds sub (.leaf t) after ↔ sub = .leaf t ∧ after = [] := by
  constructor
  · intro h
    generalize htree : Tree.leaf t = tree at h
    cases h with
    | self => exact ⟨rfl, rfl⟩
    | child => cases htree
  · rintro ⟨rfl, rfl⟩
    exact .self

@[simp] theorem not_holdsOf_nil {sub : Tree} : ¬ HoldsOf sub [] after := by
  rintro ⟨us, c, vs, -, hnil, -⟩
  cases us <;> cases hnil

/-- A tree that stands in a list stands in the first tree, before the tokens of the others, or in
one of these. -/
theorem holdsOf_cons {sub t : Tree} {ts : List Tree} :
    HoldsOf sub (t :: ts) after ↔
      (∃ after', Holds sub t after' ∧ after = after' ++ leavesOf ts) ∨ HoldsOf sub ts after := by
  constructor
  · rintro ⟨us, c, vs, after', hts, h, rfl⟩
    cases us with
    | nil =>
      obtain ⟨rfl, rfl⟩ := List.cons.inj hts
      exact .inl ⟨after', h, rfl⟩
    | cons u us =>
      obtain ⟨rfl, rfl⟩ := List.cons.inj hts
      exact .inr ⟨us, c, vs, after', rfl, h, rfl⟩
  · rintro (⟨after', h, rfl⟩ | ⟨us, c, vs, after', rfl, h, rfl⟩)
    · exact ⟨[], t, ts, after', rfl, h, rfl⟩
    · exact ⟨t :: us, c, vs, after', rfl, h, rfl⟩

/-- The trees behind a subtree follow it with their tokens. -/
theorem holdsOf_append {sub : Tree} {us vs : List Tree} :
    HoldsOf sub (us ++ vs) after ↔
      (∃ after', HoldsOf sub us after' ∧ after = after' ++ leavesOf vs) ∨
        HoldsOf sub vs after := by
  induction us with
  | nil => simp
  | cons t us ih =>
    simp only [List.cons_append, holdsOf_cons, ih, leavesOf_append]
    constructor
    · rintro (⟨after', h, rfl⟩ | ⟨after', h, rfl⟩ | h)
      · exact .inl ⟨_, .inl ⟨after', h, rfl⟩, by rw [List.append_assoc]⟩
      · exact .inl ⟨after', .inr h, rfl⟩
      · exact .inr h
    · rintro (⟨_, ⟨after', h, rfl⟩ | h, rfl⟩ | h)
      · exact .inl ⟨after', h, by rw [List.append_assoc]⟩
      · exact .inr (.inl ⟨_, h, rfl⟩)
      · exact .inr (.inr h)

/-- The tokens of a tree are those before a subtree, those of the subtree and those behind it. -/
theorem Holds.exists_before {sub t : Tree} (h : Holds sub t after) :
    ∃ before, t.leaves = before ++ (sub.leaves ++ after) := by
  induction h with
  | self => exact ⟨[], by simp⟩
  | @child c after kind us vs errors _ ih =>
    obtain ⟨before, hc⟩ := ih
    refine ⟨leavesOf us ++ before, ?_⟩
    simp [leaves, leavesOf_append, leavesOf, hc]

/-- What holds of every node of a tree holds of the nodes of its subtrees. -/
theorem Licensed.of_holds {R : NodeKind → List Tree → List String → Prop} {sub t : Tree}
    (ht : t.Licensed R) (h : Holds sub t after) : sub.Licensed R := by
  induction h with
  | self => exact ht
  | child _ ih => exact ih (((licensed_node ..).1 ht).2 _ (by simp))

end FeedQuery.Tree

namespace FeedQuery

/-!
## Replaying the trace of a tree

A replay of the trace of a tree takes the tokens of the tree and adds the tree to the innermost node
that has started (`Replay.run_events`); the messages of nodes are in no trace, so the tree must have
none. The trace of a `file` node thus gives back the node, with the messages about the end of the
query on it (`Tree.ofTrace_events`).

Conversely, what a replay has put together tells what it has replayed: the traces of the finished
pieces, and those of the nodes that have started up to where they are (`Replay.trail`). This is the
invariant of a replay (`Replay.Follows`), and where nothing is left to do it says that the trace is
that of the tree at hand. So a trace is accepted exactly when it is the trace of a tree, and then
the tree is what it makes (`Tree.ofTrace_eq_ok_iff`).
-/

namespace Replay

/-- Replaying events in two goes. -/
theorem run_append {r r' : Replay} {es fs : List Event} (h : r.run es = .ok r') :
    r.run (es ++ fs) = r'.run fs := by
  induction es generalizing r with
  | nil => cases h; rfl
  | cons e es ih =>
    rw [List.cons_append, run]
    rw [run] at h
    cases hs : r.step e with
    | error fault => rw [hs] at h; cases h
    | ok q =>
      rw [hs] at h
      exact ih h

/-- The replay of the traces of the children of a node adds them to the node. -/
theorem run_eventsOf {children : List Tree} {ts : List Token} {kind : NodeKind}
    {before : List Tree} {outer : List (NodeKind × List Tree)} {roots : List Tree}
    (h : ∀ c ∈ children, ∀ (ts : List Token) (frames : List (NodeKind × List Tree)),
      run ⟨c.leaves ++ ts, frames, roots⟩ c.events = .ok (put ⟨ts, frames, roots⟩ c)) :
    run ⟨Tree.leavesOf children ++ ts, (kind, before) :: outer, roots⟩ (Tree.eventsOf children) =
      .ok ⟨ts, (kind, children.reverse ++ before) :: outer, roots⟩ := by
  induction children generalizing before with
  | nil => rfl
  | cons c cs ih =>
    obtain ⟨hc, hcs⟩ := List.forall_mem_cons.1 h
    have hfirst := hc (Tree.leavesOf cs ++ ts) ((kind, before) :: outer)
    rw [Tree.leavesOf, Tree.eventsOf, List.append_assoc, run_append hfirst, put, ih hcs]
    simp

/-- The replay of the trace of a tree takes its tokens and adds the tree. -/
theorem run_events {t : Tree} (h : t.Unmarked) (ts : List Token)
    (frames : List (NodeKind × List Tree)) (roots : List Tree) :
    run ⟨t.leaves ++ ts, frames, roots⟩ t.events = .ok (put ⟨ts, frames, roots⟩ t) := by
  induction t using Tree.induct generalizing ts frames with
  | leaf token => rfl
  | node kind children errors ih =>
    obtain ⟨rfl, hc⟩ := (Tree.licensed_node ..).1 h
    have hchildren : run ⟨Tree.leavesOf children ++ ts, (kind, []) :: frames, roots⟩
        (Tree.eventsOf children) = .ok ⟨ts, (kind, children.reverse ++ []) :: frames, roots⟩ :=
      run_eventsOf fun c hmem => ih c hmem (hc c hmem)
    rw [Tree.leaves, Tree.events, run, step]
    dsimp only
    rw [run_append hchildren]
    simp [run, step]

end Replay

/-- The trace of a `file` node gives back the node, with the messages about the end of the query. -/
theorem Tree.ofTrace_events {children : List Tree} (h : ∀ c ∈ children, c.Unmarked)
    (late : List String) :
    Tree.ofTrace ⟨leavesOf children, (Tree.node .file children []).events, late⟩ =
      .ok (.node .file children late) := by
  have hrun := Replay.run_events (t := .node .file children [])
    ((licensed_node ..).2 ⟨rfl, h⟩) [] [] []
  rw [List.append_nil] at hrun
  rw [Tree.ofTrace]
  dsimp only
  rw [show leavesOf children = (Tree.node .file children []).leaves from rfl, hrun]
  simp [Replay.put, Replay.finish, Replay.pieces]

/-! ### What a replay has put together -/

namespace Replay

/-- The trace of a node that has started, up to where it is. -/
def trailOf (frame : NodeKind × List Tree) : List Event :=
  .enter frame.1 :: Tree.eventsOf frame.2.reverse

/-- The events that a replay has gone through. -/
def trail (r : Replay) : List Event :=
  Tree.eventsOf r.roots.reverse ++ r.frames.reverse.flatMap trailOf

/-- The tokens that a replay has taken. -/
def taken (r : Replay) : List Token :=
  Tree.leavesOf r.roots.reverse ++
    r.frames.reverse.flatMap fun frame => Tree.leavesOf frame.2.reverse

/-- Every piece, finished or under way, satisfies `p`. -/
def Pieces (p : Tree → Prop) (r : Replay) : Prop :=
  (∀ t ∈ r.roots, p t) ∧ ∀ frame ∈ r.frames, ∀ t ∈ frame.2, p t

/-- A piece adds its trace. -/
theorem trail_put (r : Replay) (piece : Tree) : (r.put piece).trail = r.trail ++ piece.events := by
  unfold put
  split
  case h_1 h => simp [trail, h, Tree.eventsOf_append, Tree.eventsOf]
  case h_2 h => simp [trail, trailOf, h, Tree.eventsOf_append, Tree.eventsOf]

/-- A piece adds its tokens. -/
theorem taken_put (r : Replay) (piece : Tree) : (r.put piece).taken = r.taken ++ piece.leaves := by
  unfold put
  split
  case h_1 h => simp [taken, h, Tree.leavesOf_append, Tree.leavesOf]
  case h_2 h => simp [taken, h, Tree.leavesOf_append, Tree.leavesOf]

/-- A piece that is put in place takes no token. -/
theorem tokens_put (r : Replay) (piece : Tree) : (r.put piece).tokens = r.tokens := by
  unfold put
  split <;> rfl

/-- What holds of every piece and of one more goes on to hold of every piece. -/
theorem Pieces.put {p : Tree → Prop} {r : Replay} {piece : Tree} (h : r.Pieces p) (hp : p piece) :
    (r.put piece).Pieces p := by
  unfold Replay.put
  split
  case h_1 => exact ⟨List.forall_mem_cons.2 ⟨hp, h.1⟩, h.2⟩
  case h_2 hframes =>
    have hall := h.2
    rw [hframes] at hall
    obtain ⟨hfirst, houter⟩ := List.forall_mem_cons.1 hall
    exact ⟨h.1, List.forall_mem_cons.2 ⟨List.forall_mem_cons.2 ⟨hp, hfirst⟩, houter⟩⟩

/-- The replay has gone through the events and taken the first of the tokens, and its pieces carry
no messages on nodes. -/
structure Follows (ts : List Token) (es : List Event) (r : Replay) : Prop where
  events : r.trail = es
  tokens : r.taken ++ r.tokens = ts
  unmarked : r.Pieces Tree.Unmarked

/-- A replay that is about to start. -/
theorem follows_start (ts : List Token) : Follows ts [] ⟨ts, [], []⟩ :=
  ⟨rfl, rfl, List.forall_mem_nil _, List.forall_mem_nil _⟩

/-- One event is gone through. -/
theorem Follows.step {ts : List Token} {es : List Event} {e : Event} {r r' : Replay}
    (h : Follows ts es r) (hs : r.step e = .ok r') : Follows ts (es ++ [e]) r' := by
  obtain ⟨rfl, rfl, hunmarked⟩ := h
  cases e with
  | enter kind =>
    cases hs
    refine ⟨by simp [trail, trailOf, Tree.eventsOf], by simp [taken, Tree.leavesOf], ?_⟩
    exact ⟨hunmarked.1, List.forall_mem_cons.2 ⟨List.forall_mem_nil _, hunmarked.2⟩⟩
  | advance =>
    obtain ⟨tokens, frames, roots⟩ := r
    cases tokens with
    | nil => cases hs
    | cons t rest =>
      cases hs
      refine ⟨by rw [trail_put]; rfl, ?_, Pieces.put hunmarked trivial⟩
      rw [taken_put, tokens_put, List.append_assoc]
      rfl
  | leave =>
    obtain ⟨tokens, frames, roots⟩ := r
    cases frames with
    | nil => cases hs
    | cons frame outer =>
      cases hs
      obtain ⟨hchildren, houter⟩ := List.forall_mem_cons.1 hunmarked.2
      refine ⟨?_, ?_, Pieces.put ⟨hunmarked.1, houter⟩ ?_⟩
      · rw [trail_put]
        simp [trail, trailOf, Tree.events]
      · rw [taken_put, tokens_put]
        simp [taken, Tree.leaves]
      · exact (Tree.licensed_node ..).2 ⟨rfl, fun c hc => hchildren c (List.mem_reverse.1 hc)⟩

/-- All events are gone through, one after the other. -/
theorem Follows.run {ts : List Token} {es fs : List Event} {r r' : Replay} (h : Follows ts es r)
    (hr : r.run fs = .ok r') : Follows ts (es ++ fs) r' := by
  induction fs generalizing r es with
  | nil =>
    cases hr
    rwa [List.append_nil]
  | cons f fs ih =>
    rw [Replay.run] at hr
    cases hs : r.step f with
    | error fault => rw [hs] at hr; cases hr
    | ok q =>
      rw [hs] at hr
      simpa using ih (h.step hs) hr

/-- Each node that has started and each finished piece counts. -/
theorem length_le_pieces (r : Replay) : r.roots.length + r.frames.length ≤ r.pieces := by
  obtain ⟨tokens, frames, roots⟩ := r
  have hfold : ∀ count : Nat, count + frames.length ≤
      frames.foldl (fun count frame => count + frame.2.length + 1) count := by
    induction frames with
    | nil => exact fun _ => Nat.le_refl _
    | cons frame outer ih =>
      intro count
      have hrest := ih (count + frame.2.length + 1)
      rw [List.foldl_cons, List.length_cons]
      omega
  exact hfold roots.length

/-- A replay ends with a tree when nothing is left but a `file` node. -/
theorem finish_eq_ok {r : Replay} {late : List String} {t : Tree} (h : r.finish late = .ok t) :
    ∃ children errors, r = ⟨[], [], [.node .file children errors]⟩ ∧
      t = .node .file children (errors ++ late) := by
  obtain ⟨tokens, frames, roots⟩ := r
  have hlength := length_le_pieces ⟨tokens, frames, roots⟩
  rw [finish] at h
  split at h
  case isTrue => cases h
  case isFalse htokens =>
    obtain rfl : tokens = [] := by simpa using htokens
    split at h
    case isTrue => cases h
    case isFalse hone =>
      dsimp only at h hlength
      split at h
      case h_1 children errors =>
        obtain rfl : frames = [] := List.eq_nil_of_length_eq_zero (by simp at hone hlength; omega)
        cases h
        exact ⟨children, errors, rfl, rfl⟩
      case h_2 => cases h
      case h_3 => cases h

end Replay

/-- The trace is that of the tree: of a `file` node that carries the messages about the end of the
query, above nodes without messages. -/
def Trace.IsOf (trace : Trace) (t : Tree) : Prop :=
  ∃ children, t = .node .file children trace.unreported ∧ (∀ c ∈ children, c.Unmarked) ∧
    trace.events = t.events ∧ trace.tokens = t.leaves

/-- **A trace makes a tree exactly when it is the trace of that tree.** Any other trace is
refused. -/
theorem Tree.ofTrace_eq_ok_iff (trace : Trace) :
    (∀ t, Tree.ofTrace trace = .ok t ↔ trace.IsOf t) ∧
      ((∃ fault, Tree.ofTrace trace = .error fault) ↔ ∀ t, ¬ trace.IsOf t) := by
  have hiff : ∀ t, Tree.ofTrace trace = .ok t ↔ trace.IsOf t := by
    intro t
    obtain ⟨tokens, events, unreported⟩ := trace
    constructor
    · intro h
      rw [ofTrace] at h
      cases hr : Replay.run ⟨tokens, [], []⟩ events with
      | error fault => rw [hr] at h; cases h
      | ok r =>
        rw [hr] at h
        obtain ⟨children, errors, rfl, rfl⟩ := Replay.finish_eq_ok h
        obtain ⟨hevents, htokens, hroot, -⟩ := (Replay.follows_start tokens).run hr
        obtain ⟨rfl, hc⟩ := (licensed_node ..).1 (hroot _ (.head _))
        refine ⟨children, rfl, hc, ?_, ?_⟩
        · exact hevents.symm.trans (by simp [Replay.trail, eventsOf, Tree.events])
        · exact htokens.symm.trans (by simp [Replay.taken, leavesOf, Tree.leaves])
    · rintro ⟨children, rfl, hc, hevents, htokens⟩
      obtain rfl : tokens = leavesOf children := htokens
      obtain rfl : events = (node .file children []).events := hevents
      exact ofTrace_events hc unreported
  refine ⟨hiff, ?_, fun hnone => ?_⟩
  · rintro ⟨fault, hfault⟩ t ht
    rw [(hiff t).2 ht] at hfault
    cases hfault
  · cases h : Tree.ofTrace trace with
    | error fault => exact ⟨fault, rfl⟩
    | ok t => exact absurd ((hiff t).1 h) (hnone t)

end FeedQuery
