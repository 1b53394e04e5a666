import FeedQuery.Proofs.Compiled
import FeedQuery.Proofs.Compiled.Clauses
import FeedQuery.Proofs.Compiled.Print
import FeedQuery.Proofs.Retrieval
import FeedQuery.Proofs.Session.Course
import FeedQuery.Proofs.Session.Requests

/-!
# Running queries

What a query and a session decide about the requests of a run: whether there are any
(`Session.run_decided`), and whom they are about (`Session.run_subject`).
-/

namespace FeedQuery

/-!
## Which queries reach the network

Running a query comes to an end before anything is sent in three cases: the query is refused,
nothing is planned for it, or what is planned needs an account that is not signed in. In any other
case the query is a fetch (`Session.run_of_allowed`), and a fetch sends something
(`Session.requests_get_ne`). So these three cases decide whether a query reaches the network
(`Session.run_decided`).
-/

/-- A table is not the news that an account is needed. -/
theorem Outcome.ofTable_ne_stealth (t : Table) (operation : String) :
    ofTable t ≠ .stealth operation := by
  rw [ofTable]
  split <;> nofun

namespace Session

variable {s : Session} {opts : QueryOptions} {text : String} {c : Compiled} {r : Retrieval}

/-! ### The text -/

/-- A text that nothing is wrong with is accepted, strictly or not. -/
theorem compile_of_clean (hc : Compiled.ofText text = .ok c)
    (h : opts.strict = true → c.diagnostics = []) : compile opts text = .ok c := by
  rw [compile]
  split
  case isTrue hstrict =>
    rw [Compiled.strict, hc]
    simp only [bind, Except.bind, h hstrict]
  case isFalse => exact hc

/-- A text that something is wrong with is refused when it is read strictly. -/
theorem compile_of_broken (hc : Compiled.ofText text = .ok c) (hstrict : opts.strict = true)
    {first : Diagnostic} {rest : List Diagnostic} (h : c.diagnostics = first :: rest) :
    compile opts text = .error (.broken (rest.length + 1) first) := by
  rw [compile, if_pos hstrict, Compiled.strict, hc]
  simp only [bind, Except.bind, h]

/-! ### The plan -/

/-- A query that is refused sends nothing. -/
theorem run_of_broken {e : QueryError} (h : compile opts text = .error e) (n : Network) :
    s.run opts text n = ⟨.error (.query e), s, n⟩ := by
  rw [run, h]

/-- A query that nothing is planned for sends nothing. -/
theorem run_of_no_plan (hc : compile opts text = .ok c) (hp : c.query.plan = none) (n : Network) :
    s.run opts text n = ⟨.ok ⟨c, none, .noData⟩, s, n⟩ := by
  rw [run, hc]
  dsimp only
  rw [hp]

/-- A query that is planned is executed, and a table is made of what is fetched. -/
theorem run_of_plan (hc : compile opts text = .ok c) (hp : c.query.plan = some r) (n : Network) :
    s.run opts text n = (s.execute r n).map fun fetched =>
      ⟨c, some r, outcomeOf opts c.query.fields r fetched⟩ := by
  rw [run, hc]
  dsimp only
  rw [hp]

/-- A query that needs an account sends nothing when none is signed in. -/
theorem run_of_needsAccount (hc : compile opts text = .ok c) (hp : c.query.plan = some r)
    (hr : r.NeedsAccount) (hs : s.auth = none) (n : Network) :
    s.run opts text n = ⟨.ok ⟨c, some r, .stealth r.operation⟩, s, n⟩ := by
  rw [run_of_plan hc hp, execute_of_needsAccount hr hs]
  rfl

/-- A query that is not turned down is a fetch. -/
theorem run_of_allowed (hc : compile opts text = .ok c) (hp : c.query.plan = some r)
    (h : s.auth = none → ¬ r.NeedsAccount) (n : Network) :
    ∃ call, s.run opts text n = (s.get call n).map fun value =>
      ⟨c, some r, outcomeOf opts c.query.fields r (.answer value)⟩ := by
  obtain ⟨call, hcall⟩ := exists_execute_eq h n
  exact ⟨call, by rw [run_of_plan hc hp, hcall, Turn.map_map]; rfl⟩

/-! ### All cases -/

/-- The four ways in which a query can go. -/
theorem run_cases (hc : Compiled.ofText text = .ok c) (s : Session) (opts : QueryOptions)
    (n : Network) :
    (∃ first rest, opts.strict = true ∧ c.diagnostics = first :: rest ∧
      s.run opts text n = ⟨.error (.query (.broken (rest.length + 1) first)), s, n⟩) ∨
    (opts.strict = true → c.diagnostics = []) ∧
      (c.query.plan = none ∧ s.run opts text n = ⟨.ok ⟨c, none, .noData⟩, s, n⟩ ∨
      ∃ r, c.query.plan = some r ∧
        (s.auth = none ∧ r.NeedsAccount ∧
          s.run opts text n = ⟨.ok ⟨c, some r, .stealth r.operation⟩, s, n⟩ ∨
        (s.auth = none → ¬ r.NeedsAccount) ∧ ∃ call,
          s.run opts text n = (s.get call n).map fun value =>
            ⟨c, some r, outcomeOf opts c.query.fields r (.answer value)⟩)) := by
  by_cases hstrict : opts.strict = true ∧ c.diagnostics ≠ []
  · obtain ⟨hstrict, hne⟩ := hstrict
    obtain ⟨first, rest, hd⟩ := List.exists_cons_of_ne_nil hne
    exact .inl ⟨first, rest, hstrict, hd, run_of_broken (compile_of_broken hc hstrict hd) n⟩
  · have hclean : opts.strict = true → c.diagnostics = [] := fun h =>
      Classical.not_not.1 (not_and.1 hstrict h)
    have hcompile := compile_of_clean hc hclean
    refine .inr ⟨hclean, ?_⟩
    cases hp : c.query.plan with
    | none => exact .inl ⟨rfl, run_of_no_plan hcompile hp n⟩
    | some r =>
      refine .inr ⟨r, rfl, ?_⟩
      by_cases hr : s.auth = none ∧ r.NeedsAccount
      · exact .inl ⟨hr.1, hr.2, run_of_needsAccount hcompile hp hr.2 hr.1 n⟩
      · exact .inr ⟨not_and.1 hr, run_of_allowed hcompile hp (not_and.1 hr) n⟩

/-- The cases in which nothing is sent. -/
theorem run_idle_iff (hc : Compiled.ofText text = .ok c) (s : Session) (opts : QueryOptions)
    (n : Network) :
    Traffic.requests (s.run opts text n).network.log = Traffic.requests n.log ∧
        (s.run opts text n).session = s ↔
      opts.strict = true ∧ c.diagnostics ≠ [] ∨ c.query.plan = none ∨
        s.auth = none ∧ ∃ r, c.query.plan = some r ∧ r.NeedsAccount := by
  obtain ⟨first, rest, hstrict, hd, hrun⟩ | ⟨hclean, ⟨hp, hrun⟩ | ⟨r, hp, hr⟩⟩ :=
    run_cases hc s opts n
  · exact iff_of_true (by simp [hrun]) (.inl ⟨hstrict, by simp [hd]⟩)
  · exact iff_of_true (by simp [hrun]) (.inr (.inl hp))
  · obtain ⟨hs, hr, hrun⟩ | ⟨hr, call, hrun⟩ := hr
    · exact iff_of_true (by simp [hrun]) (.inr (.inr ⟨hs, r, hp, hr⟩))
    · refine iff_of_false (fun h => ?_) ?_
      · rw [hrun, Turn.network_map] at h
        exact s.requests_get_ne call n h.1
      · rintro (⟨hstrict, hne⟩ | hnone | ⟨hs, r', hp', hr'⟩)
        · exact hne (hclean hstrict)
        · rw [hp] at hnone
          cases hnone
        · rw [hp] at hp'
          cases hp'
          exact hr hs hr'

/-- Nothing is held back from an account. -/
theorem outcome_run_ne_stealth (ha : s.isAuthenticated = true) {n : Network} {report : Report}
    (h : (s.run opts text n).result = .ok report) (operation : String) :
    report.outcome ≠ .stealth operation := by
  obtain ⟨c, hc⟩ := Compiled.exists_ofText text
  obtain ⟨first, rest, -, -, hrun⟩ | ⟨-, ⟨-, hrun⟩ | ⟨r, -, hr⟩⟩ := run_cases hc s opts n
  · rw [hrun] at h
    cases h
  · rw [hrun] at h
    cases h
    nofun
  · obtain ⟨hs, -, -⟩ | ⟨-, call, hrun⟩ := hr
    · simp [isAuthenticated, hs] at ha
    · rw [hrun, Turn.map] at h
      cases hvalue : (s.get call n).result with
      | error => simp [hvalue, Except.map] at h
      | ok value =>
        obtain rfl : _ = report := by simpa [hvalue, Except.map] using h
        exact Outcome.ofTable_ne_stealth _ operation

/-- **It is decided before anything is sent whether a query reaches the network.** It does not, and
leaves the session as it was, exactly when it is refused, nothing is planned for it, or it needs an
account that is not signed in. -/
theorem run_decided (s : Session) (opts : QueryOptions) (text : String) (n : Network) :
    ∃ c, Compiled.ofText text = .ok c ∧
      (Traffic.requests (s.run opts text n).network.log = Traffic.requests n.log ∧
          (s.run opts text n).session = s ↔
        opts.strict = true ∧ c.diagnostics ≠ [] ∨ c.query.plan = none ∨
          s.auth = none ∧ ∃ r, c.query.plan = some r ∧ r.NeedsAccount) ∧
      (∀ first rest, opts.strict = true → c.diagnostics = first :: rest →
        s.run opts text n = ⟨.error (.query (.broken (rest.length + 1) first)), s, n⟩) ∧
      ((opts.strict = true → c.diagnostics = []) → c.query.plan = none →
        s.run opts text n = ⟨.ok ⟨c, none, .noData⟩, s, n⟩) ∧
      (∀ r, (opts.strict = true → c.diagnostics = []) → c.query.plan = some r →
        r.NeedsAccount → s.auth = none →
        s.run opts text n = ⟨.ok ⟨c, some r, .stealth r.operation⟩, s, n⟩) ∧
      (s.isAuthenticated = true → ∀ report operation, (s.run opts text n).result = .ok report →
        report.outcome ≠ .stealth operation) := by
  obtain ⟨c, hc⟩ := Compiled.exists_ofText text
  exact ⟨c, hc, run_idle_iff hc s opts n,
    fun first rest hstrict h => run_of_broken (compile_of_broken hc hstrict h) n,
    fun hclean hp => run_of_no_plan (compile_of_clean hc hclean) hp n,
    fun r hclean hp hr hs => run_of_needsAccount (compile_of_clean hc hclean) hp hr hs n,
    fun ha report operation h => outcome_run_ne_stealth ha h operation⟩

/-- Nobody has a timeline without an account. -/
theorem run_decided_timeline :
    let s := anonymous "http://a" "http://b" 25 0
    let n := Network.offline 0
    ∃ c, s.run ⟨.skip, true⟩ "SELECT * FROM timeline" n =
      ⟨.ok ⟨c, some .timeline, .stealth "getTimeline"⟩, s, n⟩ := by
  intro s n
  have hread : (Compiled.ofText "SELECT * FROM timeline").toOption.map
      (fun c => (c.diagnostics, c.query.plan)) = some ([], some .timeline) := by decide +kernel
  obtain ⟨c, hc, -, -, -, hstealth, -⟩ :=
    s.run_decided ⟨.skip, true⟩ "SELECT * FROM timeline" n
  rw [hc] at hread
  obtain ⟨hclean, hplan⟩ := Prod.mk.inj (Option.some.inj hread)
  exact ⟨c, hstealth .timeline (fun _ => hclean) hplan .timeline rfl⟩

end Session

/-!
## The subject of a query

Most retrievals are about somebody or something, which they name in a parameter
(`Retrieval.subject?`). A query takes its subject from the first comparison with a recognized key,
and that comparison is spelled in the text (`Query.IsSubject`). It is never empty, because no
operand is, so the parameter is in every request for the data (`Session.run_subject`).
-/

namespace Query

open FeedQuery.Derivation

/-- The comparison is the first one with a recognized key, and the tokens spell it: its key, an
equals sign and its value stand next to each other, the comparisons before it are spelled before
them, and those behind it behind them. -/
inductive IsSubject (ts : List Token) (ps : List Predicate) (p : Predicate) : Prop
  | mk {before after : List Token} {k e v : Token} {earlier later : List Predicate} :
      ts = before ++ k :: e :: v :: after → Compares k e v p → ps = earlier ++ p :: later →
      p.key ∈ recognizedKeys → (∀ q ∈ earlier, q.key ∉ recognizedKeys) →
      ReadFrom before earlier → ReadFrom after later → IsSubject ts ps p

/-- The first comparison with a recognized key is spelled in the tokens. -/
theorem ReadFrom.isSubject {ts : List Token} {q : Query} (h : ReadFrom ts q.comparisons)
    (hp : firstRecognized? q.conditions = some p) : IsSubject ts q.comparisons p := by
  obtain ⟨hkey, earlier, later, hsplit, hearlier⟩ := List.find?_eq_some_iff_append.1 hp
  have hcomparisons : q.comparisons = earlier ++ p :: later := hsplit
  rw [hcomparisons] at h
  obtain ⟨before, k, e, v, after, hts, hcompares, hbefore, hafter⟩ := h.exists_place
  refine ⟨hts, hcompares, hcomparisons, by simpa using hkey, fun q hq => ?_, hbefore, hafter⟩
  simpa using hearlier q hq

end Query

/-- A value that is not empty is sent. -/
theorem Request.Serves.mem_params {call : Call} {q : Request} {name value : String}
    (hq : q.Serves call) (hget : q.verb = .get) (hne : value ≠ "")
    (hparams : (name, value) ∈ call.params ∧
      ∀ other, (name, other) ∈ call.params → other = value) :
    (name, value) ∈ q.params ∧ ∀ other, (name, other) ∈ q.params → other = value := by
  cases hq with
  | get _ _ hsent =>
    rw [hsent]
    refine ⟨List.mem_filter.2 ⟨hparams.1, by simpa using hne⟩, fun other hother => ?_⟩
    exact hparams.2 other (List.mem_filter.1 hother).1
  | post hpost => rw [hpost] at hget; cases hget

namespace Session

/-- A call names what its retrieval is about, once. -/
theorem callFor?_subject? {s : Session} {r : Retrieval} {call : Call} {name value : String}
    (hcall : s.callFor? r = some call) (hs : r.subject? = some (name, value)) :
    (name, value) ∈ call.params ∧ ∀ other, (name, other) ∈ call.params → other = value := by
  cases r with
  | timeline | suggestedFeeds | suggestions => cases hs
  | profile actor =>
    cases actor with
    | none => cases hs
    | some actor =>
      cases hs
      cases hcall
      simp [Call.profile]
  | feed | authorFeed | actorFeeds | actorLikes | followers | follows | mutualFollowers =>
    cases hs
    cases hcall
    simp [Call.feed, Call.authorFeed, Call.actorFeeds, Call.actorLikes, Call.followers,
      Call.follows, Call.mutualFollowers, Page.params]

/-- **A query is about what its text says.** What a planned retrieval is about is not empty, and it
is the value of the first comparison with a recognized key, which the text spells; each request for
the data names it, and nothing else in its place. -/
theorem run_subject (s : Session) (opts : QueryOptions) (text : String) (n : Network) :
    ∃ c, Compiled.ofText text = .ok c ∧
      ∀ r name value, c.query.plan = some r → r.subject? = some (name, value) →
        value ≠ "" ∧
        (∃ p, Query.IsSubject (Token.scan text) c.query.comparisons p ∧ p.value = value ∧
          (name = "feed" ↔ p.key = "feed")) ∧
        n.GoesOn (fun q => q.verb = .get → (name, value) ∈ q.params ∧
          ∀ other, (name, other) ∈ q.params → other = value) (s.run opts text n).network := by
  obtain ⟨c, hc⟩ := Compiled.exists_ofText text
  refine ⟨c, hc, fun r name value hr hs => ?_⟩
  obtain ⟨p, hp, rfl, hname⟩ := Query.exists_firstRecognized? hr hs
  have hmem : .comparison p ∈ c.query.conditions := by
    obtain ⟨_ | _, hmem, heq⟩ := List.mem_filterMap.1 (List.mem_of_find?_eq_some hp)
    · cases heq
      exact hmem
    · cases heq
  have hne : p.value ≠ "" := ((Compiled.query_printable hc).comparisons p hmem).value.1
  refine ⟨hne, ⟨p, (Compiled.readFrom hc).isSubject hp, rfl, hname⟩, ?_⟩
  refine (run_goesOn hc s opts n).mono ?_
  rintro q ⟨r', call, hr', hcall, hq⟩ hget
  obtain rfl : r = r' := Option.some.inj (hr.symm.trans hr')
  exact hq.mem_params hget hne (callFor?_subject? hcall hs)

/-- A comparison with another key does not count, and a name needs no quotes. -/
theorem run_subject_author :
    let s := anonymous "http://a.b" "http://c.d" 25 0
    let text := "SELECT * FROM Posts WHERE text = 'x' AND author = alice OR feed = 'y'"
    ∃ q, Traffic.requests (s.run ⟨.skip, true⟩ text (.offline 0)).network.log = [q] ∧
      ("actor", "alice") ∈ q.params := by
  intro s text
  have hplan : (Compiled.ofText text).toOption.bind (·.query.plan) =
      some (.authorFeed "alice") := by decide +kernel
  have hverbs : (Traffic.requests (s.run ⟨.skip, true⟩ text (.offline 0)).network.log).map
      (·.verb) = [.get] := by decide +kernel
  obtain ⟨c, hc, hsubject⟩ := s.run_subject ⟨.skip, true⟩ text (.offline 0)
  rw [hc] at hplan
  obtain ⟨-, -, hsent⟩ := hsubject (.authorFeed "alice") "actor" "alice" hplan rfl
  obtain ⟨q, hq, hget⟩ := List.map_eq_singleton_iff.1 hverbs
  have hmem : q ∈ Traffic.requests (s.run ⟨.skip, true⟩ text (.offline 0)).network.log := by
    rw [hq]
    exact .head _
  exact ⟨q, hq, (hsent.forall_requests rfl q hmem hget).1⟩

end Session

end FeedQuery
