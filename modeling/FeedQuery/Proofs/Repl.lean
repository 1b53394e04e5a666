import FeedQuery.Proofs.Session.Requests
import FeedQuery.Repl

/-!
# What lines set

What a line asks for (`Entry`) decides what it sets: `/limit` and `/arrays` with a valid argument
and `/json` set one thing each, and nothing else sets anything (`Entry.sets`), whether or not it
fails. While a line is taken, requests ask for pages of the size from before it (`Repl.enter_of`).
Over several lines (`Repl.transcript`) this is the size that the last `/limit` set
(`Repl.transcript_pages`).
-/

namespace FeedQuery

/-- What a line asks for. -/
inductive Entry where
  | nothing
  | command (name args : String)
  | query (text : String)
deriving DecidableEq

/-- What lines can set, and whether queries are read strictly. -/
structure Setup where
  /-- The number of records to ask for. -/
  limit : Nat
  /-- Whether results are written as JSON. -/
  json : Bool
  /-- What becomes of lists in records. -/
  policy : ArrayPolicy
  /-- Whether a query that anything is wrong with is refused. -/
  strict : Bool
deriving DecidableEq

namespace Entry

/-- What the characters of a line ask for, without blanks at their ends. -/
def ofChars : List Char → Entry
  | [] => .nothing
  | ['/'] => .command "help" ""
  | '/' :: rest =>
    let name := rest.takeWhile (· != ' ')
    .command (String.ofList name)
      (String.ofList (Text.trimChars (rest.drop (name.length + 1))))
  | cs => .query (String.ofList cs)

/-- What a line asks for as it was typed. -/
def ofTyped (text : String) : Entry := ofChars (Text.trimChars (Text.settled text).toList)

/-- The number of records to ask for that is set. -/
def limit? : Entry → Option Nat
  | .command "limit" args => (Text.unsigned? Text.maxWord32 args).map Settings.clampLimit
  | _ => none

/-- The policy for lists that is set. -/
def policy? : Entry → Option ArrayPolicy
  | .command "arrays" args => ArrayPolicy.ofWord? args
  | _ => none

/-- Whether the form of the results changes. -/
def togglesJson : Entry → Bool
  | .command "json" _ => true
  | _ => false

/-- What is set afterwards. -/
def sets (e : Entry) (u : Setup) : Setup :=
  { u with
    limit := e.limit?.getD u.limit
    json := if e.togglesJson then !u.json else u.json
    policy := e.policy?.getD u.policy }

/-- The command for the page size sets it to a valid argument, brought within bounds. -/
theorem sets_limit (args : String) (u : Setup) : (command "limit" args).sets u = { u with
    limit := ((Text.unsigned? Text.maxWord32 args).map Settings.clampLimit).getD u.limit } := rfl

/-- The command for lists sets the policy to a valid argument. -/
theorem sets_arrays (word : String) (u : Setup) : (command "arrays" word).sets u =
    { u with policy := (ArrayPolicy.ofWord? word).getD u.policy } := rfl

/-- Most commands set nothing. -/
theorem sets_command {name : String} (hjson : name ≠ "json") (harrays : name ≠ "arrays")
    (hlimit : name ≠ "limit") (args : String) (u : Setup) : (command name args).sets u = u := by
  simp [sets, limit?, policy?, togglesJson, hjson, harrays, hlimit]

/-- The number of records to ask for that was set last. -/
def latestLimit? (entries : List Entry) : Option Nat := (entries.filterMap limit?).getLast?

/-- What a later line sets counts. -/
theorem latestLimit?_cons (e : Entry) (entries : List Entry) :
    latestLimit? (e :: entries) = (latestLimit? entries).or e.limit? := by
  rw [latestLimit?, latestLimit?, List.filterMap_cons]
  cases e.limit? with
  | none => simp
  | some limit => simp [List.getLast?_cons]

end Entry

namespace Repl

/-- Does what a line asks for. -/
def enter (r : Repl) : Entry → Line
  | .nothing => r.writes .empty
  | .command name args => r.command name args
  | .query text => r.query text

/-- A line does what it asks for. -/
theorem typedLine_eq (r : Repl) (text : String) :
    r.typedLine text = r.enter (Entry.ofTyped text) := by
  rw [typedLine, line, Entry.ofTyped]
  generalize Text.trimChars (Text.settled text).toList = cs
  cases cs with
  | nil => rfl
  | cons c cs =>
    by_cases hc : c = '/'
    · subst hc
      cases cs <;> rfl
    · simp [Entry.ofChars, enter, hc]

/-- What is set now. -/
def setup (r : Repl) : Setup :=
  ⟨r.session.limit, r.json, r.options.policy, r.options.strict⟩

end Repl

@[simp] theorem Repl.limit_setup (r : Repl) : r.setup.limit = r.session.limit := rfl

@[simp] theorem Entry.limit_sets (e : Entry) (u : Setup) :
    (e.sets u).limit = e.limit?.getD u.limit := rfl

/-! ## Single lines -/

/-- The line sets what was asked for, and asks for pages of the size from before it. -/
structure Line.Of (r : Repl) (e : Entry) (l : Line) : Prop where
  setup : l.repl.setup = e.sets r.setup
  pages : r.network.GoesOn (Request.Pages r.session.limit) l.repl.network

/-- The line sets nothing, and asks for pages of the size that is set. -/
structure Line.Keeps (r : Repl) (l : Line) : Prop where
  setup : l.repl.setup = r.setup
  pages : r.network.GoesOn (Request.Pages r.session.limit) l.repl.network

namespace Repl

variable (r : Repl)

/-- Writing sets nothing. -/
theorem writes_keeps (console : Console) : (r.writes console).Keeps r := ⟨rfl, .idle rfl⟩

/-- A step of the session that keeps the size of pages. -/
theorem after_keeps {α : Type} {t : Turn α} (hlimit : t.session.limit = r.session.limit)
    (hpages : r.network.GoesOn (Request.Pages r.session.limit) t.network) (console : Console) :
    ((r.after t).writes console).Keeps r :=
  ⟨by simp [setup, writes, after, hlimit], hpages⟩

/-- A query sets nothing. -/
theorem query_keeps (text : String) : (r.query text).Keeps r :=
  r.after_keeps (r.session.run_follows ..).limit_eq (r.session.run_pages ..) _

/-- A search sets nothing. -/
theorem search_keeps (target : SearchTarget) (words : String) :
    (r.search target words).Keeps r := by
  rw [search]
  split
  case isTrue => exact r.writes_keeps _
  case isFalse =>
    have hfollows := r.session.get_follows (target.call words r.session.page) r.network
    exact r.after_keeps hfollows.limit_eq (r.session.search_pages r.options ..) _

/-- Signing in sets nothing. -/
theorem login_keeps (words : List String) : (r.login words).Keeps r := by
  unfold login
  split
  case h_1 =>
    refine r.after_keeps (r.session.limit_login ..) ?_ _
    exact (r.session.login_goesOn ..).mono fun q hq => q.pages_of_params_eq_nil hq _
  case h_2 => exact r.writes_keeps _

/-- Showing the preferences sets nothing. -/
theorem prefs_keeps : r.prefs.Keeps r := by
  rw [prefs]
  split
  case isTrue =>
    exact r.after_keeps (r.session.get_follows ..).limit_eq (r.session.preferences_pages _) _
  case isFalse => exact r.writes_keeps _

/-- Commands but for three set nothing. -/
theorem command_keeps {name : String} (hjson : name ≠ "json") (harrays : name ≠ "arrays")
    (hlimit : name ≠ "limit") (args : String) : (r.command name args).Keeps r := by
  unfold command
  split
  all_goals first
    | contradiction
    | exact r.login_keeps _
    | exact r.search_keeps _ _
    | exact r.prefs_keeps
    | exact r.writes_keeps _
    -- leaving and signing out
    | exact ⟨rfl, .idle rfl⟩

/-- The command for the page size sets what its argument asks for. -/
theorem limit_of (args : String) : (r.limit args).Of r (.command "limit" args) := by
  unfold limit
  split
  case isTrue hargs =>
    subst hargs
    exact ⟨rfl, .idle rfl⟩
  case isFalse =>
    split
    case h_1 n hn => exact ⟨by rw [Entry.sets_limit, hn]; rfl, .idle rfl⟩
    case h_2 hn => exact ⟨by rw [Entry.sets_limit, hn]; rfl, .idle rfl⟩

/-- The command for lists sets what its argument asks for. -/
theorem arrays_of (word : String) : (r.arrays word).Of r (.command "arrays" word) := by
  unfold arrays
  split
  case isTrue hword =>
    subst hword
    exact ⟨rfl, .idle rfl⟩
  case isFalse =>
    split
    case h_1 policy hpolicy => exact ⟨by rw [Entry.sets_arrays, hpolicy]; rfl, .idle rfl⟩
    case h_2 hpolicy => exact ⟨by rw [Entry.sets_arrays, hpolicy]; rfl, .idle rfl⟩

/-- A line sets what it asks for. -/
theorem enter_of (e : Entry) : (r.enter e).Of r e := by
  cases e with
  | nothing => exact ⟨rfl, .idle rfl⟩
  | query text => exact ⟨(r.query_keeps text).setup, (r.query_keeps text).pages⟩
  | command name args =>
    by_cases hjson : name = "json"
    · subst hjson
      exact ⟨rfl, .idle rfl⟩
    by_cases harrays : name = "arrays"
    · subst harrays
      exact r.arrays_of args
    by_cases hlimit : name = "limit"
    · subst hlimit
      exact r.limit_of args
    obtain ⟨hsetup, hpages⟩ := r.command_keeps hjson harrays hlimit args
    exact ⟨hsetup.trans (Entry.sets_command hjson harrays hlimit args _).symm, hpages⟩

/-! ## Lines that fail -/

/-- The names of all commands. -/
def commandNames : List String :=
  ["exit", "quit", "help", "h", "?", "clear", "cls", "tables", "tree", "json", "arrays", "limit",
    "login", "logout", "whoami", "search", "people", "prefs"]

/-- What a line asks for fails: the query or the request for it does, the argument is missing or not
valid, or there is no such command. -/
inductive Fails : Entry → Prop
  | query {text : String} {e : SessionError} :
      (r.session.run r.options text r.network).result = .error e → Fails (.query text)
  | noWords {name : String} : name = "search" ∨ name = "people" → Fails (.command name "")
  | search {words : String} {e : SessionError} :
      (r.session.search r.options .posts words r.network).result = .error e →
      Fails (.command "search" words)
  | people {words : String} {e : SessionError} :
      (r.session.search r.options .actors words r.network).result = .error e →
      Fails (.command "people" words)
  | noCredentials {args : String} : (Text.words args).length < 2 → Fails (.command "login" args)
  | login {args identifier password : String} {rest : List String} {e : SessionError} :
      Text.words args = identifier :: password :: rest →
      (r.session.login ⟨identifier, password⟩ r.network).result = .error e →
      Fails (.command "login" args)
  | noAccount {args : String} : r.session.auth = none → Fails (.command "prefs" args)
  | prefs {args : String} {e : SessionError} :
      (r.session.get .preferences r.network).result = .error e → Fails (.command "prefs" args)
  | noTree {args : String} : (∀ c, Compiled.ofText args ≠ .ok c) ∨ args = "" →
      Fails (.command "tree" args)
  | limit {args : String} : Text.unsigned? Text.maxWord32 args = none →
      Fails (.command "limit" args)
  | arrays {word : String} : ArrayPolicy.ofWord? word = none → Fails (.command "arrays" word)
  | unknown {name args : String} : name ∉ commandNames → Fails (.command name args)

/-- What fails sets nothing. -/
theorem Fails.sets_eq {e : Entry} (h : r.Fails e) (u : Setup) : e.sets u = u := by
  cases h with
  | limit hargs => rw [Entry.sets_limit, hargs]; rfl
  | arrays hword => rw [Entry.sets_arrays, hword]; rfl
  | noWords hname => obtain rfl | rfl := hname <;> rfl
  | unknown hname =>
    refine Entry.sets_command ?_ ?_ ?_ _ u <;>
      · rintro rfl
        exact hname (by decide)
  | query | search | people | noCredentials | login | noAccount | prefs | noTree => rfl

/-! ## Lines one after the other -/

/-- What the lines ask for, up to the last one, each with the traffic that it adds. -/
def transcript (r : Repl) : List String → List (Entry × List Traffic)
  | [] => []
  | text :: rest =>
    let l := r.typedLine text
    (Entry.ofTyped text, l.repl.network.log.drop r.network.log.length) ::
      if l.last then [] else l.repl.transcript rest

/-- The transcript is about the lines of the input. -/
theorem transcript_entries (r : Repl) (input : List String) :
    (r.transcript input).map Prod.fst <+: input.map Entry.ofTyped := by
  induction input generalizing r with
  | nil => exact List.prefix_rfl
  | cons text rest ih =>
    rw [transcript, List.map_cons, List.map_cons, List.prefix_cons_inj]
    split
    case isTrue => exact List.nil_prefix
    case isFalse => exact ih _

/-- The log holds the traffic of the transcript. -/
theorem log_lines (r : Repl) (input : List String) :
    (r.lines input).1.network.log = r.network.log ++ (r.transcript input).flatMap Prod.snd := by
  induction input generalizing r with
  | nil => simp [lines, transcript]
  | cons text rest ih =>
    obtain ⟨traffic, hlog, -⟩ := (r.enter_of (Entry.ofTyped text)).pages
    rw [← typedLine_eq] at hlog
    rw [lines, transcript, hlog, List.drop_left]
    dsimp only
    split
    case isTrue => simp [hlog]
    case isFalse => rw [ih, hlog, List.flatMap_cons, List.append_assoc]

/-- **Each line asks for pages of the size that was set last before it**, or of the one from before
the first line. -/
theorem transcript_pages (r : Repl) (input : List String) :
    ∀ before e traffic later, r.transcript input = before ++ (e, traffic) :: later →
      ∀ q ∈ Traffic.requests traffic,
        q.Pages ((Entry.latestLimit? (before.map Prod.fst)).getD r.session.limit) := by
  induction input generalizing r with
  | nil => intro before e traffic later heq; simp [transcript] at heq
  | cons text rest ih =>
    intro before e traffic later heq q hq
    have hof := r.enter_of (Entry.ofTyped text)
    rw [← typedLine_eq] at hof
    rw [transcript] at heq
    -- what the line does is known from `hof` alone
    generalize r.typedLine text = l at hof heq
    obtain ⟨hsetup, added, hlog, hpages⟩ := hof
    rw [hlog, List.drop_left] at heq
    cases before with
    | nil =>
      obtain ⟨hfirst, -⟩ := List.cons.inj heq
      obtain ⟨-, rfl⟩ := Prod.mk.inj hfirst
      exact hpages q hq
    | cons entry before =>
      obtain ⟨rfl, hrest⟩ := List.cons.inj heq
      split at hrest
      case isTrue => simp at hrest
      case isFalse =>
        have hpage := ih l.repl before e traffic later hrest q hq
        rw [← limit_setup, hsetup, Entry.limit_sets, limit_setup, ← Option.getD_or] at hpage
        simpa only [List.map_cons, Entry.latestLimit?_cons] using hpage

/-- Whatever is asked for while lines are read, it is in pages of a size that was set before. -/
theorem exists_pages_of_mem (r : Repl) (input : List String) {q : Request}
    (hq : q ∈ Traffic.requests ((r.transcript input).flatMap Prod.snd)) :
    ∃ entries, q.Pages ((Entry.latestLimit? entries).getD r.session.limit) := by
  obtain ⟨t, ht, hrequest⟩ := List.mem_filterMap.1 hq
  obtain ⟨⟨e, traffic⟩, hentry, htraffic⟩ := List.mem_flatMap.1 ht
  obtain ⟨before, later, heq⟩ := List.append_of_mem hentry
  have hmem : q ∈ Traffic.requests traffic := List.mem_filterMap.2 ⟨t, htraffic, hrequest⟩
  exact ⟨_, r.transcript_pages input before e traffic later heq q hmem⟩

end Repl

end FeedQuery
