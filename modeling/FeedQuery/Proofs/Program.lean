import FeedQuery.Program
import FeedQuery.Proofs.Repl

/-!
# Page sizes of whole runs

A run of the program asks for pages of between one and a hundred records. A query or a search asks
for as many as were settled at the start (`Program.exited_bounded`); while lines are read, it is the
number of the last `/limit`, or that of the start (`Program.reading_spec`). `Program.run_limits`
puts together what whole runs ask for and what single lines set.
-/

namespace FeedQuery

/-- The size of a page is brought within bounds. -/
theorem Settings.clampLimit_bounds (limit : Nat) :
    1 ≤ clampLimit limit ∧ clampLimit limit ≤ 100 := by
  rw [clampLimit, maxLimit]
  omega

/-- The size set last is within bounds, if the one from before is. -/
theorem Entry.latestLimit?_bounds (entries : List Entry) {limit : Nat}
    (h : 1 ≤ limit ∧ limit ≤ 100) :
    1 ≤ (latestLimit? entries).getD limit ∧ (latestLimit? entries).getD limit ≤ 100 := by
  cases hlatest : latestLimit? entries with
  | none => exact h
  | some latest =>
    obtain ⟨e, -, he⟩ := List.mem_filterMap.1 (List.mem_of_getLast? hlatest)
    unfold limit? at he
    split at he
    case h_1 =>
      obtain ⟨asked, -, rfl⟩ := Option.map_eq_some_iff.1 he
      exact Settings.clampLimit_bounds asked
    case h_2 => cases he

/-- The request asks for pages of a size within bounds, if it asks for pages. -/
def Request.Bounded (q : Request) : Prop := ∃ limit, (1 ≤ limit ∧ limit ≤ 100) ∧ q.Pages limit

/-- A request without parameters asks for no pages. -/
theorem Request.bounded_of_params_eq_nil {q : Request} (h : q.params = []) : q.Bounded :=
  ⟨1, by decide, pages_of_params_eq_nil h 1⟩

namespace Session

/-- Starting a session sends no parameters. -/
theorem start_goesOn (s : Session) (creds : Option Credentials) (n : Network) :
    n.GoesOn (fun q => q.params = []) (s.start creds n).network := by
  cases creds with
  | none => exact .idle rfl
  | some creds => exact s.login_goesOn creds n

/-- A session starts with the size of a page that it is given. -/
theorem limit_start (s : Session) (creds : Option Credentials) (n : Network) :
    (s.start creds n).session.limit = s.limit := by
  cases creds with
  | none => rfl
  | some creds => exact s.limit_login creds n

end Session

namespace Program

open CommandLine (Given)

/-! ## The start of a run -/

/-- The end of a program sends nothing. -/
theorem network_ended {α : Type} (t : Turn α) (f : α → Console) :
    (ended t f).network = t.network := by
  rw [ended]
  split <;> rfl

/-- Whatever a session does at once, it starts with the settings. -/
theorem withSession_pages (settings : Settings) (n : Network) {go : Session → Network → Exit}
    (hgo : ∀ (s : Session) (n' : Network), s.limit = settings.limit →
      n'.GoesOn (Request.Pages settings.limit) (go s n').network) :
    n.GoesOn (Request.Pages settings.limit) (withSession settings n go).network := by
  have hstart := (settings.session.start_goesOn settings.credentials n).mono fun q hq =>
    q.pages_of_params_eq_nil hq settings.limit
  rw [withSession]
  split
  case h_1 => exact hstart.trans (hgo _ _ (settings.session.limit_start ..))
  case h_2 => exact hstart

/-- A query asks for pages of the size that is set. -/
theorem query_pages (settings : Settings) (json : Bool) (text : String) (n : Network) :
    n.GoesOn (Request.Pages settings.limit) (query settings json text n).network :=
  withSession_pages settings n fun s n' hs => by
    rw [network_ended, ← hs]
    exact s.run_pages ..

/-- A search asks for pages of the size that is set. -/
theorem search_pages (settings : Settings) (json : Bool) (target : SearchTarget) (words : String)
    (n : Network) :
    n.GoesOn (Request.Pages settings.limit) (search settings json target words n).network :=
  withSession_pages settings n fun s n' hs => by
    rw [network_ended, ← hs]
    exact s.search_pages settings.options ..

/-- Showing a tree sends nothing. -/
theorem network_parse (strict json : Bool) (text : String) (n : Network) :
    (parse strict json text n).network = n := by
  unfold parse
  cases Compiled.ofText text with
  | error e => rfl
  | ok c => rfl

/-- To begin to read lines, nothing is asked for but an account. -/
theorem repl_spec (settings : Settings) (json : Bool) (n : Network) :
    (∀ e, repl settings json n = .exited e → n.GoesOn (fun q => q.params = []) e.network) ∧
    ∀ r console, repl settings json n = .reading r console →
      r.session.limit = settings.limit ∧ n.GoesOn (fun q => q.params = []) r.network := by
  have hlimit := settings.session.limit_start settings.credentials n
  have hstart := settings.session.start_goesOn settings.credentials n
  refine ⟨fun e h => ?_, fun r console h => ?_⟩
  · dsimp only [repl] at h
    split at h
    case h_1 => cases h
    case h_2 => cases h; exact hstart
  · dsimp only [repl] at h
    split at h
    case h_1 => cases h; exact ⟨hlimit, hstart⟩
    case h_2 => cases h

/-- What is over at once asks for pages of a size within bounds. -/
theorem exited_bounded {args : List String} {env : Environment} {n : Network} {e : Exit}
    (h : start args env n = .exited e) : n.GoesOn Request.Bounded e.network := by
  have hsettled (flags : Flags) {n' : Network}
      (hpages : n.GoesOn (Request.Pages (Settings.resolve env flags).limit) n') :
      n.GoesOn Request.Bounded n' :=
    hpages.mono fun q hq => ⟨_, Settings.clampLimit_bounds _, hq⟩
  unfold start at h
  split at h
  case h_1 | h_2 | h_3 => cases h; exact .idle rfl
  case h_4 before verb after operand _ =>
    cases verb with
    | query => cases h; exact hsettled _ (query_pages ..)
    | parse =>
      obtain rfl := Start.exited.inj h
      exact .idle (by rw [network_parse])
    | tables => cases h; exact .idle rfl
    | search => cases h; exact hsettled _ (search_pages ..)
    | completions => cases h; exact .idle rfl
    | repl => exact ((repl_spec ..).1 e h).mono fun q => q.bounded_of_params_eq_nil

/-- Lines are read with the number of records that a flag gives, or else the environment, or else a
default, and nothing has asked for pages before. -/
theorem reading_spec {args : List String} {env : Environment} {n : Network} {r : Repl}
    {console : Console} (h : start args env n = .reading r console) :
    (∃ before after operand, CommandLine.parse args = some (.run before .repl after operand) ∧
      r.session.limit = Settings.clampLimit (((flagsOf before after).limit.or
        ((env.get? "SKYQL_LIMIT").bind (Text.unsigned? Text.maxWord32))).getD 50)) ∧
    n.GoesOn (fun q => q.params = []) r.network := by
  unfold start at h
  split at h
  case h_1 | h_2 | h_3 => cases h
  case h_4 before verb after operand hparse =>
    cases verb with
    | query | parse | tables | search | completions => cases h
    | repl =>
      have ⟨hlimit, hstart⟩ := (repl_spec ..).2 r console h
      exact ⟨⟨before, after, operand, hparse, hlimit⟩, hstart⟩

/-! ## Whole runs -/

/-- **Pages stay within bounds, and settings are what lines have set.** Whatever the program is run
on, it asks for pages of between one and a hundred records. While it reads lines, these are as many
as the last `/limit` asked for, brought within bounds, or else as were settled at the start. A line
sets the page size, the form of the results or the policy for lists exactly when it is a command to
do so with a valid argument; a line that fails sets nothing. -/
theorem run_limits (args : List String) (env : Environment) (input : List String) (n : Network) :
    n.GoesOn Request.Bounded (run args env input n).network ∧
    (∀ r console, start args env n = .reading r console →
      (∃ before after operand,
        CommandLine.parse args = some (.run before .repl after operand) ∧
        r.session.limit = Settings.clampLimit (((flagsOf before after).limit.or
          ((env.get? "SKYQL_LIMIT").bind (Text.unsigned? Text.maxWord32))).getD 50)) ∧
      n.GoesOn (fun q => q.params = []) r.network ∧
      (run args env input n).network.log =
        r.network.log ++ (r.transcript input).flatMap Prod.snd ∧
      (r.transcript input).map Prod.fst <+: input.map Entry.ofTyped ∧
      ∀ before e traffic later, r.transcript input = before ++ (e, traffic) :: later →
        ∀ q ∈ Traffic.requests traffic,
          q.Pages ((Entry.latestLimit? (before.map Prod.fst)).getD r.session.limit)) ∧
    ∀ (r : Repl) (text : String),
      (r.typedLine text).repl.setup = (Entry.ofTyped text).sets r.setup ∧
      (r.Fails (Entry.ofTyped text) → (r.typedLine text).repl.setup = r.setup) := by
  have hline (r : Repl) (text : String) :
      (r.typedLine text).repl.setup = (Entry.ofTyped text).sets r.setup := by
    rw [r.typedLine_eq]
    exact (r.enter_of _).setup
  have hlog {r : Repl} {console : Console} (h : start args env n = .reading r console) :
      (run args env input n).network.log =
        r.network.log ++ (r.transcript input).flatMap Prod.snd := by
    rw [run, h]
    exact r.log_lines input
  refine ⟨?_, fun r console h => ?_, fun r text => ⟨hline r text, fun hfails => ?_⟩⟩
  · cases hstart : start args env n with
    | exited e =>
      rw [run, hstart]
      exact exited_bounded hstart
    | reading r console =>
      obtain ⟨⟨before, after, operand, -, hsettled⟩, hopening⟩ := reading_spec hstart
      have hstarted := hopening.mono fun q => q.bounded_of_params_eq_nil
      refine hstarted.trans ⟨_, hlog hstart, fun q hq => ?_⟩
      obtain ⟨entries, hpages⟩ := r.exists_pages_of_mem input hq
      refine ⟨_, Entry.latestLimit?_bounds entries ?_, hpages⟩
      exact hsettled ▸ Settings.clampLimit_bounds _
  · have ⟨hsettled, hopening⟩ := reading_spec h
    exact ⟨hsettled, hopening, hlog h, r.transcript_entries input, r.transcript_pages input⟩
  · rw [hline, hfails.sets_eq]

/-- A limit that is too great is lowered, one that is too small is raised, and one that is none
changes nothing. -/
theorem run_limits_clamped :
    let env : Environment := [("SKYQL_LIMIT", "700")]
    ∃ r console, start [] env (.offline 0) = .reading r console ∧ r.session.limit = 100 ∧
      (r.typedLine "/limit 0").repl.setup = { r.setup with limit := 1 } ∧
      (r.typedLine "/limit x").repl.setup = r.setup := by
  intro env
  obtain ⟨-, hreading, hline⟩ := run_limits [] env [] (.offline 0)
  have ⟨r, console, hstart⟩ : ∃ r console, start [] env (.offline 0) = .reading r console :=
    ⟨_, _, rfl⟩
  obtain ⟨⟨before, after, operand, hparse, hlimit⟩, -⟩ := hreading r console hstart
  have hnone : CommandLine.parse [] = some (.run .none .repl .none "") := rfl
  cases hnone.symm.trans hparse
  have hsettled : r.session.limit = 100 := hlimit.trans (by decide +kernel)
  have hlow : Entry.ofTyped "/limit 0" = .command "limit" "0" := by decide +kernel
  have hword : Entry.ofTyped "/limit x" = .command "limit" "x" := by decide +kernel
  refine ⟨r, console, hstart, hsettled, ?_, (hline r "/limit x").2 ?_⟩
  · rw [(hline r "/limit 0").1, hlow]
    rfl
  · rw [hword]
    exact .limit (by decide +kernel)

end Program

end FeedQuery
