import FeedQuery.Proofs.Session.Traffic

/-!
# Where tokens go

The history of a session is its traffic together with the times when the account was signed out
(`Session.life`). It tells which tokens were granted last (`Deed.latestGrant?`), and these are the
ones that the session holds. So it also tells what a request may carry, and to which host
(`Request.Confined`). The invariant (`Session.Accounts`) is that the session agrees with its history
and that each request was confined when it was sent; traffic and steps keep it.
-/

namespace FeedQuery

/-- What happens to a session. -/
inductive Deed where
  | traffic (t : Traffic)
  | logout

namespace Deed

/-- The traffic that a deed is. -/
def traffic? : Deed → Option Traffic
  | .traffic t => some t
  | .logout => none

/-- Whether the account is signed out. -/
def isLogout : Deed → Bool
  | .traffic _ => false
  | .logout => true

/-- The tokens that are granted. -/
def granted? : Deed → Option AuthTokens
  | .traffic (.exchange r answer) => r.granted? answer
  | .traffic (.pause _) | .logout => none

/-- The tokens granted last, unless the account has been signed out since. -/
def latestGrant? (deeds : List Deed) : Option AuthTokens :=
  (deeds.reverse.takeWhile (!·.isLogout)).findSome? granted?

/-- The traffic of deeds that are traffic is that traffic. -/
theorem filterMap_traffic? (ts : List Traffic) : (ts.map traffic).filterMap traffic? = ts := by
  rw [List.filterMap_map]
  exact List.filterMap_some

/-- The tokens granted last are those of the last piece of traffic, or those from before it. -/
theorem latestGrant?_traffic (deeds : List Deed) (t : Traffic) :
    latestGrant? (deeds ++ [.traffic t]) = (granted? (.traffic t)).or (latestGrant? deeds) := by
  cases h : granted? (.traffic t) <;> simp [latestGrant?, isLogout, h]

/-- After signing out no tokens are granted. -/
theorem latestGrant?_logout (deeds : List Deed) : latestGrant? (deeds ++ [.logout]) = none := by
  simp [latestGrant?, isLogout]

end Deed

/-- What a step is besides its traffic. -/
def Step.deeds : Step → List Deed
  | .logout => [.logout]
  | _ => []

/-- What a request carries and where it goes, when `latest` are the tokens granted last. -/
structure Request.Confined (service authService : String) (latest : Option AuthTokens)
    (r : Request) : Prop where
  /-- A request for data carries the access token, and only then goes to the account's host. -/
  get : r.verb = .get → r.authorization = latest.map ("Bearer " ++ ·.access) ∧
    r.host = if latest.isSome then authService else service
  /-- Any other request is one for tokens. -/
  post : r.verb = .post → r.renews = true ∨ r.signsIn = true
  /-- A refresh carries the refresh token to the account's host. -/
  renews : r.renews = true → r.host = authService ∧
    ∃ tokens ∈ latest, r.authorization = some ("Bearer " ++ tokens.refresh)
  /-- Signing in takes no token. -/
  signsIn : r.signsIn = true → r.host = authService ∧ r.authorization = none
  /-- Only what signs in is sent along with a request. -/
  body : r.body.isSome = true ↔ r.signsIn = true

/-- Each request of a history is confined by the tokens granted before it. -/
def Deed.Confined (service authService : String) (deeds : List Deed) : Prop :=
  ∀ before r answer after, deeds = before ++ .traffic (.exchange r answer) :: after →
    r.Confined service authService (latestGrant? before)

/-- A place in a history with one deed more is the new deed, or a place from before. -/
theorem Deed.concat_eq_append_cons {deeds before after : List Deed} {d e : Deed}
    (h : deeds ++ [d] = before ++ e :: after) :
    before = deeds ∧ e = d ∧ after = [] ∨
      ∃ after', after = after' ++ [d] ∧ deeds = before ++ e :: after' := by
  rcases List.eq_nil_or_concat after with rfl | ⟨after, last, rfl⟩
  · obtain ⟨rfl, hlast⟩ := List.append_inj' h rfl
    exact .inl ⟨rfl, (List.singleton_inj.1 hlast).symm, rfl⟩
  · have heq : deeds ++ [d] = (before ++ e :: after) ++ [last] := by simpa using h
    obtain ⟨rfl, hlast⟩ := List.append_inj' heq rfl
    obtain rfl := List.singleton_inj.1 hlast
    exact .inr ⟨after, by simp, rfl⟩

/-- One deed more. -/
theorem Deed.Confined.concat {service authService : String} {deeds : List Deed} {d : Deed}
    (h : Deed.Confined service authService deeds)
    (hd : ∀ r answer, d = .traffic (.exchange r answer) →
      r.Confined service authService (latestGrant? deeds)) :
    Deed.Confined service authService (deeds ++ [d]) := by
  intro before r answer after heq
  obtain ⟨rfl, hnew, -⟩ | ⟨after', -, hdeeds⟩ := concat_eq_append_cons heq
  · exact hd r answer hnew.symm
  · exact h before r answer after' hdeeds

namespace Session

/-! ## Histories -/

/-- What a turn adds to the log. -/
def added {α : Type} (n : Network) (t : Turn α) : List Deed :=
  (t.network.log.drop n.log.length).map .traffic

/-- What happens in a step. -/
def deeds (s : Session) (n : Network) (step : Step) : List Deed :=
  added n (s.step n step) ++ step.deeds

/-- What happens in steps, one after the other. -/
def history (s : Session) (n : Network) : List Step → List Deed
  | [] => []
  | step :: rest =>
    let turn := s.step n step
    s.deeds n step ++ history turn.session turn.network rest

/-- What happens from the start of a session on. -/
def life (s : Session) (creds : Option Credentials) (n : Network) (steps : List Step) : List Deed :=
  let opened := s.start creds n
  added n opened ++ opened.session.history opened.network steps

/-- The session and the network after steps. -/
def afterSteps (s : Session) (n : Network) (steps : List Step) : Session × Network :=
  ((s.steps n steps).getLast?.map fun turn => (turn.session, turn.network)).getD (s, n)

/-- Steps are done one after the other. -/
theorem afterSteps_cons (s : Session) (n : Network) (step : Step) (rest : List Step) :
    s.afterSteps n (step :: rest) =
      (s.step n step).session.afterSteps (s.step n step).network rest := by
  rw [afterSteps, steps, List.getLast?_cons, afterSteps]
  cases List.getLast? _ <;> rfl

/-- What a turn adds is the traffic behind the log from before it. -/
theorem added_eq {α : Type} {n : Network} {t : Turn α} {traffic : List Traffic}
    (h : t.network.log = n.log ++ traffic) : added n t = traffic.map .traffic := by
  rw [added, h, List.drop_left]

/-! ## Invariants -/

/-- What holds of a history and the session after it goes on to hold with more traffic, after
signing out and with another page size. -/
structure Invariant (I : List Deed → Session → Prop) : Prop where
  traffic : ∀ {deeds : List Deed} {s : Session} {t : Traffic}, I deeds s →
    (∀ r ∈ t.request?, s.Issues r) → I (deeds ++ [.traffic t]) (s.after t)
  logout : ∀ {deeds : List Deed} {s : Session}, I deeds s → I (deeds ++ [.logout]) s.logout
  withLimit : ∀ {deeds : List Deed} {s : Session}, I deeds s →
    ∀ limit, I deeds (s.withLimit limit)

namespace Invariant

variable {I : List Deed → Session → Prop} {deeds : List Deed} {s : Session}

/-- An invariant is kept by traffic that is made of requests that may be sent. -/
theorem replay (hI : Invariant I) (h : I deeds s) {traffic : List Traffic}
    (ht : s.Orderly Issues traffic) : I (deeds ++ traffic.map .traffic) (s.replay traffic) := by
  induction traffic generalizing s deeds with
  | nil => simpa using h
  | cons t ts ih =>
    rw [List.map_cons, List.append_cons]
    exact ih (hI.traffic h ht.1) ht.2

/-- An invariant is kept by a step. -/
theorem step (hI : Invariant I) (h : I deeds s) (n : Network) (step : Step) :
    I (deeds ++ s.deeds n step) (s.step n step).session := by
  obtain ⟨traffic, hlog, hsession, horderly⟩ := s.step_follows n step
  have hreplay := hI.replay h horderly
  rw [hsession, Session.deeds, added_eq hlog, ← List.append_assoc]
  cases step with
  | logout => exact hI.logout hreplay
  | setLimit limit => simpa [Step.deeds, Step.alone] using hI.withLimit hreplay limit
  | login | refresh | timePasses | query | search | execute | get =>
    simpa [Step.deeds, Step.alone] using hreplay

/-- An invariant is kept by steps, one after the other. -/
theorem history (hI : Invariant I) (h : I deeds s) (n : Network) (steps : List Step) :
    I (deeds ++ s.history n steps) (s.afterSteps n steps).1 := by
  induction steps generalizing s n deeds with
  | nil => simpa [Session.history, afterSteps, Session.steps] using h
  | cons step rest ih =>
    rw [afterSteps_cons, Session.history, ← List.append_assoc]
    exact ih (hI.step h n step) _

end Invariant

/-! ## Where tokens may go -/

/-- The session has these hosts and the tokens granted last, and the requests were confined. -/
structure Accounts (service authService : String) (deeds : List Deed) (s : Session) : Prop where
  host : s.service = service
  authHost : s.authService = authService
  tokens : s.auth.map (·.unnamed) = (Deed.latestGrant? deeds).map (·.unnamed)
  confined : Deed.Confined service authService deeds

variable {service authService : String} {deeds : List Deed} {s : Session}

/-- A request that the session may send is confined. -/
theorem Issues.confined {r : Request} (h : s.Issues r) (hs : s.Accounts service authService deeds) :
    r.Confined service authService (Deed.latestGrant? deeds) := by
  obtain ⟨rfl, rfl, htokens, -⟩ := hs
  -- of the tokens granted last, only the name may differ from those of the session
  generalize Deed.latestGrant? deeds = latest at htokens ⊢
  cases h with
  | login creds =>
    exact ⟨by simp [loginRequest], fun _ => .inr (by simp), by simp, fun _ => ⟨rfl, rfl⟩,
      iff_of_true rfl (by simp)⟩
  | ask h =>
    cases h with
    | get call =>
      have haccess : s.auth.map (·.access) = latest.map (·.access) := by
        simpa [Function.comp_def] using congrArg (Option.map (·.access)) htokens
      have hsome : s.auth.isSome = latest.isSome := by simpa using congrArg Option.isSome htokens
      refine ⟨fun _ => ⟨?_, ?_⟩, by simp [getRequest], by simp, by simp,
        iff_of_false Bool.false_ne_true (by simp)⟩
      · simp [Request.authorization, getRequest, haccess, Function.comp_def]
      · rw [← hsome]
        rfl
    | @refresh a ha =>
      obtain ⟨tokens, rfl, hsame⟩ : ∃ tokens, latest = some tokens ∧ tokens.unnamed = a.unnamed :=
        Option.map_eq_some_iff.1 (by rw [← htokens, ha, Option.map_some])
      have hrefresh : tokens.refresh = a.refresh := by simpa using congrArg (·.refresh) hsame
      refine ⟨by simp [refreshRequest], fun _ => .inl (by simp), fun _ => ⟨rfl, tokens, rfl, ?_⟩,
        by simp, iff_of_false Bool.false_ne_true (by simp)⟩
      rw [hrefresh]
      rfl

/-- Traffic grants the tokens that the session holds afterwards. -/
theorem tokens_after (s : Session) (t : Traffic) :
    (s.after t).auth.map (·.unnamed) =
      ((Deed.granted? (.traffic t)).or s.auth).map (·.unnamed) := by
  cases t with
  | pause => rfl
  | exchange r answer =>
    cases h : r.granted? answer with
    | none => rw [s.after_of_granted?_none h, Deed.granted?, h, Option.none_or]
    | some fresh =>
      rw [s.after_of_granted?_some h, Deed.granted?, h, Option.some_or]
      rfl

/-- The account is kept by a request that the session may send. -/
theorem Accounts.traffic (h : s.Accounts service authService deeds) {t : Traffic}
    (ht : ∀ r ∈ t.request?, s.Issues r) :
    (s.after t).Accounts service authService (deeds ++ [.traffic t]) := by
  obtain ⟨auth, hauth⟩ := s.exists_after_eq t
  refine ⟨?_, ?_, ?_, h.confined.concat ?_⟩
  · rw [hauth]
    exact h.host
  · rw [hauth]
    exact h.authHost
  · rw [tokens_after, Deed.latestGrant?_traffic, Option.map_or, h.tokens, Option.map_or]
  · rintro r answer heq
    cases heq
    exact (ht r rfl).confined h

/-- After signing out there is no account. -/
theorem Accounts.logout (h : s.Accounts service authService deeds) :
    s.logout.Accounts service authService (deeds ++ [.logout]) :=
  ⟨h.host, h.authHost, by rw [Deed.latestGrant?_logout]; rfl, h.confined.concat nofun⟩

/-- The size of a page has nothing to do with the account. -/
theorem Accounts.withLimit (h : s.Accounts service authService deeds) (limit : Nat) :
    (s.withLimit limit).Accounts service authService deeds :=
  ⟨h.host, h.authHost, h.tokens, h.confined⟩

/-- The account is an invariant of the history. -/
theorem accounts_invariant (service authService : String) :
    Invariant fun deeds s => s.Accounts service authService deeds :=
  ⟨fun h ht => h.traffic ht, fun h => h.logout, fun h => h.withLimit⟩

/-- The account is kept by traffic. -/
theorem Accounts.replay (h : s.Accounts service authService deeds) {traffic : List Traffic}
    (ht : s.Orderly Issues traffic) :
    (s.replay traffic).Accounts service authService (deeds ++ traffic.map .traffic) :=
  (accounts_invariant service authService).replay h ht

/-- The account is kept by steps. -/
theorem Accounts.history (h : s.Accounts service authService deeds) (n : Network)
    (steps : List Step) :
    (s.afterSteps n steps).1.Accounts service authService (deeds ++ s.history n steps) :=
  (accounts_invariant service authService).history h n steps

/-! ## Whole runs -/

/-- The log holds the traffic of the history. -/
theorem log_afterSteps (s : Session) (n : Network) (steps : List Step) :
    (s.afterSteps n steps).2.log = n.log ++ (s.history n steps).filterMap Deed.traffic? := by
  induction steps generalizing s n with
  | nil => simp [Session.history, afterSteps, Session.steps]
  | cons step rest ih =>
    obtain ⟨traffic, hlog, -⟩ := s.step_follows n step
    have hown : step.deeds.filterMap Deed.traffic? = [] := by cases step <;> rfl
    rw [afterSteps_cons, ih, hlog, Session.history, Session.deeds, added_eq hlog]
    simp only [List.filterMap_append, Deed.filterMap_traffic?, hown, List.nil_append,
      List.append_assoc]

/-- The start of a session, signed in or not. -/
theorem start_follows (s : Session) (creds : Option Credentials) (n : Network) :
    (s.start creds n).Follows Issues s n := by
  cases creds with
  | none => exact .idle _ rfl rfl
  | some creds => exact (s.login_takes creds n).follows (.login creds)

/-- An invariant holds at the end of any run of a session at whose start it holds. -/
theorem Invariant.life {I : List Deed → Session → Prop} (hI : Invariant I) (h : I [] s)
    (creds : Option Credentials) (n : Network) (steps : List Step) :
    let opened := s.start creds n
    I (s.life creds n steps) (opened.session.afterSteps opened.network steps).1 := by
  obtain ⟨traffic, hlog, hsession, horderly⟩ := s.start_follows creds n
  have hopened := hI.replay h horderly
  rw [← hsession, List.nil_append, ← added_eq hlog] at hopened
  exact hI.history hopened _ steps

/-- **Tokens go where they belong.** In every run of a session, from its start on, the session holds
the tokens granted last since the account was signed out, and by these tokens each request on the
log is confined: one for data carries the access token to the account's host or nothing to the
public one, a refresh carries the refresh token to the account's host, and signing in, which alone
is sent with a body, carries none. -/
theorem history_confined (service authService : String) (limit maxRetries : Nat)
    (creds : Option Credentials) (n : Network) (steps : List Step) :
    let opened := (anonymous service authService limit maxRetries).start creds n
    let final := opened.session.afterSteps opened.network steps
    let deeds := (anonymous service authService limit maxRetries).life creds n steps
    final.2.log = n.log ++ deeds.filterMap Deed.traffic? ∧
      final.1.auth.map (·.unnamed) = (Deed.latestGrant? deeds).map (·.unnamed) ∧
      Deed.Confined service authService deeds := by
  intro opened final deeds
  have hstart : (anonymous service authService limit maxRetries).Accounts service authService [] :=
    ⟨rfl, rfl, rfl, fun _ _ _ _ heq => absurd heq (by simp)⟩
  obtain ⟨traffic, hlog, hsession, horderly⟩ :=
    (anonymous service authService limit maxRetries).start_follows creds n
  have hopened := hstart.replay horderly
  rw [← hsession, List.nil_append, ← added_eq hlog] at hopened
  have hfinal := hopened.history opened.network steps
  refine ⟨?_, hfinal.tokens, hfinal.confined⟩
  have hdeeds : deeds = traffic.map .traffic ++ opened.session.history opened.network steps := by
    rw [← added_eq hlog]
    rfl
  rw [log_afterSteps, hlog, hdeeds, List.filterMap_append, Deed.filterMap_traffic?,
    List.append_assoc]

/-- The first request after signing in carries the token that was granted. -/
theorem history_confined_signed_in :
    let granting : Answer := .response 200 none "[\"old\",\"key\",\"did:1\"]"
    let deeds := (anonymous "http://a" "http://b" 25 0).life (some ⟨"alice", "secret"⟩)
      ⟨[granting], .dropped, 0, []⟩ [.get .preferences]
    ∃ before r answer, deeds = before ++ [.traffic (.exchange r answer)] ∧
      r.host = "http://b" ∧ r.authorization = some "Bearer old" := by
  intro granting deeds
  have hverb : (deeds.getLast?.bind Deed.traffic?).bind (·.request?.map (·.verb)) = some .get := by
    decide +kernel
  have hlatest : Deed.latestGrant? deeds.dropLast = some ⟨"old", "key", "did:1", ""⟩ := by
    decide +kernel
  obtain ⟨⟨r, answer⟩ | _, htraffic, hverb⟩ := Option.bind_eq_some_iff.1 hverb
  case pause => cases hverb
  case exchange =>
    obtain ⟨_ | _, hd, htraffic⟩ := Option.bind_eq_some_iff.1 htraffic
    case logout => cases htraffic
    case traffic =>
      cases htraffic
      obtain ⟨before, hdeeds⟩ := List.getLast?_eq_some_iff.1 hd
      have hconfined := (history_confined "http://a" "http://b" 25 0 (some ⟨"alice", "secret"⟩)
        ⟨[granting], .dropped, 0, []⟩ [.get .preferences]).2.2 before r answer [] hdeeds
      rw [hdeeds, List.dropLast_concat] at hlatest
      rw [hlatest] at hconfined
      have ⟨hauthorization, hhost⟩ := hconfined.get (Option.some.inj hverb)
      exact ⟨before, r, answer, hdeeds, hhost, hauthorization⟩

end Session

end FeedQuery
