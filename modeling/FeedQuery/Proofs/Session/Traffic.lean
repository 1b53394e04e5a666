import FeedQuery.Proofs.Http
import FeedQuery.Session.Step

/-!
# What a session does on the network

The log of a network tells what becomes of a session: an answer that grants tokens
(`Request.granted?`) replaces the tokens, and no other traffic changes anything (`Session.after`).
So an operation is described by the requests that a session may send at the time (`Session.Asks`,
`Session.Issues`), and by the fact that the session goes along with the traffic (`Turn.Follows`).
Signing in and refreshing send one request and take what it grants (`Turn.Takes`); what asks for
data is made of refreshes and requests for the data. A step follows its traffic as its operation
does (`Session.step_follows_asks`, `Session.step_follows`).
-/

namespace FeedQuery

namespace AuthTokens

/-- The tokens, without the name of the account. -/
def unnamed (a : AuthTokens) : AuthTokens := { a with handle := "" }

@[simp] theorem unnamed_access (a : AuthTokens) : a.unnamed.access = a.access := rfl

@[simp] theorem unnamed_refresh (a : AuthTokens) : a.unnamed.refresh = a.refresh := rfl

end AuthTokens

namespace Request

/-- Whether the request is one to sign in. -/
def signsIn (r : Request) : Bool := r.verb = .post && r.operation = Session.createSession

/-- Whether the request is one to refresh the tokens. -/
def renews (r : Request) : Bool := r.verb = .post && r.operation = Session.refreshSession

/-- The tokens that an answer to the request grants: those that a success holds. -/
def granted? (r : Request) (answer : Answer) : Option AuthTokens :=
  if r.signsIn || r.renews then (Client.conclude r answer).toOption.bind AuthTokens.ofValue?
  else none

/-- An answer that comes to an error grants nothing. -/
theorem granted?_of_error {r : Request} {answer : Answer} {e : SessionError}
    (h : Client.conclude r answer = .error e) : r.granted? answer = none := by
  simp [granted?, h, Except.toOption]

/-- A success in answer to a request for tokens grants those that it holds. -/
theorem granted?_of_ok {r : Request} {answer : Answer} {v : Json.Value}
    (hr : (r.signsIn || r.renews) = true) (h : Client.conclude r answer = .ok v) :
    r.granted? answer = AuthTokens.ofValue? v := by
  simp [granted?, hr, h, Except.toOption]

end Request

namespace Session

/-! ## The kinds of requests -/

@[simp] theorem loginRequest_signsIn (s : Session) (creds : Credentials) :
    (s.loginRequest creds).signsIn = true := by simp [Request.signsIn, loginRequest]

@[simp] theorem loginRequest_renews (s : Session) (creds : Credentials) :
    (s.loginRequest creds).renews = false := by
  simp [Request.renews, loginRequest, createSession, refreshSession]

@[simp] theorem refreshRequest_signsIn (s : Session) (a : AuthTokens) :
    (s.refreshRequest a).signsIn = false := by
  simp [Request.signsIn, refreshRequest, createSession, refreshSession]

@[simp] theorem refreshRequest_renews (s : Session) (a : AuthTokens) :
    (s.refreshRequest a).renews = true := by simp [Request.renews, refreshRequest]

@[simp] theorem getRequest_signsIn (s : Session) (call : Call) :
    (s.getRequest call).signsIn = false := by simp [Request.signsIn, getRequest]

@[simp] theorem getRequest_renews (s : Session) (call : Call) :
    (s.getRequest call).renews = false := by simp [Request.renews, getRequest]

/-- A request that a session may send while it asks for data. -/
inductive Asks (s : Session) : Request → Prop where
  | get (call : Call) : Asks s (s.getRequest call)
  | refresh {a : AuthTokens} : s.auth = some a → Asks s (s.refreshRequest a)

/-- A request that a session may send. -/
inductive Issues (s : Session) : Request → Prop where
  | ask {r : Request} : s.Asks r → Issues s r
  | login (creds : Credentials) : Issues s (s.loginRequest creds)

/-! ## Sessions along traffic -/

/-- The session with the tokens that an answer to the request grants. A refresh without a name keeps
the one known before. -/
def granted (s : Session) (r : Request) (fresh : AuthTokens) : Session :=
  let handle := if r.renews ∧ fresh.handle = "" then s.handle?.getD "" else fresh.handle
  { s with auth := some { fresh with handle } }

/-- Signing in takes the tokens as they are. -/
theorem granted_loginRequest (s : Session) (creds : Credentials) (fresh : AuthTokens) :
    s.granted (s.loginRequest creds) fresh = { s with auth := some fresh } := by simp [granted]

/-- Refreshing puts the name known before in the place of an empty one. -/
theorem granted_refreshRequest {s : Session} {a : AuthTokens} (h : s.auth = some a)
    (fresh : AuthTokens) : s.granted (s.refreshRequest a) fresh =
      { s with auth := some { fresh with
          handle := if fresh.handle = "" then a.handle else fresh.handle } } := by
  simp [granted, handle?, h]

/-- The session after a piece of traffic. -/
def after (s : Session) : Traffic → Session
  | .exchange r answer =>
    match r.granted? answer with
    | none => s
    | some fresh => s.granted r fresh
  | .pause _ => s

/-- The session after more traffic. -/
def replay (s : Session) (traffic : List Traffic) : Session := traffic.foldl after s

/-- Each request of the traffic is one that the session may send at that time. -/
def Orderly (may : Session → Request → Prop) (s : Session) : List Traffic → Prop
  | [] => True
  | t :: rest => (∀ r ∈ t.request?, may s r) ∧ Orderly may (s.after t) rest

/-- An answer that grants nothing leaves the session as it is. -/
theorem after_of_granted?_none (s : Session) {r : Request} {answer : Answer}
    (h : r.granted? answer = none) : s.after (.exchange r answer) = s := by simp only [after, h]

/-- An answer that grants tokens gives them to the session. -/
theorem after_of_granted?_some (s : Session) {r : Request} {answer : Answer} {fresh : AuthTokens}
    (h : r.granted? answer = some fresh) : s.after (.exchange r answer) = s.granted r fresh := by
  simp only [after, h]

/-- Traffic changes nothing but the tokens. -/
theorem exists_after_eq (s : Session) (t : Traffic) : ∃ auth, s.after t = { s with auth } := by
  cases t with
  | pause => exact ⟨s.auth, rfl⟩
  | exchange r answer =>
    cases h : r.granted? answer with
    | none => exact ⟨s.auth, s.after_of_granted?_none h⟩
    | some fresh => exact ⟨_, s.after_of_granted?_some h⟩

@[simp] theorem replay_nil (s : Session) : s.replay [] = s := rfl

@[simp] theorem replay_cons (s : Session) (t : Traffic) (ts : List Traffic) :
    s.replay (t :: ts) = (s.after t).replay ts := rfl

/-- Traffic is replayed in parts. -/
theorem replay_append (s : Session) (ts us : List Traffic) :
    s.replay (ts ++ us) = (s.replay ts).replay us := List.foldl_append

/-- Orderly traffic may go on with traffic that is orderly after it. -/
theorem Orderly.append {may : Session → Request → Prop} {s : Session} {ts us : List Traffic}
    (h : s.Orderly may ts) (h' : (s.replay ts).Orderly may us) : s.Orderly may (ts ++ us) := by
  induction ts generalizing s with
  | nil => exact h'
  | cons t ts ih => exact ⟨h.1, ih h.2 h'⟩

/-- Traffic stays orderly when more requests are allowed. -/
theorem Orderly.mono {may may' : Session → Request → Prop} (hmay : ∀ s r, may s r → may' s r)
    {s : Session} {ts : List Traffic} (h : s.Orderly may ts) : s.Orderly may' ts := by
  induction ts generalizing s with
  | nil => trivial
  | cons t ts ih => exact ⟨fun r hr => hmay s r (h.1 r hr), ih h.2⟩

end Session

namespace Client.Sends

variable {r : Request} {traffic : List Traffic} {last : Answer}

/-- Only the last answer to a request can change a session. -/
theorem replay (h : Sends r traffic last) (s : Session) :
    s.replay traffic = s.after (.exchange r last) := by
  induction h with
  | final => rfl
  | again hpause _ ih =>
    -- an answer that is tried again is no success, so it grants nothing
    obtain ⟨e, he⟩ := conclude_of_pauseAfter? hpause r
    rw [Session.replay_cons, s.after_of_granted?_none (Request.granted?_of_error he)]
    exact ih

/-- A request that may be sent may be repeated. -/
theorem orderly (h : Sends r traffic last) {may : Session → Request → Prop} {s : Session}
    (hr : may s r) : s.Orderly may traffic := by
  induction h with
  | final => exact ⟨fun _ heq => Option.mem_some.1 heq ▸ hr, trivial⟩
  | again hpause _ ih =>
    obtain ⟨e, he⟩ := conclude_of_pauseAfter? hpause r
    refine ⟨fun _ heq => Option.mem_some.1 heq ▸ hr, ?_⟩
    rw [s.after_of_granted?_none (Request.granted?_of_error he)]
    exact ⟨nofun, ih⟩

end Client.Sends

/-! ## Turns along traffic -/

namespace Turn

variable {α β : Type} {may : Session → Request → Prop} {s : Session} {n : Network} {r : Request}

/-- The turn adds traffic to the log, made of requests that the session may send at the time, and
the session goes along. -/
def Follows (may : Session → Request → Prop) (s : Session) (n : Network) (t : Turn α) : Prop :=
  ∃ traffic, t.network.log = n.log ++ traffic ∧ t.session = s.replay traffic ∧
    s.Orderly may traffic

/-- A turn that leaves the session and the log alone. -/
theorem Follows.idle (t : Turn α) (hs : t.session = s) (hn : t.network.log = n.log) :
    t.Follows may s n :=
  ⟨[], hn.trans (List.append_nil _).symm, hs, trivial⟩

/-- A change of the result changes nothing else of a turn. -/
theorem Follows.map {t : Turn α} (h : t.Follows may s n) (f : α → β) :
    (t.map f).Follows may s n := h

/-- A turn may go on with another one. -/
theorem Follows.trans {t : Turn α} {t' : Turn β} (h : t.Follows may s n)
    (h' : t'.Follows may t.session t.network) : t'.Follows may s n := by
  obtain ⟨ts, hlog, hsession, horderly⟩ := h
  obtain ⟨us, hlog', hsession', horderly'⟩ := h'
  rw [hsession] at hsession' horderly'
  refine ⟨ts ++ us, ?_, ?_, horderly.append horderly'⟩
  · rw [hlog', hlog, List.append_assoc]
  · rw [hsession', Session.replay_append]

/-- A turn stays orderly when more requests are allowed. -/
theorem Follows.mono {may' : Session → Request → Prop} (hmay : ∀ s r, may s r → may' s r)
    {t : Turn α} (h : t.Follows may s n) : t.Follows may' s n := by
  obtain ⟨traffic, hlog, hsession, horderly⟩ := h
  exact ⟨traffic, hlog, hsession, horderly.mono hmay⟩

/-- The turn sends the request and takes the tokens that the last answer grants. It fails only when
that one grants none. -/
def Takes (r : Request) (s : Session) (n : Network) (t : Turn Unit) : Prop :=
  ∃ traffic last, Client.Sends r traffic last ∧ t.network.log = n.log ++ traffic ∧
    (Client.send s.maxRetries r n).1 = Client.conclude r last ∧
    t.session = s.after (.exchange r last) ∧
    ((∃ e, t.result = .error e) → r.granted? last = none)

/-- Taking tokens is orderly when the request for them is allowed. -/
theorem Takes.follows {t : Turn Unit} (h : t.Takes r s n) (hr : may s r) : t.Follows may s n := by
  obtain ⟨traffic, last, hsends, hlog, -, hsession, -⟩ := h
  exact ⟨traffic, hlog, hsession.trans (hsends.replay s).symm, hsends.orderly hr⟩

/-- A failure leaves the session as it was. -/
theorem Takes.intact {t : Turn Unit} (h : t.Takes r s n) {e : SessionError}
    (he : t.result = .error e) : t.session = s := by
  obtain ⟨traffic, last, -, -, -, hsession, hfailed⟩ := h
  exact hsession.trans (s.after_of_granted?_none (hfailed ⟨e, he⟩))

end Turn

/-! ## The operations of a session -/

namespace Session

open Turn (Follows)

/-- The turn that a request for tokens ends in: tokens in the answer are taken, and without them the
turn fails in one of two wordings. -/
def takeTokens (s : Session) (r : Request) (refused : SessionError → SessionError)
    (unreadable : SessionError) : Except SessionError Json.Value × Network → Turn Unit
  | (.error e, n) => ⟨.error (refused e), s, n⟩
  | (.ok answer, n) =>
    match AuthTokens.ofValue? answer with
    | none => ⟨.error unreadable, s, n⟩
    | some fresh => ⟨.ok (), s.granted r fresh, n⟩

/-- Sending a request for tokens takes those that the last answer grants. -/
theorem takeTokens_takes (s : Session) {r : Request} (hr : (r.signsIn || r.renews) = true)
    (refused : SessionError → SessionError) (unreadable : SessionError) (n : Network) :
    (s.takeTokens r refused unreadable (Client.send s.maxRetries r n)).Takes r s n := by
  obtain ⟨traffic, last, hsends, hlog, hresult⟩ := Client.send_sends s.maxRetries r n
  refine ⟨traffic, last, hsends, ?_⟩
  generalize Client.send s.maxRetries r n = sent at hlog hresult ⊢
  obtain ⟨result, n'⟩ := sent
  cases result with
  | error e =>
    have hnone := Request.granted?_of_error hresult.symm
    exact ⟨hlog, hresult, (s.after_of_granted?_none hnone).symm, fun _ => hnone⟩
  | ok answer =>
    have hgranted := Request.granted?_of_ok hr hresult.symm
    rw [takeTokens]
    cases htokens : AuthTokens.ofValue? answer with
    | none =>
      have hnone := hgranted.trans htokens
      exact ⟨hlog, hresult, (s.after_of_granted?_none hnone).symm, fun _ => hnone⟩
    | some fresh =>
      exact ⟨hlog, hresult, (s.after_of_granted?_some (hgranted.trans htokens)).symm, nofun⟩

/-- Signing in. -/
theorem login_takes (s : Session) (creds : Credentials) (n : Network) :
    (s.login creds n).Takes (s.loginRequest creds) s n := by
  have hlogin : s.login creds n = s.takeTokens (s.loginRequest creds) (·.asRefusal)
      (.auth (.unreadable "createSession"))
      (Client.send s.maxRetries (s.loginRequest creds) n) := by
    rw [login]
    generalize Client.send s.maxRetries (s.loginRequest creds) n = sent
    obtain ⟨_ | answer, n'⟩ := sent
    · rfl
    · dsimp only [takeTokens]
      cases AuthTokens.ofValue? answer with
      | none => rfl
      | some fresh => simp only [granted_loginRequest]
  rw [hlogin]
  exact s.takeTokens_takes (by simp) _ _ n

/-- A session that is signed in refreshes by sending one request. -/
theorem refresh_eq {s : Session} {a : AuthTokens} (h : s.auth = some a) (n : Network) :
    s.refresh n = s.takeTokens (s.refreshRequest a) id (.auth (.unreadable "refreshSession"))
      (Client.send s.maxRetries (s.refreshRequest a) n) := by
  rw [refresh, h]
  dsimp only
  generalize Client.send s.maxRetries (s.refreshRequest a) n = sent
  obtain ⟨_ | answer, n'⟩ := sent
  · rfl
  · dsimp only [takeTokens]
    cases AuthTokens.ofValue? answer with
    | none => rfl
    | some fresh => simp only [granted_refreshRequest h]

/-- Refreshing the tokens. -/
theorem refresh_takes {s : Session} {a : AuthTokens} (h : s.auth = some a) (n : Network) :
    (s.refresh n).Takes (s.refreshRequest a) s n := by
  rw [refresh_eq h]
  exact s.takeTokens_takes (by simp) _ _ n

/-- There is nothing to refresh without an account. -/
theorem refresh_of_anonymous {s : Session} (h : s.auth = none) (n : Network) :
    s.refresh n = ⟨.error (.auth .notLoggedIn), s, n⟩ := by rw [refresh, h]

/-- A refresh sends only what a session may send to ask for data. -/
theorem refresh_follows (s : Session) (n : Network) : (s.refresh n).Follows Asks s n := by
  cases h : s.auth with
  | none => exact .idle _ (by rw [refresh_of_anonymous h]) (by rw [refresh_of_anonymous h])
  | some a => exact (refresh_takes h n).follows (.refresh h)

/-- A refresh beforehand sends only what a session may send to ask for data. -/
theorem ensureFresh_follows (s : Session) (n : Network) : (s.ensureFresh n).Follows Asks s n := by
  rw [ensureFresh]
  split
  case isTrue => exact s.refresh_follows n
  case isFalse => exact .idle _ rfl rfl

/-- A fetch sends only what a session may send to ask for data. -/
theorem fetch_follows (s : Session) (call : Call) (n : Network) :
    (s.fetch call n).Follows Asks s n := by
  obtain ⟨traffic, last, hsends, hlog, -⟩ := Client.send_sends s.maxRetries (s.getRequest call) n
  refine ⟨traffic, hlog, ?_, hsends.orderly (.get call)⟩
  rw [hsends.replay, s.after_of_granted?_none (by simp [Request.granted?])]
  rfl

/-- Asking for data goes through up to two refreshes and two requests for the data. -/
theorem get_follows (s : Session) (call : Call) (n : Network) :
    (s.get call n).Follows Asks s n := by
  rw [get]
  have hfresh := s.ensureFresh_follows n
  generalize s.ensureFresh n = fresh at hfresh ⊢
  dsimp only
  split
  case h_1 => exact hfresh
  case h_2 =>
    have hfirst := hfresh.trans (fresh.session.fetch_follows call fresh.network)
    generalize fresh.session.fetch call fresh.network = first at hfirst ⊢
    split
    case h_1 => exact hfirst
    case h_2 =>
      split
      case isFalse => exact hfirst
      case isTrue =>
        have hagain := hfirst.trans (first.session.refresh_follows first.network)
        generalize first.session.refresh first.network = again at hagain ⊢
        split
        case h_1 => exact hagain
        case h_2 => exact hagain.trans (again.session.fetch_follows call again.network)

/-- A retrieval sends only what a session may send to ask for data. -/
theorem execute_follows (s : Session) (r : Retrieval) (n : Network) :
    (s.execute r n).Follows Asks s n := by
  rw [execute]
  split
  case isTrue => exact .idle _ rfl rfl
  case isFalse =>
    split
    case h_1 => exact .idle _ rfl rfl
    case h_2 call _ => exact (s.get_follows call n).map _

/-- A query sends only what a session may send to ask for data. -/
theorem run_follows (s : Session) (opts : QueryOptions) (text : String) (n : Network) :
    (s.run opts text n).Follows Asks s n := by
  rw [run]
  split
  case h_1 => exact .idle _ rfl rfl
  case h_2 =>
    split
    case h_1 => exact .idle _ rfl rfl
    case h_2 r _ => exact (s.execute_follows r n).map _

end Session

/-! ## Steps -/

/-- Whether a step asks for data. -/
def Step.asks : Step → Bool
  | .query .. | .search .. | .execute _ | .get _ => true
  | .login _ | .logout | .refresh | .setLimit _ | .timePasses _ => false

/-- What a step changes without the network. -/
def Step.alone : Step → Session → Session
  | .logout, s => s.logout
  | .setLimit limit, s => s.withLimit limit
  | _, s => s

namespace Session

/-- A step that asks for data. -/
theorem step_follows_asks (s : Session) (n : Network) {step : Step} (h : step.asks = true) :
    (s.step n step).Follows Asks s n := by
  cases step with
  | query opts text => exact (s.run_follows opts text n).map _
  | search opts target words => exact ((s.get_follows _ n).map _).map _
  | execute r => exact (s.execute_follows r n).map _
  | get call => exact (s.get_follows call n).map _
  | login | logout | refresh | setLimit | timePasses => cases h

/-- Any step: it goes along with its traffic, but for what it changes on its own. -/
theorem step_follows (s : Session) (n : Network) (step : Step) :
    ∃ traffic, (s.step n step).network.log = n.log ++ traffic ∧
      (s.step n step).session = step.alone (s.replay traffic) ∧ s.Orderly Issues traffic := by
  have hasks : ∀ {α : Type} {t : Turn α}, t.Follows Asks s n → t.Follows Issues s n :=
    fun h => h.mono fun _ _ => .ask
  cases step with
  | login creds => exact ((s.login_takes creds n).follows (.login creds)).map _
  | refresh => exact (hasks (s.refresh_follows n)).map _
  | logout => exact ⟨[], (List.append_nil _).symm, rfl, trivial⟩
  | setLimit limit => exact ⟨[], (List.append_nil _).symm, rfl, trivial⟩
  | timePasses now => exact ⟨[], (List.append_nil _).symm, rfl, trivial⟩
  | query opts text => exact hasks (s.step_follows_asks n rfl)
  | search opts target words => exact hasks (s.step_follows_asks n rfl)
  | execute r => exact hasks (s.step_follows_asks n rfl)
  | get call => exact hasks (s.step_follows_asks n rfl)

end Session

end FeedQuery
