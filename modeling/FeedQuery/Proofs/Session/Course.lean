import FeedQuery.Proofs.Session.Traffic

/-!
# The course of a fetch

Asking for data takes up to four requests, in this order: a refresh when the access token is about
to expire, the request for the data, a refresh when the service says that the token has expired, and
the request for the data once more (`Course`). `Course.Of` says exactly when each of them is sent
and which of them decides the result. Every fetch has such a course (`Session.exists_course`). It is
put together from the back: what follows the first refresh is a fetch of its own (`Session.ask`),
which starts with a token that is not about to expire.
-/

namespace FeedQuery

open Client (Sending)

/-- The requests of a fetch, each with what came of it, so far as they are sent. -/
structure Course where
  /-- The refresh of a token that is about to expire. -/
  renewal : Option Sending
  /-- The request for the data. -/
  first : Option Sending
  /-- The refresh of a token that the service calls expired. -/
  rescue : Option Sending
  /-- The request for the data once more. -/
  second : Option Sending

/-- The requests that are sent, in order. -/
def Course.sendings (c : Course) : List Sending :=
  c.renewal.toList ++ c.first.toList ++ c.rescue.toList ++ c.second.toList

/-- The request that decides the result: the second one for the data when the token was rescued. -/
def Course.deciding? (c : Course) : Option Sending := if c.rescue.isSome then c.second else c.first

/-- The tokens that the last answer to a request grants. -/
def Client.Sending.granted? (m : Sending) : Option AuthTokens := m.request.granted? m.last

/-- The service says that the token that the request carries has expired. -/
def Client.Sending.IsRejected (m : Sending) : Prop :=
  ∃ status message, m.result = .error (.api status SessionError.expiredToken message)

/-- An error says that the token has expired when it is one of the service with that name. -/
theorem SessionError.isExpiredToken_iff {e : SessionError} :
    e.isExpiredToken = true ↔ ∃ status message, e = .api status expiredToken message := by
  cases e <;> simp [isExpiredToken]

/-- The session holds an access token that can be read, and that has expired or is about to. -/
def Session.Expiring (s : Session) (n : Network) : Prop :=
  ∃ a ∈ s.auth, ∃ seconds ∈ AccessToken.expiry? a.access,
    seconds * 1000 - n.now < Session.refreshMargin

/-- The turn is the one that the course of a fetch comes to, before which a refresh is `due` or not.
A refresh succeeds when the last answer to it grants tokens. -/
structure Course.Of (due : Prop) (s : Session) (call : Call) (n : Network) (t : Turn Json.Value)
    (c : Course) : Prop where
  log : t.network.log = n.log ++ c.sendings.flatMap (·.traffic)
  within : ∀ m ∈ c.sendings, m.Within s.maxRetries
  /-- Refreshes are the operation of that name on the account's host. -/
  refreshes : ∀ m, m ∈ c.renewal ∨ m ∈ c.rescue → ∃ a, m.request = s.refreshRequest a
  /-- Requests for the data differ in the token that they carry only. -/
  fetches : ∀ m, m ∈ c.first ∨ m ∈ c.second → ∃ bearer,
    m.request = { s.getRequest call with bearer }
  renewal_iff : c.renewal.isSome = true ↔ due
  first_iff : c.first.isSome = true ↔ ∀ m ∈ c.renewal, m.granted?.isSome = true
  rescue_iff : c.rescue.isSome = true ↔ s.isAuthenticated = true ∧ ∃ m ∈ c.first, m.IsRejected
  second_iff : c.second.isSome = true ↔ ∃ m ∈ c.rescue, m.granted?.isSome = true
  result : ∀ m ∈ c.deciding?, t.result = m.result
  failed : c.deciding? = none → ∃ e, t.result = .error e

namespace Session

/-! ## Single requests -/

/-- The turn is the one that sending a refresh comes to. -/
structure Refreshes (s : Session) (n : Network) (t : Turn Unit) (m : Sending) : Prop where
  request : ∃ a, m.request = s.refreshRequest a
  within : m.Within s.maxRetries
  log : t.network.log = n.log ++ m.traffic
  ok_iff : t.result = .ok () ↔ m.granted?.isSome = true
  session : ∃ auth, t.session = { s with auth := some auth }

/-- The turn is the one that sending a request for data comes to. -/
structure Fetches (s : Session) (call : Call) (n : Network) (t : Turn Json.Value) (m : Sending) :
    Prop where
  request : m.request = s.getRequest call
  within : m.Within s.maxRetries
  log : t.network.log = n.log ++ m.traffic
  result : t.result = m.result
  session : t.session = s

section
variable {s : Session} {r : Request} {refused : SessionError → SessionError}
  {unreadable : SessionError}

/-- Taking tokens sends nothing. -/
theorem network_takeTokens : ∀ sent : Except SessionError Json.Value × Network,
    (s.takeTokens r refused unreadable sent).network = sent.2
  | (.error _, _) => rfl
  | (.ok answer, _) => by
    rw [takeTokens]
    split <;> rfl

/-- Tokens are taken exactly when there are any. -/
theorem takeTokens_ok_iff : ∀ sent : Except SessionError Json.Value × Network,
    (s.takeTokens r refused unreadable sent).result = .ok () ↔
      (sent.1.toOption.bind AuthTokens.ofValue?).isSome = true
  | (.error _, _) => by simp [takeTokens, Except.toOption]
  | (.ok answer, _) => by
    cases h : AuthTokens.ofValue? answer <;> simp [takeTokens, h, Except.toOption]

/-- Taking tokens leaves a session signed in, and changes nothing else. -/
theorem exists_session_takeTokens (h : s.isAuthenticated = true) :
    ∀ sent : Except SessionError Json.Value × Network,
      ∃ auth, (s.takeTokens r refused unreadable sent).session = { s with auth := some auth } := by
  obtain ⟨a, ha⟩ := Option.isSome_iff_exists.1 h
  have hsame : s = { s with auth := some a } := by rw [← ha]
  rintro ⟨_ | answer, n⟩
  · exact ⟨a, hsame⟩
  · rw [takeTokens]
    split
    · exact ⟨a, hsame⟩
    · exact ⟨_, rfl⟩

end

/-- A refresh of a session that is signed in is the sending of one request. -/
theorem exists_refreshes {s : Session} (h : s.isAuthenticated = true) (n : Network) :
    ∃ m, s.Refreshes n (s.refresh n) m := by
  obtain ⟨a, ha⟩ := Option.isSome_iff_exists.1 h
  obtain ⟨m, hrequest, hwithin, hlog, hresult⟩ :=
    Client.exists_sending s.maxRetries (s.refreshRequest a) n
  have hgranted : m.granted? = m.result.toOption.bind AuthTokens.ofValue? := by
    rw [Sending.granted?, Request.granted?, if_pos (by simp [hrequest])]
    rfl
  rw [refresh_eq ha]
  refine ⟨m, ⟨a, hrequest⟩, hwithin, ?_, ?_, exists_session_takeTokens h _⟩
  · rw [network_takeTokens, hlog]
  · rw [takeTokens_ok_iff, hresult, hgranted]

/-- A fetch is the sending of one request. -/
theorem exists_fetches (s : Session) (call : Call) (n : Network) :
    ∃ m, s.Fetches call n (s.fetch call n) m := by
  obtain ⟨m, hrequest, hwithin, hlog, hresult⟩ :=
    Client.exists_sending s.maxRetries (s.getRequest call) n
  exact ⟨m, hrequest, hwithin, hlog, hresult, rfl⟩

end Session

/-! ## One request after the other -/

/-- The turn goes on, unless it failed. -/
def Turn.andThen {α : Type} (t : Turn Unit) (next : Session → Network → Turn α) : Turn α :=
  match t.result with
  | .error e => ⟨.error e, t.session, t.network⟩
  | .ok () => next t.session t.network

namespace Session

/-- Asks for data, with refreshed tokens once more when the service says that they have expired. -/
def ask (s : Session) (call : Call) (n : Network) : Turn Json.Value :=
  let first := s.fetch call n
  match first.result with
  | .ok answer => ⟨.ok answer, first.session, first.network⟩
  | .error e =>
    if e.isExpiredToken && first.session.isAuthenticated then
      (first.session.refresh first.network).andThen fun s n => s.fetch call n
    else ⟨.error e, first.session, first.network⟩

/-- A fetch is a refresh if one is due, and then a fetch that starts with fresh tokens. -/
theorem get_eq_ask (s : Session) (call : Call) (n : Network) :
    s.get call n = (s.ensureFresh n).andThen fun s n => s.ask call n := rfl

/-- A session is stale when its token has expired or is about to. -/
theorem isStale_iff {s : Session} {n : Network} : s.isStale n = true ↔ s.Expiring n := by
  rw [isStale, expiry?, Option.any_bind, Expiring]
  simp [Option.any_eq_true]

variable {s : Session} {call : Call} {n : Network} {m : Sending}

/-- After a refresh that is granted, the turn goes on. -/
theorem Refreshes.andThen_of_granted {α : Type} {t : Turn Unit} (h : s.Refreshes n t m)
    (hm : m.granted?.isSome = true) (next : Session → Network → Turn α) :
    t.andThen next = next t.session t.network := by
  rw [Turn.andThen, h.ok_iff.2 hm]

/-- After a refresh that is refused, the turn comes to an end with an error. -/
theorem Refreshes.andThen_of_refused {α : Type} {t : Turn Unit} (h : s.Refreshes n t m)
    (hm : m.granted?.isSome = false) (next : Session → Network → Turn α) :
    ∃ e, t.andThen next = ⟨.error e, t.session, t.network⟩ := by
  rw [Turn.andThen]
  cases hresult : t.result with
  | error e => exact ⟨e, rfl⟩
  | ok => simp [h.ok_iff.1 hresult] at hm

/-- The tokens are refreshed when the service says that they have expired. -/
theorem Fetches.ask_of_rejected (h : s.Fetches call n (s.fetch call n) m) (hm : m.IsRejected)
    (ha : s.isAuthenticated = true) :
    s.ask call n = (s.refresh (s.fetch call n).network).andThen fun s n => s.fetch call n := by
  obtain ⟨status, message, hresult⟩ := hm
  rw [ask]
  simp only [h.result, h.session, hresult]
  rw [if_pos (by simp [SessionError.isExpiredToken_iff, ha])]

/-- Whatever else the service says is final, and so is anything that it says without an account. -/
theorem Fetches.ask_of_final (h : s.Fetches call n (s.fetch call n) m)
    (hm : ¬ (s.isAuthenticated = true ∧ m.IsRejected)) : s.ask call n = s.fetch call n := by
  rw [ask]
  generalize s.fetch call n = t at h ⊢
  obtain ⟨_ | _, s', n'⟩ := t
  case ok => rfl
  case error e =>
    obtain rfl : s' = s := h.session
    dsimp only
    split
    case isFalse => rfl
    case isTrue hexpired =>
      obtain ⟨he, ha⟩ := Bool.and_eq_true_iff.1 hexpired
      obtain ⟨status, message, rfl⟩ := SessionError.isExpiredToken_iff.1 he
      exact absurd ⟨ha, status, message, h.result.symm⟩ hm

/-! ## Courses -/

/-- With other tokens, the request for the data differs in what authorizes it only. -/
theorem getRequest_withAuth (h : s.isAuthenticated = true) (auth : AuthTokens) (call : Call) :
    ({ s with auth := some auth } : Session).getRequest call =
      { s.getRequest call with bearer := some auth.access } := by
  have h : s.auth.isSome = true := h
  simp [getRequest, host, isAuthenticated, h]

section
variable {m' : Sending} {t : Turn Json.Value} {again : Turn Unit}

/-- The first request for the data is all there is, unless a token is rejected. -/
theorem Fetches.course (h : s.Fetches call n t m)
    (hm : ¬ (s.isAuthenticated = true ∧ m.IsRejected)) :
    Course.Of False s call n t ⟨none, some m, none, none⟩ := by
  constructor
  case fetches => simpa [h.request] using ⟨_, rfl⟩
  all_goals simp [Course.sendings, Course.deciding?, h.log, h.within, h.result, hm]

/-- A rejected token that cannot be refreshed. -/
theorem Fetches.course_of_refused (h : s.Fetches call n t m) (hm : m.IsRejected)
    (ha : s.isAuthenticated = true) (h' : s.Refreshes t.network again m')
    (hm' : m'.granted?.isSome = false) (e : SessionError) :
    Course.Of False s call n ⟨.error e, again.session, again.network⟩
      ⟨none, some m, some m', none⟩ := by
  constructor
  case fetches => simpa [h.request] using ⟨_, rfl⟩
  case refreshes => simpa using h'.request
  all_goals simp [Course.sendings, Course.deciding?, h.log, h.within, h'.log, h'.within, hm, hm',
    ha]

/-- A rejected token that is refreshed, so that the data are requested once more. -/
theorem Fetches.course_of_granted (h : s.Fetches call n t m) (hm : m.IsRejected)
    (ha : s.isAuthenticated = true) (h' : s.Refreshes t.network again m')
    (hm' : m'.granted?.isSome = true) {second : Sending} {t' : Turn Json.Value}
    (hsecond : again.session.Fetches call again.network t' second) :
    Course.Of False s call n t' ⟨none, some m, some m', some second⟩ := by
  obtain ⟨auth, hsession⟩ := h'.session
  have hwithin : second.Within s.maxRetries := by simpa [hsession] using hsecond.within
  have hrequest := hsecond.request
  rw [hsession, getRequest_withAuth ha] at hrequest
  constructor
  case fetches =>
    rintro r (hr | hr)
    · obtain rfl : m = r := Option.some.inj hr
      exact ⟨_, h.request⟩
    · obtain rfl : second = r := Option.some.inj hr
      exact ⟨_, hrequest⟩
  case refreshes => simpa using h'.request
  all_goals simp [Course.sendings, Course.deciding?, h.log, h.within, h'.log, h'.within,
    hsecond.log, hwithin, hsecond.result, hm, hm', ha]

end

/-- A fetch that starts with fresh tokens has a course without a refresh at its start. -/
theorem exists_course_ask (s : Session) (call : Call) (n : Network) :
    ∃ c : Course, c.Of False s call n (s.ask call n) := by
  obtain ⟨first, hfirst⟩ := s.exists_fetches call n
  by_cases hrej : s.isAuthenticated = true ∧ first.IsRejected
  case neg =>
    rw [hfirst.ask_of_final hrej]
    exact ⟨_, hfirst.course hrej⟩
  case pos =>
    obtain ⟨ha, hrej⟩ := hrej
    obtain ⟨rescue, hrescue⟩ := exists_refreshes ha (s.fetch call n).network
    rw [hfirst.ask_of_rejected hrej ha]
    cases hgranted : rescue.granted?.isSome with
    | false =>
      obtain ⟨e, he⟩ := hrescue.andThen_of_refused hgranted fun s n => s.fetch call n
      rw [he]
      exact ⟨_, hfirst.course_of_refused hrej ha hrescue hgranted e⟩
    | true =>
      rw [hrescue.andThen_of_granted hgranted]
      obtain ⟨second, hsecond⟩ := exists_fetches (s.refresh (s.fetch call n).network).session call
        (s.refresh (s.fetch call n).network).network
      exact ⟨_, hfirst.course_of_granted hrej ha hrescue hgranted hsecond⟩

/-- A refresh that fails is all there is. -/
theorem Refreshes.course_of_refused {t : Turn Unit} (h : s.Refreshes n t m)
    (hm : m.granted?.isSome = false) (e : SessionError) :
    Course.Of True s call n ⟨.error e, t.session, t.network⟩ ⟨some m, none, none, none⟩ := by
  constructor
  case refreshes => simpa using h.request
  all_goals simp [Course.sendings, Course.deciding?, h.log, h.within, hm]

/-- A refresh that succeeds, and then a fetch that starts with fresh tokens. -/
theorem Refreshes.course_of_granted {t : Turn Unit} (h : s.Refreshes n t m)
    (ha : s.isAuthenticated = true) (hm : m.granted?.isSome = true) {c : Course}
    {t' : Turn Json.Value} (hc : c.Of False t.session call t.network t') :
    ({ c with renewal := some m } : Course).Of True s call n t' := by
  obtain ⟨auth, hsession⟩ := h.session
  obtain ⟨renewal, first, rescue, second⟩ := c
  obtain rfl : renewal = none := by simpa using hc.renewal_iff
  have hfetches := hc.fetches
  have hrefreshes := hc.refreshes
  have hwithin := hc.within
  have hrescue := hc.rescue_iff
  rw [hsession] at hfetches hrefreshes hwithin hrescue
  constructor
  case log => simp [hc.log, h.log, Course.sendings]
  case within => simpa [Course.sendings, h.within] using hwithin
  case refreshes =>
    rintro m' (hm' | hm')
    · obtain rfl : m = m' := Option.some.inj hm'
      exact h.request
    · exact hrefreshes m' (.inr hm')
  case fetches =>
    intro m' hm'
    obtain ⟨bearer, hbearer⟩ := hfetches m' hm'
    rw [getRequest_withAuth ha] at hbearer
    exact ⟨bearer, hbearer⟩
  case renewal_iff => simp
  case first_iff => simpa [hm] using hc.first_iff
  case rescue_iff =>
    rw [ha]
    exact hrescue
  case second_iff => exact hc.second_iff
  case result => exact hc.result
  case failed => exact hc.failed

/-- Every fetch has a course, which starts with a refresh if one is due. -/
theorem exists_course (s : Session) (call : Call) (n : Network) :
    ∃ c : Course, c.Of (s.Expiring n) s call n (s.get call n) := by
  rw [get_eq_ask, ensureFresh]
  split
  case isFalse hstale =>
    obtain ⟨c, hc⟩ := s.exists_course_ask call n
    have hfresh : s.Expiring n = False := eq_false fun h => hstale (isStale_iff.2 h)
    exact ⟨c, hfresh ▸ hc⟩
  case isTrue hstale =>
    have hexp := isStale_iff.1 hstale
    have ha : s.isAuthenticated = true := by
      obtain ⟨a, ha, -⟩ := hexp
      exact Option.isSome_iff_exists.2 ⟨a, ha⟩
    rw [eq_true hexp]
    obtain ⟨m, hm⟩ := exists_refreshes ha n
    cases hgranted : m.granted?.isSome with
    | true =>
      obtain ⟨c, hc⟩ := (s.refresh n).session.exists_course_ask call (s.refresh n).network
      rw [hm.andThen_of_granted hgranted]
      exact ⟨_, hm.course_of_granted ha hgranted hc⟩
    | false =>
      obtain ⟨e, he⟩ := hm.andThen_of_refused hgranted fun s n => s.ask call n
      rw [he]
      exact ⟨_, hm.course_of_refused hgranted e⟩

/-- A fetch sends something. -/
theorem requests_get_ne (s : Session) (call : Call) (n : Network) :
    Traffic.requests (s.get call n).network.log ≠ Traffic.requests n.log := by
  obtain ⟨c, hc⟩ := s.exists_course call n
  -- the refresh that is due, or else the request for the data
  obtain ⟨m, hm⟩ : ∃ m, m ∈ c.sendings := by
    cases hrenewal : c.renewal with
    | some m => exact ⟨m, by simp [Course.sendings, hrenewal]⟩
    | none =>
      obtain ⟨m, hfirst⟩ := Option.isSome_iff_exists.1 (hc.first_iff.2 (by simp [hrenewal]))
      exact ⟨m, by simp [Course.sendings, hfirst]⟩
  obtain ⟨more, -, hrequests⟩ := hc.within m hm
  obtain ⟨before, after, hsendings⟩ := List.append_of_mem hm
  rw [hc.log, hsendings]
  simp [hrequests]

end Session

/-! ## The number of requests -/

/-- A fetch sends four requests at most, besides repetitions. -/
theorem Course.length_sendings_le (c : Course) : c.sendings.length ≤ 4 := by
  have h {α : Type} (o : Option α) : o.toList.length ≤ 1 := by cases o <;> simp
  have h₁ := h c.renewal
  have h₂ := h c.first
  have h₃ := h c.rescue
  have h₄ := h c.second
  simp only [sendings, List.length_append]
  omega

/-- Each request is sent once and repeated within the bound. -/
theorem Client.length_requests_le {maxRetries : Nat} {ms : List Sending}
    (h : ∀ m ∈ ms, m.Within maxRetries) :
    (Traffic.requests (ms.flatMap (·.traffic))).length ≤ ms.length * (maxRetries + 1) := by
  induction ms with
  | nil => simp
  | cons m ms ih =>
    obtain ⟨⟨more, hmore, hm⟩, hms⟩ := List.forall_mem_cons.1 h
    have := ih hms
    simp only [List.flatMap_cons, Traffic.requests_append, List.length_append, hm,
      List.length_replicate, List.length_cons, Nat.succ_mul]
    omega

/-- A fetch puts no more on the log than its requests with their repetitions. -/
theorem Course.Of.length_requests_le {due : Prop} {s : Session} {call : Call} {n : Network}
    {t : Turn Json.Value} {c : Course} (h : c.Of due s call n t) :
    (Traffic.requests t.network.log).length ≤
      (Traffic.requests n.log).length + c.sendings.length * (s.maxRetries + 1) := by
  rw [h.log, Traffic.requests_append, List.length_append]
  exact Nat.add_le_add_left (Client.length_requests_le h.within) _

/-! ## Steps -/

/-- The retrievals that are about the account itself. -/
inductive Retrieval.NeedsAccount : Retrieval → Prop where
  | timeline : NeedsAccount .timeline
  | suggestions : NeedsAccount .suggestions
  | actorLikes (actor : String) : NeedsAccount (.actorLikes actor)
  | mutualFollowers (actor : String) : NeedsAccount (.mutualFollowers actor)
  | ownProfile : NeedsAccount (.profile none)

/-- The retrievals about the account itself are those that require it, and the profile without an
actor. -/
theorem Retrieval.needsAccount_iff {r : Retrieval} :
    r.NeedsAccount ↔ r.requiresAuth = true ∨ r = .profile none := by
  constructor
  · rintro ⟨⟩ <;> simp [requiresAuth]
  · rintro (h | rfl)
    · cases r with
      | timeline => exact .timeline
      | suggestions => exact .suggestions
      | actorLikes actor => exact .actorLikes actor
      | mutualFollowers actor => exact .mutualFollowers actor
      | authorFeed | feed | actorFeeds | suggestedFeeds | profile | followers | follows => cases h
    · exact .ownProfile

/-- A change of the result sends nothing. -/
theorem Turn.network_map {α β : Type} (f : α → β) (t : Turn α) : (t.map f).network = t.network :=
  rfl

/-- Two changes of the result are one. -/
theorem Turn.map_map {α β γ : Type} (f : α → β) (g : β → γ) (t : Turn α) :
    (t.map f).map g = t.map (g ∘ f) := by
  obtain ⟨_ | _, s, n⟩ := t <;> rfl

namespace Session

/-- Only the profile without an actor has no call, in a session that is not signed in. -/
theorem callFor?_eq_none_iff {s : Session} {r : Retrieval} :
    s.callFor? r = none ↔ r = .profile none ∧ s.auth = none := by
  cases r with
  | profile actor => cases actor <;> simp [callFor?, handle?]
  | timeline | authorFeed | feed | actorFeeds | suggestedFeeds | suggestions | actorLikes
  | followers | follows | mutualFollowers => simp [callFor?]

/-- Nothing is asked for without an account when that is about the account. -/
theorem execute_of_needsAccount {s : Session} {r : Retrieval} (hr : r.NeedsAccount)
    (hs : s.auth = none) (n : Network) : s.execute r n = ⟨.ok .stealth, s, n⟩ := by
  cases hr <;>
    simp [execute, callFor?, Retrieval.requiresAuth, isAuthenticated, handle?, hs]

/-- Anything else is fetched. -/
theorem exists_execute_eq {s : Session} {r : Retrieval} (h : s.auth = none → ¬ r.NeedsAccount)
    (n : Network) : ∃ call, s.execute r n = (s.get call n).map .answer := by
  rw [execute, if_neg]
  · split
    case h_1 hcall =>
      obtain ⟨rfl, hs⟩ := callFor?_eq_none_iff.1 hcall
      exact absurd .ownProfile (h hs)
    case h_2 call _ => exact ⟨call, rfl⟩
  · intro hrefused
    obtain ⟨hr, hs⟩ := Bool.and_eq_true_iff.1 hrefused
    have hs : s.auth = none := by simpa [isAuthenticated] using hs
    exact h hs (Retrieval.needsAccount_iff.2 (.inl hr))

/-- A retrieval sends nothing, or it is a fetch. -/
theorem map_execute_eq (s : Session) (r : Retrieval) (n : Network) {α : Type} (f : Fetched → α) :
    ((s.execute r n).map f).network = n ∨
      ∃ call g, (s.execute r n).map f = (s.get call n).map g := by
  by_cases h : s.auth = none ∧ r.NeedsAccount
  · exact .inl (by rw [execute_of_needsAccount h.2 h.1]; rfl)
  · obtain ⟨call, hcall⟩ := exists_execute_eq (not_and.1 h) n
    exact .inr ⟨call, _, by rw [hcall, Turn.map_map]⟩

/-- A step that asks for data is a fetch, unless it changes nothing. -/
theorem step_eq_get (s : Session) (n : Network) {step : Step} (h : step.asks = true) :
    (s.step n step).network = n ∨ ∃ call f, s.step n step = (s.get call n).map f := by
  cases step with
  | query opts text =>
    rw [step, run]
    split
    case h_1 => exact .inl rfl
    case h_2 =>
      split
      case h_1 => exact .inl rfl
      case h_2 r _ =>
        rw [Turn.map_map]
        exact s.map_execute_eq r n _
  | search opts target words => exact .inr ⟨_, _, Turn.map_map ..⟩
  | execute r => exact s.map_execute_eq r n _
  | get call => exact .inr ⟨call, _, rfl⟩
  | login | logout | refresh | setLimit | timePasses => cases h

/-- **Requests are bounded and come in order.** Every fetch has a course. A step that asks for data
and puts anything on the log is a fetch, and no such step sends more than four requests with their
repetitions. -/
theorem step_bounded (s : Session) (n : Network) :
    (∀ call, ∃ c : Course, c.Of (s.Expiring n) s call n (s.get call n)) ∧
    (∀ step : Step, step.asks = true → (s.step n step).network.log ≠ n.log →
      ∃ call f, s.step n step = (s.get call n).map f) ∧
    ∀ step : Step, step.asks = true → (Traffic.requests (s.step n step).network.log).length ≤
      (Traffic.requests n.log).length + 4 * (s.maxRetries + 1) := by
  refine ⟨fun call => s.exists_course call n, fun step hstep hlog => ?_, fun step hstep => ?_⟩
  · obtain hidle | hget := s.step_eq_get n hstep
    · exact absurd (congrArg Network.log hidle) hlog
    · exact hget
  · obtain hidle | ⟨call, f, hget⟩ := s.step_eq_get n hstep
    · rw [hidle]
      exact Nat.le_add_right ..
    · obtain ⟨c, hc⟩ := s.exists_course call n
      rw [hget]
      have hfour := Nat.mul_le_mul_right (s.maxRetries + 1) c.length_sendings_le
      exact Nat.le_trans hc.length_requests_le (Nat.add_le_add_left hfour _)

/-- A fetch sends all four requests, and no more, when each token that it gets has expired. -/
theorem step_bounded_rejected_twice :
    let s : Session :=
      ⟨"http://a", "http://b", 25, 0, some ⟨"h.eyJleHAiOjB9.s", "key", "did:1", "alice"⟩⟩
    let granting : Answer := .response 200 none "[\"h.eyJleHAiOjB9.s\",\"key\",\"did:1\"]"
    let rejecting : Answer := .response 400 none "[\"ExpiredToken\",\"\"]"
    let n : Network := ⟨[granting, rejecting, granting, rejecting, granting], .dropped, 0, []⟩
    ∃ call c, Course.Of (s.Expiring n) s call n (s.get call n) c ∧ c.sendings.length = 4 := by
  intro s granting rejecting n
  have hcount : (Traffic.requests (s.step n (.execute .timeline)).network.log).length = 4 := by
    decide +kernel
  have hlog : (s.step n (.execute .timeline)).network.log ≠ n.log := by
    intro h
    rw [h] at hcount
    exact absurd hcount (by decide)
  obtain ⟨call, f, hget⟩ := (s.step_bounded n).2.1 (.execute .timeline) rfl hlog
  obtain ⟨c, hc⟩ := (s.step_bounded n).1 call
  have hfew := hc.length_requests_le
  rw [← Turn.network_map f, ← hget, hcount] at hfew
  have hmost := c.length_sendings_le
  have hfour : 4 ≤ 0 + c.sendings.length * (0 + 1) := hfew
  exact ⟨call, c, hc, by omega⟩

end Session

end FeedQuery
