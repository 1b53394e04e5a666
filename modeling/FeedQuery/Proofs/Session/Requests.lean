import FeedQuery.Proofs.Compiled
import FeedQuery.Proofs.Session.Course

/-!
# What requests ask for

The requests of a fetch are known from its call (`Request.Serves`), and they ask for pages of the
size of the session (`Request.Pages`).
-/

namespace FeedQuery

/-!
## Requests for a call

A fetch sends requests for the data, with the parameters of its call that are not empty, and
requests for tokens, which have no parameters (`Request.Serves`). So what a step sends is known from
the call alone, whatever the answers: `Network.GoesOn` says that a property holds of all requests
between two states of the network.
-/

/-- The network goes from one state to another by requests that have the property. -/
def Network.GoesOn (p : Request → Prop) (n n' : Network) : Prop :=
  ∃ traffic, n'.log = n.log ++ traffic ∧ ∀ r ∈ Traffic.requests traffic, p r

namespace Network.GoesOn

variable {p q : Request → Prop} {n n' n'' : Network}

/-- Nothing has been sent. -/
theorem idle (h : n'.log = n.log) : n.GoesOn p n' :=
  ⟨[], by rw [h, List.append_nil], List.forall_mem_nil _⟩

/-- What holds of the requests on two ways holds on both, one after the other. -/
theorem trans (h : n.GoesOn p n') (h' : n'.GoesOn p n'') : n.GoesOn p n'' := by
  obtain ⟨ts, hlog, hp⟩ := h
  obtain ⟨us, hlog', hp'⟩ := h'
  refine ⟨ts ++ us, by rw [hlog', hlog, List.append_assoc], ?_⟩
  rw [Traffic.requests_append]
  exact List.forall_mem_append.2 ⟨hp, hp'⟩

/-- What follows from the property of the requests holds of them too. -/
theorem mono (h : n.GoesOn p n') (hpq : ∀ r, p r → q r) : n.GoesOn q n' := by
  obtain ⟨traffic, hlog, hp⟩ := h
  exact ⟨traffic, hlog, fun r hr => hpq r (hp r hr)⟩

/-- On a network on which nothing has happened before, these are all requests. -/
theorem forall_requests (h : n.GoesOn p n') (hn : n.log = []) :
    ∀ r ∈ Traffic.requests n'.log, p r := by
  obtain ⟨traffic, hlog, hp⟩ := h
  rwa [hlog, hn, List.nil_append]

end Network.GoesOn

/-- The request is sent for the call: it asks for the data, with the parameters that are not empty,
or for tokens, without parameters. -/
inductive Request.Serves (call : Call) (r : Request) : Prop
  | get : r.verb = .get → r.operation = call.operation →
      r.params = Request.sentParams call.params → Serves call r
  | post : r.verb = .post → r.params = [] → Serves call r

/-- Whatever comes of a request, it is the only one on the log. -/
theorem Client.Sends.eq_of_mem_requests {r q : Request} {traffic : List Traffic} {last : Answer}
    (h : Sends r traffic last) (hq : q ∈ Traffic.requests traffic) : q = r := by
  induction h with
  | final => simpa using hq
  | again _ _ ih =>
    obtain rfl | hq := List.mem_cons.1 hq
    · rfl
    · exact ih hq

namespace Session

/-- A fetch sends what its call needs. -/
theorem get_goesOn (s : Session) (call : Call) (n : Network) :
    n.GoesOn (Request.Serves call) (s.get call n).network := by
  obtain ⟨c, hc⟩ := s.exists_course call n
  refine ⟨_, hc.log, fun r hr => ?_⟩
  obtain ⟨t, ht, hrequest⟩ := List.mem_filterMap.1 hr
  obtain ⟨m, hm, htm⟩ := List.mem_flatMap.1 ht
  obtain rfl := m.sends.eq_of_mem_requests (List.mem_filterMap.2 ⟨t, htm, hrequest⟩)
  have hcases : m ∈ c.renewal ∨ m ∈ c.first ∨ m ∈ c.rescue ∨ m ∈ c.second := by
    simpa [Course.sendings] using hm
  obtain hm | hm | hm | hm := hcases
  · obtain ⟨a, ha⟩ := hc.refreshes m (.inl hm)
    exact ha ▸ .post rfl rfl
  · obtain ⟨bearer, hb⟩ := hc.fetches m (.inl hm)
    exact hb ▸ .get rfl rfl rfl
  · obtain ⟨a, ha⟩ := hc.refreshes m (.inr hm)
    exact ha ▸ .post rfl rfl
  · obtain ⟨bearer, hb⟩ := hc.fetches m (.inr hm)
    exact hb ▸ .get rfl rfl rfl

/-- The data are requested when no refresh is due before. -/
theorem exists_fetch_mem_requests (s : Session) (call : Call) :
    ∃ n : Network, n.log = [] ∧ ∃ q ∈ Traffic.requests (s.get call n).network.log,
      q.verb = .get ∧ q.params = Request.sentParams call.params := by
  -- a time early enough for the access token
  let n := Network.offline (s.expiry?.getD 0 * 1000 - refreshMargin)
  obtain ⟨c, hc⟩ := s.exists_course call n
  have hfresh : ¬ s.Expiring n := by
    rintro ⟨a, ha, seconds, hseconds, hlate⟩
    have hexpiry : s.expiry? = some seconds := by
      rw [expiry?, Option.mem_def.1 ha]
      exact hseconds
    simp only [n, Network.offline, hexpiry, Option.getD_some] at hlate
    omega
  have hrenewal : c.renewal = none := by simpa [hfresh] using hc.renewal_iff
  obtain ⟨m, hm⟩ := Option.isSome_iff_exists.1 (hc.first_iff.2 (by simp [hrenewal]))
  have hsending : m ∈ c.sendings := by simp [Course.sendings, hm]
  obtain ⟨more, -, hrequests⟩ := hc.within m hsending
  obtain ⟨bearer, hrequest⟩ := hc.fetches m (.inl hm)
  refine ⟨n, rfl, m.request, ?_, by rw [hrequest]; rfl, by rw [hrequest]; rfl⟩
  obtain ⟨before, after, hsendings⟩ := List.append_of_mem hsending
  rw [hc.log, hsendings]
  simp [hrequests]

/-- Executing a retrieval sends what its call needs. -/
theorem execute_goesOn (s : Session) (r : Retrieval) (n : Network) :
    n.GoesOn (fun q => ∃ call, s.callFor? r = some call ∧ q.Serves call)
      (s.execute r n).network := by
  rw [execute]
  split
  case isTrue => exact .idle rfl
  case isFalse =>
    split
    case h_1 => exact .idle rfl
    case h_2 call hcall =>
      exact (s.get_goesOn call n).mono fun q hq => ⟨call, hcall, hq⟩

/-- What a query is read as does not depend on whether mistakes are let pass. -/
theorem eq_of_compile_eq_ok {opts : QueryOptions} {text : String} {c c' : Compiled}
    (h : Compiled.ofText text = .ok c) (h' : compile opts text = .ok c') : c' = c := by
  rw [compile] at h'
  split at h'
  case isTrue => exact ((Compiled.strict_eq_ok_iff h c').1 h').1
  case isFalse => exact Except.ok.inj (h'.symm.trans h)

/-- Running a query sends what the call of its plan needs. -/
theorem run_goesOn {text : String} {c : Compiled} (hc : Compiled.ofText text = .ok c) (s : Session)
    (opts : QueryOptions) (n : Network) :
    n.GoesOn (fun q => ∃ r call, c.query.plan = some r ∧ s.callFor? r = some call ∧
      q.Serves call) (s.run opts text n).network := by
  rw [run]
  split
  case h_1 => exact .idle rfl
  case h_2 c' hc' =>
    obtain rfl := eq_of_compile_eq_ok hc hc'
    split
    case h_1 => exact .idle rfl
    case h_2 r hr =>
      refine (s.execute_goesOn r n).mono ?_
      rintro q ⟨call, hcall, hq⟩
      exact ⟨r, call, hr, hcall, hq⟩

end Session

/-!
## Page sizes

A session asks for pages of its own size: `Request.Pages` says of a request that it asks for no
other. Asking for data keeps the size, and so do signing in and refreshing, which send no
parameters at all.
-/

/-- The request asks for pages of that size, if it asks for pages. -/
def Request.Pages (limit : Nat) (r : Request) : Prop :=
  ∀ value, ("limit", value) ∈ r.params → value = toString limit

/-- A request without parameters asks for no pages. -/
theorem Request.pages_of_params_eq_nil {r : Request} (h : r.params = []) (limit : Nat) :
    r.Pages limit := by
  intro value hvalue
  rw [h] at hvalue
  cases hvalue

/-- What is sent for a call asks for the pages that the call asks for. -/
theorem Request.Serves.pages {call : Call} {r : Request} (h : r.Serves call) {limit : Nat}
    (hcall : ∀ value, ("limit", value) ∈ call.params → value = toString limit) :
    r.Pages limit := by
  cases h with
  | get _ _ hparams =>
    intro value hvalue
    rw [hparams] at hvalue
    exact hcall value (List.mem_filter.1 hvalue).1
  | post _ hparams => exact pages_of_params_eq_nil hparams limit

namespace Session

/-! ### What keeps the size -/

/-- Traffic does not change the size of a page. -/
theorem limit_replay (s : Session) (traffic : List Traffic) :
    (s.replay traffic).limit = s.limit := by
  induction traffic generalizing s with
  | nil => rfl
  | cons t ts ih =>
    obtain ⟨auth, hauth⟩ := s.exists_after_eq t
    rw [replay_cons, ih, hauth]

end Session

/-- Traffic keeps the size of pages. -/
theorem Turn.Follows.limit_eq {α : Type} {may : Session → Request → Prop} {s : Session}
    {n : Network} {t : Turn α} (h : t.Follows may s n) : t.session.limit = s.limit := by
  obtain ⟨traffic, -, hsession, -⟩ := h
  rw [hsession, s.limit_replay]

namespace Session

/-! ### What is sent -/

/-- The call for a retrieval asks for pages of the session's size. -/
theorem callFor?_pages {s : Session} {r : Retrieval} {call : Call}
    (hcall : s.callFor? r = some call) :
    ∀ value, ("limit", value) ∈ call.params → value = toString s.limit := by
  cases r with
  | profile actor =>
    cases actor with
    | none =>
      obtain ⟨name, -, rfl⟩ := Option.map_eq_some_iff.1 hcall
      simp [Call.profile]
    | some actor =>
      cases hcall
      simp [Call.profile]
  | timeline | suggestedFeeds | suggestions =>
    cases hcall
    simp [Call.timeline, Call.suggestedFeeds, Call.suggestions, Page.params, page, Page.first]
  | feed | authorFeed | actorFeeds | actorLikes | followers | follows | mutualFollowers =>
    cases hcall
    simp [Call.feed, Call.authorFeed, Call.actorFeeds, Call.actorLikes, Call.followers,
      Call.follows, Call.mutualFollowers, Page.params, page, Page.first]

/-- A search asks for pages of the size of the session. -/
theorem search_call_pages (s : Session) (target : SearchTarget) (words : String) :
    ∀ value, ("limit", value) ∈ (target.call words s.page).params →
      value = toString s.limit := by
  cases target <;>
    simp [SearchTarget.call, Call.searchPosts, Call.searchActors, PostSearch.params, Page.params,
      page, Page.first]

/-- A query asks for pages of the size of the session. -/
theorem run_pages (s : Session) (opts : QueryOptions) (text : String) (n : Network) :
    n.GoesOn (Request.Pages s.limit) (s.run opts text n).network := by
  obtain ⟨c, hc⟩ := Compiled.exists_ofText text
  refine (run_goesOn hc s opts n).mono ?_
  rintro q ⟨r, call, -, hcall, hq⟩
  exact hq.pages (callFor?_pages hcall)

/-- The requests of a search ask for pages of the size of the session. -/
theorem search_pages (s : Session) (opts : QueryOptions) (target : SearchTarget) (words : String)
    (n : Network) : n.GoesOn (Request.Pages s.limit) (s.search opts target words n).network :=
  (s.get_goesOn _ n).mono fun _ hq => hq.pages (s.search_call_pages target words)

/-- The preferences are not asked for in pages. -/
theorem preferences_pages (s : Session) (n : Network) :
    n.GoesOn (Request.Pages s.limit) (s.get .preferences n).network :=
  (s.get_goesOn _ n).mono fun _ hq => hq.pages fun _ => nofun

/-- Signing in sends no parameters. -/
theorem login_goesOn (s : Session) (creds : Credentials) (n : Network) :
    n.GoesOn (fun q => q.params = []) (s.login creds n).network := by
  obtain ⟨traffic, last, hsends, hlog, -⟩ := s.login_takes creds n
  refine ⟨traffic, hlog, fun q hq => ?_⟩
  rw [hsends.eq_of_mem_requests hq]
  rfl

/-- Signing in does not change the size of a page. -/
theorem limit_login (s : Session) (creds : Credentials) (n : Network) :
    (s.login creds n).session.limit = s.limit :=
  ((s.login_takes creds n).follows (Issues.login creds)).limit_eq

end Session

end FeedQuery
