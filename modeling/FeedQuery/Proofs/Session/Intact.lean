import FeedQuery.Proofs.Session.Traffic

/-!
# What steps leave of a session

A failed attempt to sign in or to refresh changes nothing. A step that asks for data changes nothing
but the tokens: they are those of the last refresh that was accepted on the way, or else those from
before, and the name of the account outlives a refresh that has none (`Session.Renewed`). This holds
wherever the step fails, since it holds along any traffic of such a step
(`Session.Orderly.renewed`). No step but signing out takes the tokens away, and no run without it
(`Session.steps_authenticated`).
-/

namespace FeedQuery

namespace AuthTokens

/-- The name of the account as it stands in an answer, if it is there. -/
def nameIn? : Json.Value → Option Json.Value
  | .obj members => Json.Members.get? members "handle"
  | .arr values => values[3]?
  | _ => none

/-- The name of the account is missing in the answer or empty. -/
def Nameless (answer : Json.Value) : Prop := ∀ name ∈ nameIn? answer, name = .str ""

/-- What is read from an answer without a name has an empty one. -/
theorem handle_of_nameless {answer : Json.Value} {tokens : AuthTokens}
    (h : ofValue? answer = some tokens) (hname : Nameless answer) : tokens.handle = "" := by
  unfold ofValue? at h
  split at h
  case h_1 members =>
    simp only [Option.bind_eq_bind, Option.bind_eq_some_iff] at h
    obtain ⟨access, -, refresh, -, did, -, handle, hhandle, htokens⟩ := h
    cases htokens
    cases hmember : Json.Members.get? members "handle" with
    | none => simpa [handleIn?, Json.Value.get?, hmember] using hhandle.symm
    | some name =>
      obtain rfl := hname name hmember
      simpa [handleIn?, Json.Value.get?, hmember, Json.Value.str?] using hhandle.symm
  case h_2 =>
    cases h
    rfl
  case h_3 handle =>
    cases h
    simpa using hname (.str handle) rfl
  case h_4 => cases h

end AuthTokens

/-- The tokens that an accepted refresh brings. -/
def Traffic.renewal? : Traffic → Option AuthTokens
  | .exchange r answer => if r.renews then r.granted? answer else none
  | .pause _ => none

namespace Session

/-- The tokens of the accepted refreshes, in order. -/
def renewals (traffic : List Traffic) : List AuthTokens := traffic.filterMap Traffic.renewal?

/-- The names that the accepted refreshes bring, in order. -/
def names (traffic : List Traffic) : List String :=
  (renewals traffic).filterMap fun fresh => if fresh.handle = "" then none else some fresh.handle

/-- The session is the one from before, with the tokens of the last accepted refresh and the last
name that one brought, where there are any. -/
structure Renewed (s : Session) (traffic : List Traffic) (s' : Session) : Prop where
  service : s'.service = s.service
  authService : s'.authService = s.authService
  limit : s'.limit = s.limit
  maxRetries : s'.maxRetries = s.maxRetries
  tokens : s'.auth.map (·.unnamed) = ((renewals traffic).getLast?.or s.auth).map (·.unnamed)
  handle : s'.handle? = (names traffic).getLast?.or s.handle?

/-- Without traffic the session is the one from before. -/
theorem Renewed.refl (s : Session) : s.Renewed [] s := ⟨rfl, rfl, rfl, rfl, rfl, rfl⟩

/-- After more traffic, the last refresh of all counts. -/
theorem Renewed.trans {s s' s'' : Session} {ts us : List Traffic} (h : s.Renewed ts s')
    (h' : s'.Renewed us s'') : s.Renewed (ts ++ us) s'' where
  service := h'.service.trans h.service
  authService := h'.authService.trans h.authService
  limit := h'.limit.trans h.limit
  maxRetries := h'.maxRetries.trans h.maxRetries
  tokens := by
    rw [h'.tokens, Option.map_or, h.tokens, ← Option.map_or, ← Option.or_assoc]
    simp [renewals, List.getLast?_append]
  handle := by
    rw [h'.handle, h.handle, ← Option.or_assoc]
    simp [names, renewals, List.getLast?_append]

/-- What one piece of traffic does to a session that asks for data. -/
theorem Renewed.after {s : Session} {t : Traffic} (h : ∀ r ∈ t.request?, s.Asks r) :
    s.Renewed [t] (s.after t) := by
  cases t with
  | pause => exact ⟨rfl, rfl, rfl, rfl, rfl, rfl⟩
  | exchange r answer =>
    cases h r rfl with
    | get call =>
      rw [s.after_of_granted?_none (by simp [Request.granted?])]
      constructor <;> simp [renewals, names, Traffic.renewal?]
    | @refresh a ha =>
      cases hgranted : (s.refreshRequest a).granted? answer with
      | none =>
        rw [s.after_of_granted?_none hgranted]
        constructor <;> simp [renewals, names, Traffic.renewal?, hgranted]
      | some fresh =>
        rw [s.after_of_granted?_some hgranted]
        -- the name of the session is the new one or the old one
        by_cases hname : fresh.handle = "" <;> constructor <;>
          simp [renewals, names, Traffic.renewal?, granted, handle?, AuthTokens.unnamed, ha,
            hgranted, hname]

/-- What the traffic of a session that asks for data does to it. -/
theorem Orderly.renewed {s : Session} {traffic : List Traffic} (h : s.Orderly Asks traffic) :
    s.Renewed traffic (s.replay traffic) := by
  induction traffic generalizing s with
  | nil => exact .refl s
  | cons t ts ih => exact (Renewed.after h.1).trans (ih h.2)

/-- Whatever the answer, a refresh without a name keeps the name. -/
theorem handle?_refresh {s : Session} {a : AuthTokens} {n : Network} {answer : Json.Value}
    (ha : s.auth = some a)
    (hanswer : (Client.send s.maxRetries (s.refreshRequest a) n).1 = .ok answer)
    (hname : AuthTokens.Nameless answer) : (s.refresh n).session.handle? = s.handle? := by
  obtain ⟨traffic, last, -, -, hresult, hsession, -⟩ := refresh_takes ha n
  have hgranted : (s.refreshRequest a).granted? last = AuthTokens.ofValue? answer :=
    Request.granted?_of_ok (by simp) (hresult.symm.trans hanswer)
  rw [hsession]
  cases htokens : AuthTokens.ofValue? answer with
  | none => rw [s.after_of_granted?_none (hgranted.trans htokens)]
  | some fresh =>
    have hempty := AuthTokens.handle_of_nameless htokens hname
    rw [s.after_of_granted?_some (hgranted.trans htokens), granted_refreshRequest ha]
    simp [handle?, ha, hempty]

/-! ## Who is signed in -/

/-- A session that is signed in stays so after any traffic. -/
theorem isAuthenticated_after {s : Session} (h : s.isAuthenticated = true) (t : Traffic) :
    (s.after t).isAuthenticated = true := by
  unfold after
  split
  case h_1 =>
    split
    case h_1 => exact h
    case h_2 => rfl
  case h_2 => exact h

/-- A session that is signed in stays so after more traffic. -/
theorem isAuthenticated_replay {s : Session} (h : s.isAuthenticated = true)
    (traffic : List Traffic) : (s.replay traffic).isAuthenticated = true := by
  induction traffic generalizing s with
  | nil => exact h
  | cons t ts ih => exact ih (isAuthenticated_after h t)

/-- No step but signing out takes the tokens away. -/
theorem step_authenticated {s : Session} (h : s.isAuthenticated = true) (n : Network)
    {step : Step} (hstep : step ≠ .logout) : (s.step n step).session.isAuthenticated = true := by
  obtain ⟨traffic, -, hsession, -⟩ := s.step_follows n step
  have hreplay := isAuthenticated_replay h traffic
  rw [hsession]
  cases step with
  | logout => exact absurd rfl hstep
  | setLimit | login | refresh | timePasses | query | search | execute | get => exact hreplay

/-- In a run without signing out, whoever is signed in stays so. -/
theorem steps_authenticated {s : Session} (h : s.isAuthenticated = true) (n : Network)
    {steps : List Step} (hsteps : .logout ∉ steps) :
    ∀ turn ∈ s.steps n steps, turn.session.isAuthenticated = true := by
  induction steps generalizing s n with
  | nil => exact List.forall_mem_nil _
  | cons step rest ih =>
    rw [List.mem_cons, not_or] at hsteps
    have hfirst := step_authenticated h n (Ne.symm hsteps.1)
    exact List.forall_mem_cons.2 ⟨hfirst, ih hfirst _ hsteps.2⟩

/-! ## Steps that fail, and steps that do not -/

/-- **Steps leave a session intact.** Signing in or refreshing without success changes nothing. A
step that asks for data changes nothing but the tokens, which are those of the last refresh that was
accepted meanwhile, if there was one. Only signing out takes them away. A refresh without a name
keeps the one known before. -/
theorem step_intact (s : Session) (n : Network) :
    (∀ creds e, (s.login creds n).result = .error e → (s.login creds n).session = s) ∧
    (∀ e, (s.refresh n).result = .error e → (s.refresh n).session = s) ∧
    (∀ step : Step, step.asks = true → ∃ traffic,
      (s.step n step).network.log = n.log ++ traffic ∧ s.Renewed traffic (s.step n step).session) ∧
    (∀ step, step ≠ .logout → s.isAuthenticated = true →
      (s.step n step).session.isAuthenticated = true) ∧
    (∀ a answer, s.auth = some a →
      (Client.send s.maxRetries (s.refreshRequest a) n).1 = .ok answer →
      AuthTokens.Nameless answer → (s.refresh n).session.handle? = s.handle?) := by
  refine ⟨fun creds e he => (s.login_takes creds n).intact he, fun e he => ?_, fun step hstep => ?_,
    fun step hstep h => step_authenticated h n hstep,
    fun a answer ha hanswer hname => handle?_refresh ha hanswer hname⟩
  · cases h : s.auth with
    | none => rw [refresh_of_anonymous h]
    | some a => exact (refresh_takes h n).intact he
  · obtain ⟨traffic, hlog, hsession, horderly⟩ := s.step_follows_asks n hstep
    exact ⟨traffic, hlog, hsession ▸ horderly.renewed⟩

/-- A refresh whose answer has no name replaces the tokens and keeps the name. -/
theorem step_intact_nameless :
    let s : Session := ⟨"http://a.b", "http://c.d", 25, 0, some ⟨"old", "old", "did:1", "alice"⟩⟩
    let body := "\x7b\"accessJwt\":\"new\",\"refreshJwt\":\"renew\",\"did\":\"did:1\"\x7d"
    let n : Network := ⟨[.response 200 none body], .unreachable, 0, []⟩
    (s.refresh n).session.auth.map (·.unnamed) = some ⟨"new", "renew", "did:1", ""⟩ ∧
      (s.refresh n).session.handle? = some "alice" := by
  intro s body n
  have hnameless : ((Client.send s.maxRetries (s.refreshRequest ⟨"old", "old", "did:1", "alice"⟩)
      n).1.toOption.map fun answer => (AuthTokens.nameIn? answer).isNone) = some true := by
    decide +kernel
  obtain ⟨answer, hanswer, hname⟩ := Option.map_eq_some_iff.1 hnameless
  refine ⟨by decide +kernel, (s.step_intact n).2.2.2.2 _ answer rfl ?_ ?_⟩
  · cases hsent : (Client.send s.maxRetries (s.refreshRequest _) n).1 with
    | error e => rw [hsent] at hanswer; cases hanswer
    | ok sent => rw [hsent] at hanswer; cases hanswer; rfl
  · intro name hmem
    rw [Option.mem_def.1 hmem] at hname
    cases hname

end Session

end FeedQuery
