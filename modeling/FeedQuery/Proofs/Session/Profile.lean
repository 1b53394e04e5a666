import FeedQuery.Proofs.Session.History
import FeedQuery.Proofs.Session.Requests

/-!
# The profile of the account

The account's own profile is asked for by the name of the account. A session may have no name for
its account: an answer that signs in may leave it out, and unlike a refresh, which then keeps the
name known before, signing in takes it as empty (`Deed.Nameless`). An empty parameter is not sent,
so nobody's profile is asked for; in any other case the request names the account
(`Session.ownProfile_named_iff`).
-/

namespace FeedQuery

namespace Deed

/-- The tokens that signing in grants. -/
def signIn? : Deed → Option AuthTokens
  | .traffic (.exchange r answer) => if r.signsIn then r.granted? answer else none
  | .traffic (.pause _) | .logout => none

/-- Signing in has been granted without a name, and since then the account has neither been signed
out nor been given a name. -/
def Nameless (deeds : List Deed) : Prop :=
  ∃ before d after fresh, deeds = before ++ d :: after ∧ d.signIn? = some fresh ∧
    fresh.handle = "" ∧ ∀ d' ∈ after, d' ≠ .logout ∧ ∀ later ∈ d'.granted?, later.handle = ""

/-- One deed more: it signs in without a name, or it leaves the account without one. -/
theorem nameless_concat {deeds : List Deed} {d : Deed} :
    Nameless (deeds ++ [d]) ↔ (∃ fresh ∈ d.signIn?, fresh.handle = "") ∨
      Nameless deeds ∧ d ≠ .logout ∧ ∀ later ∈ d.granted?, later.handle = "" := by
  constructor
  · rintro ⟨before, d', after, fresh, heq, hsign, hname, hafter⟩
    obtain ⟨rfl, rfl, -⟩ | ⟨after, rfl, rfl⟩ := concat_eq_append_cons heq
    · exact .inl ⟨fresh, hsign, hname⟩
    · have ⟨hbefore, hd⟩ := List.forall_mem_append.1 hafter
      exact .inr ⟨⟨before, d', after, fresh, rfl, hsign, hname, hbefore⟩, hd d (.head _)⟩
  · rintro (⟨fresh, hsign, hname⟩ | ⟨⟨before, d', after, fresh, rfl, hsign, hname, hafter⟩, hd⟩)
    · exact ⟨deeds, d, [], fresh, rfl, hsign, hname, List.forall_mem_nil _⟩
    · refine ⟨before, d', after ++ [d], fresh, by simp, hsign, hname, ?_⟩
      exact List.forall_mem_append.2 ⟨hafter, List.forall_mem_singleton.2 hd⟩

/-- Whatever grants no tokens leaves the account as it is. -/
theorem nameless_traffic_of_none {deeds : List Deed} {t : Traffic}
    (h : granted? (.traffic t) = none) : Nameless (deeds ++ [.traffic t]) ↔ Nameless deeds := by
  have hsign : signIn? (.traffic t) = none := by
    cases t with
    | pause => rfl
    | exchange r answer =>
      rw [signIn?, ite_eq_right_iff]
      exact fun _ => h
  simp [nameless_concat, hsign, h]

end Deed

namespace Session

open Deed (Nameless)

variable {s : Session} {deeds : List Deed}

/-- Traffic that grants no tokens leaves the session as it is. -/
theorem after_of_deed_none {t : Traffic} (h : Deed.granted? (.traffic t) = none) :
    s.after t = s := by
  cases t with
  | pause => rfl
  | exchange r answer => exact s.after_of_granted?_none h

/-- The name of the account is empty exactly when the history has none. -/
theorem nameless_invariant :
    Invariant fun deeds s => s.handle? = some "" ↔ Nameless deeds where
  logout := fun _ => by simp [handle?, logout, Deed.nameless_concat, Deed.signIn?]
  withLimit := fun h _ => h
  traffic := by
    intro deeds s t h ht
    cases hgranted : Deed.granted? (.traffic t) with
    | none => rw [after_of_deed_none hgranted, Deed.nameless_traffic_of_none hgranted, h]
    | some fresh =>
      rw [Deed.nameless_concat, hgranted]
      cases t with
      | pause => cases hgranted
      | exchange r answer =>
        have hr : r.granted? answer = some fresh := hgranted
        rw [s.after_of_granted?_some hr]
        cases ht r rfl with
        | login creds =>
          rw [granted_loginRequest]
          simp [handle?, Deed.signIn?, hr]
        | ask hasks =>
          cases hasks with
          | get call => simp [Request.granted?] at hr
          | @refresh a ha =>
            -- a name that is missing is the one known before
            rw [granted_refreshRequest ha]
            have hbefore : a.handle = "" ↔ Nameless deeds := by simpa [handle?, ha] using h
            by_cases hname : fresh.handle = ""
            · simpa [handle?, Deed.signIn?, hname] using hbefore
            · simp [handle?, Deed.signIn?, hname]

/-- The account's own profile is asked for by the name of the account. -/
theorem execute_ownProfile_goesOn (s : Session) (n : Network) :
    n.GoesOn (fun q => q.verb = .get → ∃ name ∈ s.handle?,
      q.operation = "app.bsky.actor.getProfile" ∧
      q.params = Request.sentParams [("actor", name)]) (s.execute (.profile none) n).network := by
  refine (s.execute_goesOn (.profile none) n).mono ?_
  rintro q ⟨call, hcall, hq⟩ hget
  obtain ⟨name, hname, rfl⟩ := Option.map_eq_some_iff.1 hcall
  cases hq with
  | get _ hoperation hparams => exact ⟨name, hname, hoperation, hparams⟩
  | post hpost => rw [hpost] at hget; cases hget

/-- The account is named in the request for its profile unless its name is empty. -/
theorem execute_ownProfile_named_iff (s : Session) :
    (∀ n : Network, n.GoesOn (fun q => q.verb = .get → ∃ name ∈ s.handle?, name ≠ "" ∧
        ("actor", name) ∈ q.params) (s.execute (.profile none) n).network) ↔
      s.handle? ≠ some "" := by
  constructor
  · intro h hname
    obtain ⟨n, hn, q, hq, hget, hparams⟩ := s.exists_fetch_mem_requests (.profile "")
    have hexecute : s.execute (.profile none) n = (s.get (.profile "") n).map .answer := by
      simp [execute, Retrieval.requiresAuth, callFor?, hname]
    have hsent := h n
    rw [hexecute] at hsent
    obtain ⟨name, -, -, hmem⟩ := hsent.forall_requests hn q hq hget
    rw [hparams] at hmem
    exact absurd hmem (by simp [Call.profile, Request.sentParams])
  · intro hne n
    refine (s.execute_ownProfile_goesOn n).mono fun q hq hget => ?_
    obtain ⟨name, hname, -, hparams⟩ := hq hget
    have hfull : name ≠ "" := fun hempty => hne (hempty ▸ hname)
    exact ⟨name, hname, hfull, by simp [hparams, Request.sentParams, hfull]⟩

/-- **Who is asked for with the profile of the account.** In any state of a session, the account's
profile is asked for by the name that the account has then. It is in the request exactly when the
account was not signed in without a name, or has been given one since. -/
theorem ownProfile_named_iff (service authService : String) (limit maxRetries : Nat)
    (creds : Option Credentials) (n : Network) (steps : List Step) :
    let opened := (anonymous service authService limit maxRetries).start creds n
    let s := (opened.session.afterSteps opened.network steps).1
    (∀ n' : Network, n'.GoesOn (fun q => q.verb = .get → ∃ name ∈ s.handle?,
        q.operation = "app.bsky.actor.getProfile" ∧
        q.params = Request.sentParams [("actor", name)])
      (s.execute (.profile none) n').network) ∧
    ((∀ n' : Network, n'.GoesOn (fun q => q.verb = .get → ∃ name ∈ s.handle?, name ≠ "" ∧
        ("actor", name) ∈ q.params) (s.execute (.profile none) n').network) ↔
      ¬ Nameless ((anonymous service authService limit maxRetries).life creds n steps)) := by
  intro opened s
  have hstart : (anonymous service authService limit maxRetries).handle? = some "" ↔
      Nameless [] := iff_of_false nofun (by simp [Nameless])
  refine ⟨fun n' => s.execute_ownProfile_goesOn n', ?_⟩
  rw [s.execute_ownProfile_named_iff]
  exact not_congr (nameless_invariant.life hstart creds n steps)

/-- An answer that signs in without a name leaves the account without one, and the request for its
profile names nobody. -/
theorem ownProfile_unnamed :
    let answer := "\x7b\"accessJwt\":\"a\",\"refreshJwt\":\"r\",\"did\":\"did:1\"\x7d"
    let s := anonymous "http://a" "http://b" 25 0
    let signedIn := s.login ⟨"alice", "secret"⟩ ⟨[.response 200 none answer], .dropped, 0, []⟩
    let asked := signedIn.session.execute (.profile none) (.offline 0)
    signedIn.session.handle? = some "" ∧
      (Traffic.requests asked.network.log).map (fun q => (q.verb, q.operation, q.params)) =
        [(.get, "app.bsky.actor.getProfile", [])] := by
  decide +kernel

end Session

end FeedQuery
