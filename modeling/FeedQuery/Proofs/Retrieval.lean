import FeedQuery.Retrieval

/-!
# What a plan depends on

A plan is made from the table, in any letter case, and from the first comparison with a recognized
key (`Query.FirstNamed`). Two queries that agree on these have the same plan, whatever else they say
(`Query.plan_determined`): `actor` and `author` are one key, and of the comparison only the value
counts. A retrieval is planned for the tables on the list only, and what it is about is that value.
-/

namespace FeedQuery

/-- The parameter that names what a retrieval is about. -/
def Retrieval.subject? : Retrieval → Option (String × String)
  | .authorFeed actor | .actorFeeds actor | .profile (some actor) | .actorLikes actor
  | .followers actor | .follows actor | .mutualFollowers actor => some ("actor", actor)
  | .feed uri => some ("feed", uri)
  | .timeline | .suggestedFeeds | .profile none | .suggestions => none

namespace Query

/-! ## The first comparison with a recognized key -/

/-- The comparison has a recognized key, and none before it has one. -/
inductive FirstNamed (conditions : List Condition) (p : Predicate) : Prop
  | mk {before after : List Condition} :
      conditions = before ++ .comparison p :: after → p.key ∈ recognizedKeys →
      (∀ q, .comparison q ∈ before → q.key ∉ recognizedKeys) → FirstNamed conditions p

/-- A comparison counts if its key is recognized, and otherwise those behind it do. -/
theorem firstRecognized?_cons (p : Predicate) (conditions : List Condition) :
    firstRecognized? (.comparison p :: conditions) =
      if p.key ∈ recognizedKeys then some p else firstRecognized? conditions := by
  have hcons : (Condition.comparison p :: conditions).filterMap comparison? =
      p :: conditions.filterMap comparison? := rfl
  rw [firstRecognized?, hcons]
  by_cases hkey : p.key ∈ recognizedKeys
  · rw [List.find?_cons_of_pos (by simpa using hkey), if_pos hkey]
  · rw [List.find?_cons_of_neg (by simpa using hkey), if_neg hkey, firstRecognized?]

/-- A piece of a condition without a recognized key makes no difference. -/
theorem firstNamed_cons_of_not_recognized {c : Condition} {conditions : List Condition}
    {p : Predicate} (hc : ∀ q, c = .comparison q → q.key ∉ recognizedKeys) :
    FirstNamed (c :: conditions) p ↔ FirstNamed conditions p := by
  constructor
  · rintro @⟨before, after, hsplit, hkey, hbefore⟩
    obtain ⟨rfl, hhead⟩ | ⟨before, rfl, htail⟩ := List.cons_eq_append_iff.1 hsplit
    · cases hhead
      exact absurd hkey (hc p rfl)
    · exact ⟨htail, hkey, fun q hq => hbefore q (.tail _ hq)⟩
  · rintro @⟨before, after, rfl, hkey, hbefore⟩
    refine ⟨(List.cons_append ..).symm, hkey, fun q hq => ?_⟩
    obtain rfl | hq := List.mem_cons.1 hq
    · exact hc q rfl
    · exact hbefore q hq

/-- A comparison with a recognized key at the start is the first one. -/
theorem firstNamed_cons_of_recognized {q : Predicate} {conditions : List Condition}
    {p : Predicate} (hq : q.key ∈ recognizedKeys) :
    FirstNamed (.comparison q :: conditions) p ↔ q = p := by
  constructor
  · rintro @⟨before, after, hsplit, hkey, hbefore⟩
    obtain ⟨rfl, hhead⟩ | ⟨before, rfl, -⟩ := List.cons_eq_append_iff.1 hsplit
    · cases hhead
      rfl
    · exact absurd hq (hbefore q (.head _))
  · rintro rfl
    exact ⟨(List.nil_append _).symm, hq, fun _ h => absurd h List.not_mem_nil⟩

/-- The scan finds the comparison with no other before it. -/
theorem firstRecognized?_eq_some_iff {conditions : List Condition} {p : Predicate} :
    firstRecognized? conditions = some p ↔ FirstNamed conditions p := by
  induction conditions with
  | nil =>
    refine iff_of_false nofun ?_
    rintro ⟨hsplit, -, -⟩
    simp at hsplit
  | cons c conditions ih =>
    cases c with
    | connector => exact ih.trans (firstNamed_cons_of_not_recognized (by rintro _ ⟨⟩)).symm
    | comparison q =>
      rw [firstRecognized?_cons]
      split
      case isTrue hq => rw [firstNamed_cons_of_recognized hq, Option.some_inj]
      case isFalse hq =>
        rw [ih, firstNamed_cons_of_not_recognized]
        rintro _ ⟨⟩
        exact hq

/-- Without a recognized key no comparison counts. -/
theorem firstRecognized?_eq_none {conditions : List Condition}
    (h : ∀ p, .comparison p ∈ conditions → p.key ∉ recognizedKeys) :
    firstRecognized? conditions = none := by
  refine Option.eq_none_iff_forall_ne_some.2 fun p hp => ?_
  obtain @⟨before, after, rfl, hkey, -⟩ := firstRecognized?_eq_some_iff.1 hp
  exact h p (by simp) hkey

/-! ## Plans -/

/-- Two keys that count as the same: they are equal, or each is one of the keys for an actor. -/
def SameKey (k l : String) : Prop := k = l ∨ k ∈ ["actor", "author"] ∧ l ∈ ["actor", "author"]

/-- Neither conditions name a subject, or the first comparison that does has the same value in both,
under a key that counts as the same. -/
inductive SameSubject (cs ds : List Condition) : Prop
  | nobody : (∀ p, .comparison p ∈ cs → p.key ∉ recognizedKeys) →
      (∀ q, .comparison q ∈ ds → q.key ∉ recognizedKeys) → SameSubject cs ds
  | named {p q : Predicate} : FirstNamed cs p → FirstNamed ds q → p.value = q.value →
      SameKey p.key q.key → SameSubject cs ds

/-- The key for a feed is the same as itself only. -/
theorem SameKey.feed_iff {k l : String} (h : SameKey k l) : k = "feed" ↔ l = "feed" := by
  obtain rfl | ⟨hk, hl⟩ := h
  · rfl
  · have hnot : ∀ key ∈ ["actor", "author"], key ≠ "feed" := by decide
    exact iff_of_false (hnot k hk) (hnot l hl)

/-- Conditions that name the same subject have the same subject. -/
theorem SameSubject.subject_eq {cs ds : List Condition} (h : SameSubject cs ds) :
    subject cs = subject ds := by
  cases h with
  | nobody hcs hds =>
    rw [subject, subject, firstRecognized?_eq_none hcs, firstRecognized?_eq_none hds]
  | @named p q hp hq hvalue hkey =>
    rw [subject, subject, firstRecognized?_eq_some_iff.2 hp, firstRecognized?_eq_some_iff.2 hq]
    simp only [hvalue, hkey.feed_iff]

/-- The planner knows the tables on the list, and no others. -/
theorem mem_tables_of_retrievalFor {table : String} {subject : Subject} {r : Retrieval}
    (h : retrievalFor table subject = some r) : table ∈ tables.map (·.1) := by
  unfold retrievalFor at h
  split at h <;> cases h <;> decide

/-- A retrieval is about the subject that it was chosen for. -/
theorem retrievalFor_subject? {table : String} {subject : Subject} {r : Retrieval}
    {name value : String} (hr : retrievalFor table subject = some r)
    (hs : r.subject? = some (name, value)) :
    subject = .actor value ∧ name = "actor" ∨ subject = .feed value ∧ name = "feed" := by
  unfold retrievalFor at hr
  split at hr <;> cases hr <;> cases hs <;> simp

/-- A query is about what its first comparison with a recognized key names. -/
theorem exists_firstRecognized? {q : Query} {r : Retrieval} {name value : String}
    (hr : q.plan = some r) (hs : r.subject? = some (name, value)) :
    ∃ p, firstRecognized? q.conditions = some p ∧ p.value = value ∧
      (name = "feed" ↔ p.key = "feed") := by
  have hsubject := retrievalFor_subject? hr hs
  unfold subject at hsubject
  cases hp : firstRecognized? q.conditions with
  | none => simp [hp] at hsubject
  | some p =>
    by_cases hkey : p.key = "feed"
    · obtain ⟨hvalue, rfl⟩ : p.value = value ∧ name = "feed" := by simpa [hp, hkey] using hsubject
      exact ⟨p, rfl, hvalue, iff_of_true rfl hkey⟩
    · obtain ⟨hvalue, rfl⟩ : p.value = value ∧ name = "actor" := by
        simpa [hp, hkey] using hsubject
      exact ⟨p, rfl, hvalue, iff_of_false (by decide) hkey⟩

/-- **A plan depends on the table and the first recognized comparison.** Queries with the same
table, in any letter case, and the same subject have the same plan. A retrieval is planned only for
a table on the list, and an actor or a feed in it is the value of that comparison, as it stands
there. -/
theorem plan_determined :
    (∀ q₁ q₂ : Query, Text.lower q₁.table = Text.lower q₂.table →
      SameSubject q₁.conditions q₂.conditions → q₁.plan = q₂.plan) ∧
    ∀ (q : Query) (r : Retrieval), q.plan = some r →
      Text.lower q.table ∈ tables.map (·.1) ∧
      ∀ name value, r.subject? = some (name, value) →
        ∃ p, FirstNamed q.conditions p ∧ p.value = value ∧ (name = "feed" ↔ p.key = "feed") := by
  refine ⟨fun q₁ q₂ htable hsubject => ?_, fun q r hr => ?_⟩
  · rw [plan, plan, htable, hsubject.subject_eq]
  · refine ⟨mem_tables_of_retrievalFor hr, fun name value hs => ?_⟩
    obtain ⟨p, hp, hvalue, hname⟩ := exists_firstRecognized? hr hs
    exact ⟨p, firstRecognized?_eq_some_iff.1 hp, hvalue, hname⟩

/-- Neither the fields nor the other comparisons matter, nor which of the two keys an actor has. -/
theorem plan_determined_author :
    let q₁ : Query := ⟨"Posts", [.comparison ⟨"text", "=", "x"⟩, .connector .and,
      .comparison ⟨"author", "=", "alice"⟩, .connector .or, .comparison ⟨"feed", "=", "y"⟩],
      ["uri"]⟩
    let q₂ : Query := ⟨"pOSTS", [.comparison ⟨"actor", "AND", "alice"⟩], []⟩
    q₁.plan = q₂.plan ∧ q₁.plan = some (.authorFeed "alice") ∧ "posts" ∈ tables.map (·.1) := by
  intro q₁ q₂
  have htable : Text.lower q₁.table = Text.lower q₂.table := by decide +kernel
  have hfirst₁ : FirstNamed q₁.conditions ⟨"author", "=", "alice"⟩ :=
    firstRecognized?_eq_some_iff.1 rfl
  have hfirst₂ : FirstNamed q₂.conditions ⟨"actor", "AND", "alice"⟩ :=
    firstRecognized?_eq_some_iff.1 rfl
  have hplan : q₁.plan = some (.authorFeed "alice") := by decide +kernel
  have hlower : Text.lower q₁.table = "posts" := by decide +kernel
  refine ⟨plan_determined.1 q₁ q₂ htable (.named hfirst₁ hfirst₂ rfl (.inr (by decide))), hplan, ?_⟩
  exact hlower ▸ (plan_determined.2 q₁ _ hplan).1

end Query

end FeedQuery
