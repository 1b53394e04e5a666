import FeedQuery.Http
import FeedQuery.Proofs.Text
import Mathlib.Algebra.Group.Nat.Defs
import Mathlib.Order.Bounds.Basic

/-!
# Sending requests

A request is sent once and then again after each answer that is worth another try
(`Client.exists_sending`). How often that is, is decided by the answers and the number of
repetitions (`Client.send_stops`), and the pauses in between double up to the 56th
(`Client.send_doubles_iff`).
-/

namespace FeedQuery

/-!
## What sending a request leaves behind

A request is on the log once for every time that it was sent, with a pause after each answer that
was worth another try (`Client.Sends`). The last answer is the one that the result is made of, and
the others would have been no success (`Client.conclude_of_pauseAfter?`). All that sending a request
came to is kept together in a `Client.Sending`; the request is sent no more often than the number of
repetitions allows (`Client.exists_sending`).
-/

namespace Traffic

/-- The request that a piece of traffic is about. -/
def request? : Traffic → Option Request
  | .exchange r _ => some r
  | .pause _ => none

/-- The requests that traffic is about, in order, whether or not they reached a host. -/
def requests (traffic : List Traffic) : List Request := traffic.filterMap request?

@[simp] theorem requests_nil : requests [] = [] := rfl

@[simp] theorem requests_exchange (r : Request) (answer : Answer) (traffic : List Traffic) :
    requests (.exchange r answer :: traffic) = r :: requests traffic := rfl

@[simp] theorem requests_pause (milliseconds : UInt64) (traffic : List Traffic) :
    requests (.pause milliseconds :: traffic) = requests traffic := rfl

@[simp] theorem requests_append (ts us : List Traffic) :
    requests (ts ++ us) = requests ts ++ requests us := List.filterMap_append

end Traffic

namespace Client

/-- Sending the request came to this traffic, with this last answer. -/
inductive Sends (r : Request) : List Traffic → Answer → Prop where
  | final (last : Answer) : Sends r [.exchange r last] last
  | again {answer last : Answer} {used : Nat} {milliseconds : UInt64} {traffic : List Traffic} :
      pauseAfter? used answer = some milliseconds → Sends r traffic last →
      Sends r (.exchange r answer :: .pause milliseconds :: traffic) last

/-- An answer that is worth another try is no success. -/
theorem conclude_of_pauseAfter? {used : Nat} {answer : Answer} {milliseconds : UInt64}
    (h : pauseAfter? used answer = some milliseconds) (r : Request) :
    ∃ e, conclude r answer = .error e := by
  cases answer with
  | unreachable => exact ⟨_, rfl⟩
  | dropped => cases h
  | unsent => cases h
  | response status retryAfter body =>
    have hstatus : 300 ≤ status := by
      simp only [pauseAfter?] at h
      grind
    have hfailed : isSuccess status = false := by simp [isSuccess]; omega
    exact ⟨apiError status body, by simp [conclude, hfailed]⟩

/-- An exchange is put on the log. -/
theorem log_exchange (n : Network) (r : Request) :
    (n.exchange r).2.log = n.log ++ [.exchange r (n.answerTo r)] := rfl

/-- A pause is put on the log. -/
theorem log_pause (n : Network) (milliseconds : UInt64) :
    (n.pause milliseconds).log = n.log ++ [.pause milliseconds] := rfl

section
variable (used : Nat) (r : Request) (left : Nat) (n : Network)

/-- Without a repetition left, the first answer is final. -/
theorem sendFrom_zero :
    sendFrom used r 0 n = (conclude r (n.answerTo r), (n.exchange r).2) := by
  rw [sendFrom, Network.exchange]

/-- With repetitions left, an answer that is worth another try is followed by a pause and a
repetition. -/
theorem sendFrom_succ : sendFrom used r (left + 1) n =
    match pauseAfter? used (n.answerTo r) with
    | some milliseconds => sendFrom (used + 1) r left ((n.exchange r).2.pause milliseconds)
    | none => (conclude r (n.answerTo r), (n.exchange r).2) := by
  rw [sendFrom]
  cases hpause : pauseAfter? used (n.answerTo r) <;> simp only [Network.exchange, hpause]

end

/-- Induction on the repetitions that are left. -/
theorem sendFrom_sends (used : Nat) (r : Request) (left : Nat) (n : Network) :
    ∃ traffic last, Sends r traffic last ∧ (sendFrom used r left n).2.log = n.log ++ traffic ∧
      (sendFrom used r left n).1 = conclude r last ∧
      ∃ more ≤ left, Traffic.requests traffic = List.replicate (more + 1) r := by
  induction left generalizing used n with
  | zero =>
    rw [sendFrom_zero, log_exchange]
    generalize n.answerTo r = answer
    exact ⟨_, _, .final answer, rfl, rfl, 0, Nat.le_refl 0, rfl⟩
  | succ left ih =>
    rw [sendFrom_succ]
    split
    case h_1 milliseconds hpause =>
      obtain ⟨traffic, last, hsends, hlog, hresult, more, hmore, hrequests⟩ := ih (used + 1) _
      refine ⟨_, last, .again hpause hsends, hlog.trans ?_, hresult,
        more + 1, Nat.succ_le_succ hmore, ?_⟩
      · rw [log_pause, log_exchange]
        simp
      · simp [hrequests, List.replicate_succ]
    case h_2 =>
      rw [log_exchange]
      generalize n.answerTo r = answer
      exact ⟨_, _, .final answer, rfl, rfl, 0, Nat.zero_le _, rfl⟩

/-! ### Requests with all that they came to -/

/-- A request, and what sending it came to. -/
structure Sending where
  request : Request
  traffic : List Traffic
  /-- The answer that was not worth another try, or the one after the last repetition. -/
  last : Answer
  sends : Sends request traffic last

/-- What the last answer comes to. -/
def Sending.result (m : Sending) : Except SessionError Json.Value := conclude m.request m.last

/-- The request was sent at least once, and repeated at most so many times. -/
def Sending.Within (maxRetries : Nat) (m : Sending) : Prop :=
  ∃ more ≤ maxRetries, Traffic.requests m.traffic = List.replicate (more + 1) m.request

/-- A request is sent once and repeated within the bound, and comes to what its last answer does. -/
theorem exists_sending (maxRetries : Nat) (r : Request) (n : Network) :
    ∃ m : Sending, m.request = r ∧ m.Within maxRetries ∧
      (send maxRetries r n).2.log = n.log ++ m.traffic ∧ (send maxRetries r n).1 = m.result := by
  obtain ⟨traffic, last, hsends, hlog, hresult, hmore⟩ := sendFrom_sends 0 r maxRetries n
  exact ⟨⟨r, traffic, last, hsends⟩, rfl, hmore, hlog, hresult⟩

/-- Sending a request adds its traffic to the log and comes to what the last answer says. -/
theorem send_sends (maxRetries : Nat) (r : Request) (n : Network) :
    ∃ traffic last, Sends r traffic last ∧ (send maxRetries r n).2.log = n.log ++ traffic ∧
      (send maxRetries r n).1 = conclude r last := by
  obtain ⟨m, rfl, -, hlog, hresult⟩ := exists_sending maxRetries r n
  exact ⟨m.traffic, m.last, m.sends, hlog, hresult⟩

end Client

/-!
## When a request is sent again

A request is sent again as long as its answers are worth another try and repetitions are left, so
that the number of repetitions is the greatest one within the bound for which all answers so far
were (`Client.exists_sendFrom`). All kinds of such answers count alike. What comes of the request is
what its last answer means (`Client.send_stops`).
-/

/-- A server error, a refusal for too many requests and a host out of reach are worth another
try. -/
def Answer.Retryable : Answer → Prop
  | .response status _ _ => 500 ≤ status ∨ status = 429
  | .unreachable => True
  | .dropped | .unsent => False

namespace Network

/-- The answers to a request that is sent over and over. -/
def answersTo (n : Network) (r : Request) (i : Nat) : Answer :=
  if r.isSendable then n.answers.getD i n.afterwards else .unsent

/-- The first answer is the one that the network gives now. -/
theorem answersTo_zero (n : Network) (r : Request) : n.answersTo r 0 = n.answerTo r := by
  rw [answersTo, answerTo, next]
  cases n.answers <;> rfl

/-- Once a request has been sent, its other answers are still to come. -/
theorem answersTo_exchange (n : Network) (r : Request) (milliseconds : UInt64) (i : Nat) :
    ((n.exchange r).2.pause milliseconds).answersTo r i = n.answersTo r (i + 1) := by
  simp only [answersTo, exchange, pause]
  split
  case isTrue => cases n.answers <;> rfl
  case isFalse => rfl

end Network

namespace Client

/-- The answers that are followed by a pause are those that are worth another try. -/
theorem exists_pauseAfter?_iff (used : Nat) {answer : Answer} :
    (∃ milliseconds, pauseAfter? used answer = some milliseconds) ↔ answer.Retryable := by
  cases answer with
  | response status retryAfter body =>
    simp only [pauseAfter?, Answer.Retryable]
    split
    case isTrue h => exact iff_of_true ⟨_, rfl⟩ (.inl h)
    case isFalse h =>
      split
      case isTrue h' => exact iff_of_true ⟨_, rfl⟩ (.inr h')
      case isFalse h' => exact iff_of_false (by simp) (not_or.2 ⟨h, h'⟩)
  | unreachable => exact iff_of_true ⟨_, rfl⟩ trivial
  | dropped | unsent => exact iff_of_false (by simp [pauseAfter?]) id

/-! ### Runs -/

/-- The lengths of the runs that a sequence starts with, up to a bound. The greatest of them is the
length of the longest such run, or the bound where that is smaller. -/
def initialRuns (p : Nat → Prop) (bound : Nat) : Set Nat := {k | k ≤ bound ∧ ∀ i < k, p i}

section
variable {p : Nat → Prop} {bound k : Nat}

/-- Up to the bound 0 there is only the empty run. -/
theorem isGreatest_initialRuns_bound : IsGreatest (initialRuns p 0) 0 :=
  ⟨⟨Nat.le_refl 0, nofun⟩, fun _ h => h.1⟩

/-- A sequence that starts otherwise starts with the empty run only. -/
theorem isGreatest_initialRuns_zero (h : ¬ p 0) : IsGreatest (initialRuns p bound) 0 := by
  refine ⟨⟨Nat.zero_le _, nofun⟩, fun m hm => Nat.le_of_not_lt fun hpos => h (hm.2 0 hpos)⟩

/-- One more at the start makes the longest run longer by one. -/
theorem isGreatest_initialRuns_succ (h : p 0)
    (hk : IsGreatest (initialRuns (fun i => p (i + 1)) bound) k) :
    IsGreatest (initialRuns p (bound + 1)) (k + 1) := by
  obtain ⟨⟨hle, hrun⟩, hgreatest⟩ := hk
  refine ⟨⟨Nat.succ_le_succ hle, fun i hi => ?_⟩, fun m hm => ?_⟩
  · cases i with
    | zero => exact h
    | succ i => exact hrun i (Nat.lt_of_succ_lt_succ hi)
  · cases m with
    | zero => exact Nat.zero_le _
    | succ m =>
      refine Nat.succ_le_succ (hgreatest ⟨Nat.le_of_succ_le_succ hm.1, fun i hi => ?_⟩)
      exact hm.2 (i + 1) (Nat.succ_lt_succ hi)

end

/-! ### Repetitions -/

/-- Exchanges of a request, each with a pause after it. -/
def tries (r : Request) (answers : Nat → Answer) (waits : Nat → UInt64) (k : Nat) : List Traffic :=
  (List.range k).flatMap fun i => [.exchange r (answers i), .pause (waits i)]

/-- No tries are no traffic. -/
theorem tries_zero (r : Request) (answers : Nat → Answer) (waits : Nat → UInt64) :
    tries r answers waits 0 = [] := rfl

/-- The first try comes before the others. -/
theorem tries_succ (r : Request) (answers : Nat → Answer) (waits : Nat → UInt64) (k : Nat) :
    tries r answers waits (k + 1) = .exchange r (answers 0) :: .pause (waits 0) ::
      tries r (fun i => answers (i + 1)) (fun i => waits (i + 1)) k := by
  rw [tries, List.range_succ_eq_map, List.flatMap_cons, List.flatMap_map]
  rfl

/-- The request is repeated as often as there is reason to and the bound allows, with a pause each
time, and its last answer is the result. Induction on the repetitions that are left: one of them is
used up whatever the reason for it is. -/
theorem exists_sendFrom (used : Nat) (r : Request) (left : Nat) (n : Network)
    (answers : Nat → Answer) (h : ∀ i, n.answersTo r i = answers i) :
    ∃ (k : Nat) (waits : Nat → UInt64),
      IsGreatest (initialRuns (fun i => (answers i).Retryable) left) k ∧
      (∀ i < k, pauseAfter? (used + i) (answers i) = some (waits i)) ∧
      (sendFrom used r left n).2.log =
        n.log ++ tries r answers waits k ++ [.exchange r (answers k)] ∧
      (sendFrom used r left n).1 = conclude r (answers k) := by
  have hfirst {n : Network} {answers : Nat → Answer} (h : ∀ i, n.answersTo r i = answers i) :
      n.answerTo r = answers 0 := (Network.answersTo_zero n r).symm.trans (h 0)
  induction left generalizing used n answers with
  | zero =>
    refine ⟨0, fun _ => 0, isGreatest_initialRuns_bound, nofun, ?_, ?_⟩
    · rw [sendFrom_zero, log_exchange, hfirst h, tries_zero, List.append_nil]
    · rw [sendFrom_zero, hfirst h]
  | succ left ih =>
    rw [sendFrom_succ, hfirst h]
    split
    case h_1 milliseconds hpause =>
      obtain ⟨k, waits, hgreatest, hwaits, hlog, hresult⟩ :=
        ih (used + 1) ((n.exchange r).2.pause milliseconds) (fun i => answers (i + 1))
          fun i => (Network.answersTo_exchange n r milliseconds i).trans (h (i + 1))
      have hagain : (answers 0).Retryable := (exists_pauseAfter?_iff used).1 ⟨milliseconds, hpause⟩
      refine ⟨k + 1, fun i => i.casesOn milliseconds waits,
        isGreatest_initialRuns_succ hagain hgreatest, fun i hi => ?_, ?_, hresult⟩
      · cases i with
        | zero => exact hpause
        | succ i =>
          rw [← Nat.add_assoc, Nat.add_right_comm]
          exact hwaits i (Nat.lt_of_succ_lt_succ hi)
      · rw [hlog, log_pause, log_exchange, hfirst h, tries_succ]
        simp
    case h_2 hnone =>
      have hfinal : ¬ (answers 0).Retryable := by
        rw [← exists_pauseAfter?_iff used, hnone]
        exact nofun
      refine ⟨0, fun _ => 0, isGreatest_initialRuns_zero hfinal, nofun, ?_, rfl⟩
      rw [log_exchange, hfirst h, tries_zero, List.append_nil]

/-! ### What an answer means -/

/-- The header that says when to try again asks for so many seconds. -/
def Asks (retryAfter : Option String) (seconds : Nat) : Prop :=
  ∃ s, retryAfter = some s ∧ Text.IsNumeral s seconds ∧ seconds ≤ Text.maxWord64

/-- What is asked for is granted up to ten seconds; where nothing is asked for, it is two. -/
theorem patience_spec (retryAfter : Option String) :
    (∀ seconds, Asks retryAfter seconds → (patience retryAfter).toNat = 1000 * min seconds 10) ∧
    ((∀ seconds, ¬ Asks retryAfter seconds) → (patience retryAfter).toNat = 1000 * 2) := by
  have hread {seconds : Nat} : retryAfter.bind (Text.unsigned? Text.maxWord64) = some seconds ↔
      Asks retryAfter seconds := by
    simp only [Option.bind_eq_some_iff, Text.unsigned?_eq_some_iff, Asks]
  refine ⟨fun seconds h => ?_, fun h => ?_⟩
  · have hbound : 1000 * min seconds 10 < 2 ^ 64 := by omega
    rw [patience, hread.2 h]
    exact UInt64.toNat_ofNat_of_lt hbound
  · have hnone : retryAfter.bind (Text.unsigned? Text.maxWord64) = none :=
      Option.eq_none_iff_forall_ne_some.2 fun seconds heq => h seconds (hread.1 heq)
    rw [patience, hnone]
    rfl

/-- What the last answer to a request comes to. -/
inductive Means (r : Request) : Answer → Except SessionError Json.Value → Prop where
  /-- There is no response. -/
  | lost {answer : Answer} : answer = .unreachable ∨ answer = .dropped ∨ answer = .unsent →
      Means r answer (.error (.http r.urlText))
  | refused {status : Nat} {retryAfter : Option String} {body : String} (error message : String) :
      ¬ (200 ≤ status ∧ status < 300) →
      Means r (.response status retryAfter body) (.error (.api status error message))
  | blank {status : Nat} {retryAfter : Option String} {body : String} :
      200 ≤ status → status < 300 → (∀ c ∈ body.toList, Text.isBlank c = true) →
      Means r (.response status retryAfter body) (.ok .null)
  | value {status : Nat} {retryAfter : Option String} {body : String} {v : Json.Value} :
      200 ≤ status → status < 300 → (∃ c ∈ body.toList, Text.isBlank c = false) →
      Json.parse? body = some v → Means r (.response status retryAfter body) (.ok v)
  | unreadable {status : Nat} {retryAfter : Option String} {body : String} :
      200 ≤ status → status < 300 → (∃ c ∈ body.toList, Text.isBlank c = false) →
      Json.parse? body = none → Means r (.response status retryAfter body) (.error .json)

/-- What an answer comes to is what it means. -/
theorem means_conclude (r : Request) (answer : Answer) : Means r answer (conclude r answer) := by
  cases answer with
  | unreachable => exact .lost (.inl rfl)
  | dropped => exact .lost (.inr (.inl rfl))
  | unsent => exact .lost (.inr (.inr rfl))
  | response status retryAfter body =>
    have hsuccess : isSuccess status = true ↔ 200 ≤ status ∧ status < 300 := by simp [isSuccess]
    rw [conclude]
    split
    case isTrue h =>
      exact .refused _ _ fun hrange => by simp [hsuccess.2 hrange] at h
    case isFalse h =>
      obtain ⟨hlow, hhigh⟩ := hsuccess.1 (by simpa using h)
      split
      case isTrue hblank => exact .blank hlow hhigh (by simpa [Text.allBlank] using hblank)
      case isFalse hblank =>
        have hcontent : ∃ c ∈ body.toList, Text.isBlank c = false := by
          simpa [Text.allBlank] using hblank
        split
        case h_1 v hv => exact .value hlow hhigh hcontent hv
        case h_2 hnone => exact .unreadable hlow hhigh hcontent hnone

/-- **A request is repeated until an answer is final or the repetitions are used up.** With at most
so many repetitions, it is repeated as often as its first answers are worth another try, whatever
makes them so. Each repetition is of the same request and follows one pause, which after a refusal
for too many requests is as long as asked for, within bounds. The result depends on the last answer
only. -/
theorem send_stops (maxRetries : Nat) (r : Request) (n : Network) :
    let answers := n.answersTo r
    ∃ (k : Nat) (waits : Nat → UInt64),
      IsGreatest (initialRuns (fun i => (answers i).Retryable) maxRetries) k ∧
      (send maxRetries r n).2.log =
        n.log ++ (List.range k).flatMap (fun i => [.exchange r (answers i), .pause (waits i)]) ++
          [.exchange r (answers k)] ∧
      (∀ i < k, ∀ retryAfter body, answers i = .response 429 retryAfter body →
        (∀ seconds, Asks retryAfter seconds → (waits i).toNat = 1000 * min seconds 10) ∧
        ((∀ seconds, ¬ Asks retryAfter seconds) → (waits i).toNat = 1000 * 2)) ∧
      (send maxRetries r n).1 = conclude r (answers k) ∧
      Means r (answers k) (send maxRetries r n).1 := by
  intro answers
  obtain ⟨k, waits, hgreatest, hwaits, hlog, hresult⟩ :=
    exists_sendFrom 0 r maxRetries n answers fun _ => rfl
  refine ⟨k, waits, hgreatest, hlog, fun i hi retryAfter body hanswer => ?_, hresult, ?_⟩
  · have hpause := hwaits i hi
    rw [hanswer] at hpause
    have hwait : patience retryAfter = waits i := Option.some.inj hpause
    rw [← hwait]
    exact patience_spec retryAfter
  · rw [send, hresult]
    exact means_conclude r (answers k)

end Client

/-!
## How long the pauses get

As long as servers fail or are out of reach, each pause is to be twice as long as the one before,
and the first is half a second. A pause is held in a 64-bit word, and the number of repetitions is
not bounded. So only the first 56 pauses are that long (`Client.toNat_backoff_eq_iff`): the next one
wraps around and is shorter than the one before it. The pauses of a run of failures are those that
are meant, and get longer each time, exactly when there are at most that many
(`Client.send_doubles_iff`).
-/

/-- A server error or a host out of reach, after which the next pause is twice as long. -/
inductive Answer.BacksOff : Answer → Prop where
  | failed {status : Nat} (retryAfter : Option String) (body : String) :
      500 ≤ status → BacksOff (.response status retryAfter body)
  | unreachable : BacksOff .unreachable

/-- A failure is worth another try. -/
theorem Answer.BacksOff.retryable {answer : Answer} (h : answer.BacksOff) : answer.Retryable := by
  cases h with
  | failed _ _ hstatus => exact .inl hstatus
  | unreachable => trivial

namespace Traffic

/-- The length of a pause. -/
def pause? : Traffic → Option UInt64
  | .exchange .. => none
  | .pause milliseconds => some milliseconds

end Traffic

/-- The pauses of a network are those on its log. -/
theorem Network.pauses_eq (n : Network) : n.pauses = n.log.filterMap Traffic.pause? := rfl

namespace Client

/-- The pauses of tries are the waits, in order. -/
theorem filterMap_pause?_tries (r : Request) (answers : Nat → Answer) (waits : Nat → UInt64)
    (k : Nat) : (tries r answers waits k).filterMap Traffic.pause? = (List.range k).map waits := by
  rw [tries, List.filterMap_flatMap]
  exact List.map_eq_flatMap.symm

/-! ### The word that holds a pause -/

/-- A pause is the one that is meant, as far as a word holds it. -/
theorem toNat_backoff (used : Nat) : (backoff used).toNat = 500 * 2 ^ used % 2 ^ 64 :=
  UInt64.toNat_ofNat'

/-- The word has room for the first 56 pauses. -/
theorem lt_word_iff (used : Nat) : 500 * 2 ^ used < 2 ^ 64 ↔ used < 56 := by
  constructor
  · intro h
    by_contra hused
    have hpow : 2 ^ 56 ≤ 2 ^ used := Nat.pow_le_pow_right (by decide) (Nat.le_of_not_lt hused)
    omega
  · intro h
    have hpow : 2 ^ used ≤ 2 ^ 55 := Nat.pow_le_pow_right (by decide) (Nat.le_of_lt_succ h)
    omega

/-- Only the first 56 pauses are as long as they are meant to be. -/
theorem toNat_backoff_eq_iff (used : Nat) : (backoff used).toNat = 500 * 2 ^ used ↔ used < 56 := by
  rw [toNat_backoff, Nat.mod_eq_iff_lt (by decide), lt_word_iff]

/-- The first pauses get longer. -/
theorem backoff_lt {i j : Nat} (hij : i < j) (hj : j < 56) : backoff i < backoff j := by
  rw [UInt64.lt_iff_toNat_lt, (toNat_backoff_eq_iff i).2 (hij.trans hj),
    (toNat_backoff_eq_iff j).2 hj]
  have hpow : 2 ^ i < 2 ^ j := Nat.pow_lt_pow_right (by decide) hij
  omega

/-- The pauses get longer until the word overflows. -/
theorem pairwise_backoff_iff (m : Nat) :
    ((List.range m).map backoff).Pairwise (· < ·) ↔ m ≤ 56 := by
  rw [List.pairwise_map]
  constructor
  · intro h
    by_contra hm
    have hwraps : ¬ backoff 55 < backoff 56 := by decide
    refine hwraps ?_
    have hlt := List.pairwise_iff_getElem.1 h 55 56 (by simp; omega) (by simp; omega) (by decide)
    simpa using hlt
  · intro hm
    refine List.pairwise_lt_range.imp_of_mem fun _ hj hij => ?_
    exact backoff_lt hij (Nat.lt_of_lt_of_le (List.mem_range.1 hj) hm)

/-! ### The pauses of a run of failures -/

/-- A failure is followed by the pause that gets longer. -/
theorem pauseAfter?_of_backsOff {answer : Answer} (h : answer.BacksOff) (used : Nat) :
    pauseAfter? used answer = some (backoff used) := by
  cases h with
  | failed _ _ hstatus => exact if_pos hstatus
  | unreachable => rfl

/-- The pauses of a request whose first answers are failures start with those that are computed for
them. -/
theorem exists_pauses_send {maxRetries m : Nat} {r : Request} {n : Network} {answers : Nat → Answer}
    (hanswers : ∀ i, n.answersTo r i = answers i) (hm : m ≤ maxRetries)
    (h : ∀ i < m, (answers i).BacksOff) :
    ∃ waits : List UInt64, (send maxRetries r n).2.pauses = n.pauses ++ waits ∧
      waits.take m = (List.range m).map backoff := by
  obtain ⟨k, waits, ⟨-, hgreatest⟩, hwaits, hlog, -⟩ :=
    exists_sendFrom 0 r maxRetries n answers hanswers
  have hk : m ≤ k := hgreatest ⟨hm, fun i hi => (h i hi).retryable⟩
  refine ⟨(List.range k).map waits, ?_, ?_⟩
  · rw [Network.pauses_eq, Network.pauses_eq, send, hlog, List.filterMap_append,
      List.filterMap_append, filterMap_pause?_tries]
    exact List.append_nil _
  · rw [← List.map_take, List.take_range, Nat.min_eq_left hk]
    refine List.map_congr_left fun i hi => ?_
    have him := List.mem_range.1 hi
    have hwait := hwaits i (Nat.lt_of_lt_of_le him hk)
    rw [Nat.zero_add, pauseAfter?_of_backsOff (h i him)] at hwait
    exact (Option.some.inj hwait).symm

/-- **A run of failures has pauses that double as long as a 64-bit word holds them.** The pause
after the failure number `i`, counted from zero, is half a second times `2 ^ i` in the arithmetic of
the word, which is that number exactly for the first 56 pauses. So the pauses of a run get longer
each time exactly when the run has at most 56 of them. -/
theorem send_doubles_iff {maxRetries m : Nat} {r : Request} {n : Network} (hm : m ≤ maxRetries)
    (h : ∀ i < m, (n.answersTo r i).BacksOff) :
    ∃ waits : List UInt64, (send maxRetries r n).2.pauses = n.pauses ++ waits ∧
      m ≤ waits.length ∧
      (∀ i < m, ∃ w, waits[i]? = some w ∧ w.toNat = 500 * 2 ^ i % 2 ^ 64 ∧
        (w.toNat = 500 * 2 ^ i ↔ i < 56)) ∧
      ((waits.take m).Pairwise (· < ·) ↔ m ≤ 56) := by
  obtain ⟨waits, hpauses, htake⟩ := exists_pauses_send (fun _ => rfl) hm h
  have hlength : m ≤ waits.length := by simpa using congrArg List.length htake
  refine ⟨waits, hpauses, hlength, fun i hi => ?_, htake ▸ pairwise_backoff_iff m⟩
  have hwait : waits[i]? = some (backoff i) := by
    rw [← List.getElem?_take_of_lt hi, htake]
    simp [hi]
  exact ⟨backoff i, hwait, toNat_backoff i, toNat_backoff_eq_iff i⟩

/-- After a server error and a host out of reach, the second pause is twice the first. -/
theorem send_doubles_twice :
    let r : Request := ⟨.get, "http://a.b", "app.bsky.feed.getTimeline", [], none, none⟩
    let n : Network := ⟨[.response 503 none ""], .unreachable, 0, []⟩
    ∃ first second rest, (send 2 r n).2.pauses = first :: second :: rest ∧
      first.toNat = 500 ∧ second.toNat = 1000 := by
  intro r n
  have hsendable : r.isSendable = true := by decide +kernel
  have hfailed : ∀ i < 2, (n.answersTo r i).BacksOff := by
    intro i hi
    rw [Network.answersTo, if_pos hsendable]
    obtain rfl | rfl : i = 0 ∨ i = 1 := by omega
    · exact .failed none "" (by decide)
    · exact .unreachable
  obtain ⟨waits, hpauses, -, hwaits, -⟩ := send_doubles_iff (Nat.le_refl 2) hfailed
  obtain ⟨first, hfirst, -, hfirst'⟩ := hwaits 0 (by decide)
  obtain ⟨second, hsecond, -, hsecond'⟩ := hwaits 1 (by decide)
  obtain _ | ⟨_, _ | ⟨_, rest⟩⟩ := waits
  · cases hfirst
  · cases hsecond
  · cases hfirst
    cases hsecond
    exact ⟨first, second, rest, hpauses, hfirst'.2 (by decide), hsecond'.2 (by decide)⟩

/-- Of 57 pauses in a row, the last one is not twice the one before, but shorter. -/
theorem send_doubles_wraps :
    let r : Request := ⟨.get, "http://a.b", "app.bsky.feed.getTimeline", [], none, none⟩
    let pauses := (send 57 r (.offline 0)).2.pauses.map UInt64.toNat
    pauses.length = 57 ∧ pauses[55]? = some (500 * 2 ^ 55) ∧
      pauses[56]? = some 17582052945254416384 ∧ 17582052945254416384 < 500 * 2 ^ 55 ∧
      17582052945254416384 ≠ 500 * 2 ^ 56 := by
  decide +kernel

end Client

end FeedQuery
