import FeedQuery.Session
import FeedQuery.Text.Encoding
import Mathlib.Algebra.Ring.Int.Defs
import Mathlib.Data.List.Basic
import Mathlib.Data.List.DropRight

/-!
# The expiry of tokens

Bytes in base 64 are read back, so the claims of a token are, and with them the time when it expires
(`AccessToken.expiry?_holding`).
-/

namespace FeedQuery.Text.Base64Url

/-!
## Base 64 for URLs, forth and back

The bytes that are read from the characters of bytes are these bytes (`Base64Url.decode?_encode`),
whether or not their number is a multiple of three. The characters of bytes are those of the
alphabet (`Base64Url.mem_alphabet_of_mem_encode`).
-/

/-- The number of a digit is read back from it. -/
theorem value?_digit : ∀ n < 64, value? (digit n) = some n := by decide +kernel

/-- A digit is a character of the alphabet. -/
theorem digit_mem_alphabet : ∀ n < 64, digit n ∈ alphabet := by decide +kernel

/-- The numbers of bytes have six bits. -/
theorem lt_of_mem_split (bytes : List UInt8) : ∀ n ∈ split bytes, n < 64 := by
  fun_induction split bytes with
  | case1 a b c rest n ih =>
    have ha := a.toNat_lt
    have hb := b.toNat_lt
    have hc := c.toNat_lt
    simp only [List.forall_mem_cons]
    exact ⟨by omega, by omega, by omega, by omega, ih⟩
  | case2 a b n =>
    have ha := a.toNat_lt
    have hb := b.toNat_lt
    simp only [List.forall_mem_cons]
    exact ⟨by omega, by omega, by omega, nofun⟩
  | case3 a n =>
    have ha := a.toNat_lt
    simp only [List.forall_mem_cons]
    exact ⟨by omega, by omega, nofun⟩
  | case4 => exact nofun

/-- A byte is made of its number. -/
theorem ofNat_eq {a : UInt8} {n : Nat} (h : n = a.toNat) : UInt8.ofNat n = a := by
  rw [h, UInt8.ofNat_toNat]

/-- The bytes of the numbers of bytes are these bytes. -/
theorem join?_split (bytes : List UInt8) : join? (split bytes) = some bytes := by
  fun_induction split bytes with
  | case1 a b c rest n ih =>
    have ha := a.toNat_lt
    have hb := b.toNat_lt
    have hc := c.toNat_lt
    have hn : n / 262144 * 262144 + n / 4096 % 64 * 4096 + n / 64 % 64 * 64 + n % 64 = n := by
      omega
    simp only [join?, hn, ih]
    rw [ofNat_eq (a := a) (by omega), ofNat_eq (a := b) (by omega), ofNat_eq (a := c) (by omega)]
    rfl
  | case2 a b n =>
    have ha := a.toNat_lt
    have hb := b.toNat_lt
    have hn : n / 262144 * 262144 + n / 4096 % 64 * 4096 + n / 64 % 64 * 64 = n := by omega
    simp only [join?, hn]
    rw [if_pos (by omega), ofNat_eq (a := a) (by omega), ofNat_eq (a := b) (by omega)]
  | case3 a n =>
    have ha := a.toNat_lt
    have hn : n / 262144 * 262144 + n / 4096 % 64 * 4096 = n := by omega
    simp only [join?, hn]
    rw [if_pos (by omega), ofNat_eq (a := a) (by omega)]
  | case4 => rfl

/-- The numbers of digits are read back from them. -/
theorem mapM_value?_map_digit {ns : List Nat} (h : ∀ n ∈ ns, n < 64) :
    (ns.map digit).mapM value? = some ns := by
  induction ns with
  | nil => rfl
  | cons n ns ih =>
    have ⟨hn, hns⟩ := List.forall_mem_cons.1 h
    simp [value?_digit n hn, ih hns]

/-- The bytes of the characters of bytes are these bytes. -/
theorem decode?_encode (bytes : List UInt8) : decode? (encode bytes) = some bytes := by
  rw [decode?, encode, mapM_value?_map_digit (lt_of_mem_split bytes)]
  exact join?_split bytes

/-- Bytes are written with characters of the alphabet. -/
theorem mem_alphabet_of_mem_encode {bytes : List UInt8} {c : Char} (h : c ∈ encode bytes) :
    c ∈ alphabet := by
  obtain ⟨n, hn, rfl⟩ := List.mem_map.1 h
  exact digit_mem_alphabet n (lt_of_mem_split bytes n hn)

end FeedQuery.Text.Base64Url

namespace FeedQuery

/-!
## Tokens that hold claims

A token is made of a header, a text in base 64, which may be padded, and what comes behind another
dot. The text is read back from it (`AccessToken.payload?_encoded`), so that the time of expiry is
the one that the claims in the text name, if they name one (`AccessToken.expiry?_holding`).
-/

namespace Text

section
variable {p : Char → Bool} {cs ds : List Char} {c : Char}

/-- Where nothing is cut, the part goes on. -/
theorem partsFrom_append (h : ∀ c ∈ cs, p c = false) (part : List Char) :
    partsFrom p part (cs ++ ds) = partsFrom p (part ++ cs) ds := by
  induction cs generalizing part with
  | nil => rw [List.nil_append, List.append_nil]
  | cons c cs ih =>
    have ⟨hc, hcs⟩ := List.forall_mem_cons.1 h
    rw [List.cons_append, partsFrom, if_neg (Bool.eq_false_iff.1 hc), ih hcs, List.append_assoc]
    rfl

/-- The first part ends at the first cut. -/
theorem parts_append_cons (h : ∀ c ∈ cs, p c = false) (hc : p c = true) :
    parts p (cs ++ c :: ds) = cs :: parts p ds := by
  rw [parts, partsFrom_append h, partsFrom, if_pos hc]
  rfl

/-- The first part ends where the text ends, or at the first cut. -/
theorem getElem?_zero_parts (h : ∀ c ∈ cs, p c = false) (hds : ∀ d ∈ ds.head?, p d = true) :
    (parts p (cs ++ ds))[0]? = some cs := by
  cases ds with
  | nil =>
    rw [parts, partsFrom_append h]
    rfl
  | cons d ds => rw [parts_append_cons h (hds d rfl), List.getElem?_cons_zero]

/-- Copies of a character at the end are dropped, up to a character that does not go. -/
theorem dropEndWhile_append_replicate (h : ∀ c ∈ cs, p c = false) (hc : p c = true) (n : Nat) :
    dropEndWhile p (cs ++ List.replicate n c) = cs := by
  have hcs : cs.reverse.dropWhile p = cs.reverse := by
    refine List.dropWhile_eq_self_iff.2 fun hlt => ?_
    exact Bool.eq_false_iff.1 (h _ (List.mem_reverse.1 (List.getElem_mem hlt)))
  simp [dropEndWhile, hc, hcs]

end

end Text

namespace AccessToken

open Text

/-- The characters of a text in base 64. -/
def encoded (text : String) : List Char := Base64Url.encode text.toUTF8.data.toList

/-- A token that holds a text, padded by so many signs. -/
def holding (header text : String) (padding : Nat) (remainder : String) : String :=
  header ++ "." ++ String.ofList (encoded text ++ List.replicate padding '=') ++ remainder

/-- A character outside of the alphabet is in no text in base 64. -/
theorem ne_of_mem_encoded {text : String} {c d : Char} (hc : c ∈ encoded text)
    (hd : d ∉ Base64Url.alphabet) : (c == d) = false :=
  beq_false_of_ne fun heq => hd (heq ▸ Base64Url.mem_alphabet_of_mem_encode hc)

/-- The text is read back, whatever the padding. -/
theorem payload?_encoded (text : String) (padding : Nat) :
    payload? (encoded text ++ List.replicate padding '=') = some text := by
  have hbare : ∀ c ∈ encoded text, (c == '=') = false := fun c hc =>
    ne_of_mem_encoded hc (by decide)
  have htext : String.fromUTF8? ⟨text.toUTF8.data.toList.toArray⟩ = some text := by
    simp only [Array.toArray_toList, String.fromUTF8?, String.toUTF8_eq_toByteArray,
      dif_pos text.isValidUTF8]
    rfl
  rw [payload?, dropEndWhile_append_replicate hbare (by decide), encoded,
    Base64Url.decode?_encode]
  exact htext

/-- The second part of the token is the text in base 64 with its padding. -/
theorem getElem?_parts_holding {header remainder : String} (text : String) (padding : Nat)
    (hheader : '.' ∉ header.toList) (hremainder : ∀ c ∈ remainder.toList.head?, c = '.') :
    (parts (· == '.') (holding header text padding remainder).toList)[1]? =
      some (encoded text ++ List.replicate padding '=') := by
  have hfirst : ∀ c ∈ header.toList, (c == '.') = false := fun c hc =>
    beq_false_of_ne fun heq => hheader (heq ▸ hc)
  have hsecond : ∀ c ∈ encoded text ++ List.replicate padding '=', (c == '.') = false := by
    intro c hc
    obtain hc | hc := List.mem_append.1 hc
    · exact ne_of_mem_encoded hc (by decide)
    · rw [List.eq_of_mem_replicate hc]
      rfl
  have hsplit : (holding header text padding remainder).toList = header.toList ++
      '.' :: (encoded text ++ List.replicate padding '=' ++ remainder.toList) := by
    simp [holding]
  rw [hsplit, parts_append_cons hfirst rfl, List.getElem?_cons_succ]
  exact getElem?_zero_parts hsecond fun c hc => beq_iff_eq.2 (hremainder c hc)

/-- The claims name the time: an integer that a signed 64-bit word holds, and a point in time of the
calendar. -/
structure NamesExpiry (claims : Json.Value) (seconds : Int) : Prop where
  exp : claims.get? "exp" = some (.int seconds)
  word : -2 ^ 63 ≤ seconds ∧ seconds < 2 ^ 63
  calendar : Timestamp.first ≤ seconds ∧ seconds ≤ Timestamp.last

/-- Only an integer is read as one. -/
theorem int?_eq_some_iff {v : Json.Value} {n : Int} : v.int? = some n ↔ v = .int n := by
  cases v <;> simp [Json.Value.int?]

/-- Claims are read as having a time of expiry exactly when they name it. -/
theorem expiryIn?_eq_some_iff {claims : Json.Value} {seconds : Int} :
    expiryIn? claims = some seconds ↔ NamesExpiry claims seconds := by
  have hexp : (claims.get? "exp").bind Json.Value.int? = some seconds ↔
      claims.get? "exp" = some (.int seconds) := by
    simp [Option.bind_eq_some_iff, int?_eq_some_iff]
  -- The calendar lies within a word, so that the lower bound of the word needs no test.
  have hrange : (seconds ≤ maxSigned64 && Timestamp.inCalendar seconds) = true ↔
      (-2 ^ 63 ≤ seconds ∧ seconds < 2 ^ 63) ∧
        Timestamp.first ≤ seconds ∧ seconds ≤ Timestamp.last := by
    have hmax : maxSigned64 = 2 ^ 63 - 1 := rfl
    simp only [Timestamp.inCalendar, Bool.and_eq_true, decide_eq_true_eq]
    simp only [hmax, Timestamp.first, Timestamp.last]
    omega
  calc expiryIn? claims = some seconds
      ↔ (claims.get? "exp").bind Json.Value.int? = some seconds ∧
          (seconds ≤ maxSigned64 && Timestamp.inCalendar seconds) = true := by
        simp only [expiryIn?, Option.bind_eq_bind, Option.bind_eq_some_iff,
          Option.ite_none_right_eq_some, Option.some.injEq]
        grind
    _ ↔ NamesExpiry claims seconds := by
        rw [hexp, hrange]
        exact ⟨fun ⟨h, hw, hc⟩ => ⟨h, hw, hc⟩, fun h => ⟨h.exp, h.word, h.calendar⟩⟩

/-- **Expiry is read back from every token.** A token that holds claims, behind a header without a
dot, with any padding, and with nothing behind it or a dot and anything, expires at the time that
the claims name; where they name none, it has no time of expiry. -/
theorem expiry?_holding {header text remainder : String} {claims : Json.Value} (padding : Nat)
    (hheader : '.' ∉ header.toList) (hremainder : remainder = "" ∨ ∃ rest, remainder = "." ++ rest)
    (hclaims : Json.parse? text = some claims) :
    (∀ seconds, expiry? (holding header text padding remainder) = some seconds ↔
      NamesExpiry claims seconds) ∧
    (expiry? (holding header text padding remainder) = none ↔
      ¬∃ seconds, NamesExpiry claims seconds) := by
  have hhead : ∀ c ∈ remainder.toList.head?, c = '.' := by
    obtain rfl | ⟨rest, rfl⟩ := hremainder <;> simp
  have hread : expiry? (holding header text padding remainder) = expiryIn? claims := by
    simp only [expiry?, getElem?_parts_holding text padding hheader hhead, Option.bind_eq_bind,
      Option.bind_some, payload?_encoded, hclaims]
  rw [hread]
  refine ⟨fun seconds => expiryIn?_eq_some_iff, ?_⟩
  simp only [Option.eq_none_iff_forall_ne_some, ne_eq, expiryIn?_eq_some_iff, not_exists]

/-- A token with one sign of padding and a signature. -/
theorem expiry?_holding_padded :
    expiry? (holding "head" "\x7b\"exp\":1700000000\x7d" 1 ".sign") = some 1700000000 := by
  have hread : (Json.parse? "\x7b\"exp\":1700000000\x7d").bind expiryIn? = some 1700000000 := by
    decide +kernel
  obtain ⟨claims, hclaims, hexpiry⟩ := Option.bind_eq_some_iff.1 hread
  have hremainder : ".sign" = "." ++ "sign" := by decide
  exact ((expiry?_holding 1 (by decide) (.inr ⟨"sign", hremainder⟩) hclaims).1 1700000000).2
    (expiryIn?_eq_some_iff.1 hexpiry)

end AccessToken

end FeedQuery
