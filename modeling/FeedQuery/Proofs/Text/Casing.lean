import FeedQuery.Proofs.Text
import FeedQuery.Text.Casing

/-!
# Facts about letter case

Texts in lower case stay as they are in lower case (`Text.lowerChars_eq_self`). The place of a
letter matters for the capital sigma only (`Text.lowerBetween_eq_iff`), and upper case makes no
difference to blanks (`Text.mem_upperChars_iff`).
-/

namespace FeedQuery.Text

/-!
## Lower case is final

Texts in lower case stay as they are when they are put in lower case again
(`Text.lowerChars_eq_self`). A character is settled (`Text.Settled`) if lower case leaves it alone
wherever it stands; every character of a text in lower case is settled
(`Text.settled_of_mem_lowerFrom`).

For the runs of the table that is a matter of two sets of characters: no image of a run is in any
run. The sets are written as numbers, one bit to a character, so that they can be compared at once
(`Text.Casing.disjoint_images`).
-/

namespace Casing

/-! ### Sets of characters as bits -/

/-- The bits of the numbers for the items of a list. -/
def union {α : Type} (f : α → Nat) (l : List α) : Nat := l.foldl (fun bits a => bits ||| f a) 0

/-- A bit of a union is set exactly when it is in one of the sets. -/
theorem testBit_union {α : Type} (f : α → Nat) (l : List α) (n : Nat) :
    (union f l).testBit n = l.any fun a => (f a).testBit n := by
  have hfold (bits : Nat) : (l.foldl (fun bits a => bits ||| f a) bits).testBit n =
      (bits.testBit n || l.any fun a => (f a).testBit n) := by
    induction l generalizing bits with
    | nil => simp
    | cons a l ih => rw [List.foldl_cons, ih, Nat.testBit_or, List.any_cons, Bool.or_assoc]
  rw [union, hfold, Nat.zero_testBit, Bool.false_or]

/-- The number of characters of a run. -/
def Run.count (r : Run) : Nat := (r.last - r.first) / r.step + 1

/-- The characters of a run as bits. -/
def Run.bits (r : Run) : Nat := union (fun k => 1 <<< (r.first + k * r.step)) (List.range r.count)

/-- The images of the characters of a run as bits. -/
def Run.imageBits (r : Run) : Nat :=
  match r.shift with
  | .ofNat s => r.bits <<< s
  | .negSucc s => r.bits >>> (s + 1)

/-- The image of a character of a run. -/
def Run.image (r : Run) (n : Nat) : Nat := ((n : Int) + r.shift).toNat

/-- The characters of a run are in its set. -/
theorem Run.testBit_bits {r : Run} (h : r.covers n = true) : r.bits.testBit n = true := by
  obtain ⟨⟨hfirst, hlast⟩, hstep⟩ : (r.first ≤ n ∧ n ≤ r.last) ∧ (n - r.first) % r.step = 0 := by
    simpa [covers] using h
  have hk : (n - r.first) / r.step < r.count :=
    Nat.lt_succ_of_le (Nat.div_le_div_right (Nat.sub_le_sub_right hlast _))
  have hn : r.first + (n - r.first) / r.step * r.step = n := by
    rw [Nat.div_mul_cancel (Nat.dvd_of_mod_eq_zero hstep)]
    omega
  rw [bits, testBit_union, List.any_eq_true]
  exact ⟨_, List.mem_range.2 hk, by rw [hn, Nat.one_shiftLeft, Nat.testBit_two_pow_self]⟩

/-- The images of the characters of a run are in the set of its images. -/
theorem Run.testBit_imageBits {r : Run} (h : r.covers n = true)
    (hr : 0 ≤ (r.first : Int) + r.shift) : r.imageBits.testBit (r.image n) = true := by
  have hbit := testBit_bits h
  obtain ⟨⟨hfirst, -⟩, -⟩ : (r.first ≤ n ∧ n ≤ r.last) ∧ (n - r.first) % r.step = 0 := by
    simpa [covers] using h
  unfold imageBits image
  split
  case h_1 s hs =>
    have hn : ((n : Int) + r.shift).toNat = n + s := by rw [hs]; simp; omega
    rw [hn, Nat.testBit_shiftLeft]
    simpa using hbit
  case h_2 s hs =>
    have hn : s + 1 + ((n : Int) + r.shift).toNat = n := by rw [hs] at hr ⊢; omega
    rw [Nat.testBit_shiftRight, hn, hbit]

/-! ### The tables -/

/-- The runs of all characters with another lower-case character, those of ASCII included. -/
def changingRuns : List Run := ⟨0x41, 0x5A, 1, 32⟩ :: lowerRuns

/-- No image of a run is in any run. -/
theorem disjoint_images : union Run.imageBits lowerRuns &&& union Run.bits changingRuns = 0 := by
  decide +kernel

/-- No letter with a mapping of its own is the image of a character of a run. -/
theorem specials_not_images :
    ∀ entry ∈ lowerSpecials, (union Run.imageBits lowerRuns).testBit entry.1 = false := by
  decide +kernel

/-- The images of a run are numbers of characters. -/
theorem image_range : ∀ r ∈ lowerRuns, 0 ≤ (r.first : Int) + r.shift ∧
    (r.image r.last < 0xD800 ∨ 0xDFFF < r.image r.first ∧ r.image r.last < 0x110000) := by
  decide +kernel

/-- The image of a character of a run is a character, and in no run. -/
theorem covers_image {r s : Run} (hr : r ∈ lowerRuns) (hs : s ∈ changingRuns)
    (h : r.covers n = true) : s.covers (r.image n) = false := by
  cases hc : s.covers (r.image n) with
  | false => rfl
  | true =>
    have himage : (union Run.imageBits lowerRuns).testBit (r.image n) = true := by
      rw [testBit_union, List.any_eq_true]
      exact ⟨r, hr, Run.testBit_imageBits h (image_range r hr).1⟩
    have hsource : (union Run.bits changingRuns).testBit (r.image n) = true := by
      rw [testBit_union, List.any_eq_true]
      exact ⟨s, hs, Run.testBit_bits hc⟩
    have hand := congrArg (Nat.testBit · (r.image n)) disjoint_images
    simp [Nat.testBit_and, himage, hsource] at hand

/-- The number of a character is the number that it was made of. -/
theorem toNat_ofNat {n : Nat} (h : n.isValidChar) : (Char.ofNat n).toNat = n := by
  rw [Char.ofNat, dif_pos h]
  rfl

/-- The image of a character of a run is the number of a character. -/
theorem isValidChar_image {r : Run} (hr : r ∈ lowerRuns) (h : r.covers n = true) :
    (r.image n).isValidChar := by
  obtain ⟨⟨hfirst, hlast⟩, -⟩ : (r.first ≤ n ∧ n ≤ r.last) ∧ (n - r.first) % r.step = 0 := by
    simpa [Run.covers] using h
  obtain ⟨-, hrange⟩ := image_range r hr
  unfold Run.image at hrange ⊢
  unfold Nat.isValidChar
  omega

/-- Where a character of the image of another comes from: from the characters that are listed one by
one, from the runs, or from the character itself. -/
theorem mem_mapped {specials : List (Nat × List Nat)} {runs : List Run} {c d : Char}
    (hd : d ∈ mapped specials runs c) :
    (∃ entry ∈ specials, entry.1 = c.toNat ∧ ∃ n ∈ entry.2, d = Char.ofNat n) ∨
    (∃ r ∈ runs, r.covers c.toNat = true ∧ d = Char.ofNat (r.image c.toNat)) ∨
    (mapped specials runs c = [c] ∧ d = c) := by
  simp only [mapped] at hd ⊢
  split at hd
  case h_1 entry image hfind =>
    obtain ⟨n, hn, rfl⟩ := List.mem_map.1 hd
    have hentry : entry = c.toNat := by simpa using List.find?_some hfind
    exact .inl ⟨(entry, image), List.mem_of_find?_eq_some hfind, hentry, n, hn, rfl⟩
  case h_2 =>
    split at hd
    case h_1 run hfind =>
      have hcovers : run.covers c.toNat = true := by simpa using List.find?_some hfind
      exact .inr (.inl ⟨run, List.mem_of_find?_eq_some hfind, hcovers, List.mem_singleton.1 hd⟩)
    case h_2 => exact .inr (.inr ⟨rfl, List.mem_singleton.1 hd⟩)

end Casing

open Casing

/-! ### Settled characters -/

/-- Lower case leaves the character alone, wherever it stands. -/
def Settled (c : Char) : Prop := c ≠ capitalSigma ∧ lowerChar c = [c]

instance : DecidablePred Settled := fun _ => inferInstanceAs (Decidable (_ ∧ _))

/-- What holds of the characters of ASCII, number by number. -/
theorem forall_ascii {P : Char → Prop} (h : ∀ n < 0x80, P (Char.ofNat n)) {c : Char}
    (hc : c.toNat < 0x80) : P c := by
  have hnumber := h c.toNat hc
  rwa [Char.ofNat_toNat] at hnumber

/-- Inside ASCII, lower case changes the capitals only. -/
theorem lowerLetter_eq_self {c : Char} (hc : c.toNat < 0x80) :
    Run.covers ⟨0x41, 0x5A, 1, 32⟩ c.toNat = false → lowerLetter c = c :=
  @forall_ascii (fun c => Run.covers ⟨0x41, 0x5A, 1, 32⟩ c.toNat = false → lowerLetter c = c)
    (by decide +kernel) c hc

/-- A character in no run and without an image of its own is settled. -/
theorem settled_of_covers (c : Char) (hruns : ∀ r ∈ changingRuns, r.covers c.toNat = false)
    (hspecials : ∀ entry ∈ lowerSpecials, entry.1 ≠ c.toNat) : Settled c := by
  refine ⟨?_, ?_⟩
  · rintro rfl
    exact absurd hruns (by decide)
  · unfold lowerChar
    split
    case isTrue =>
      rw [lowerLetter_eq_self ‹_› (hruns _ (.head _))]
    case isFalse =>
      have hfind : lowerSpecials.find? (·.1 == c.toNat) = none :=
        List.find?_eq_none.2 fun entry he => by simpa using hspecials entry he
      have hfind' : lowerRuns.find? (·.covers c.toNat) = none :=
        List.find?_eq_none.2 fun r hr => by simp [hruns r (.tail _ hr)]
      simp [mapped, hfind, hfind']

/-- Inside ASCII, a letter in lower case is settled. -/
theorem settled_lowerLetter {c : Char} (hc : c.toNat < 0x80) : Settled (lowerLetter c) :=
  @forall_ascii (fun c => Settled (lowerLetter c)) (by decide +kernel) c hc

/-- The letters that a letter with a mapping of its own becomes are settled. -/
theorem settled_lowerSpecials :
    ∀ entry ∈ lowerSpecials, ∀ n ∈ entry.2, Settled (Char.ofNat n) := by
  decide +kernel

/-- Where a character of the lower-case form of another comes from: from the letters of ASCII, from
the characters that are listed one by one, from the runs, or from the character itself. -/
theorem mem_lowerChar {c d : Char} (hd : d ∈ lowerChar c) :
    (c.toNat < 0x80 ∧ d = lowerLetter c) ∨
    (∃ entry ∈ lowerSpecials, ∃ n ∈ entry.2, d = Char.ofNat n) ∨
    (∃ r ∈ lowerRuns, r.covers c.toNat = true ∧ d = Char.ofNat (r.image c.toNat)) ∨
    (lowerChar c = [c] ∧ d = c) := by
  unfold lowerChar at hd ⊢
  split at hd
  case isTrue hascii => exact .inl ⟨hascii, List.mem_singleton.1 hd⟩
  case isFalse hascii =>
    rw [if_neg hascii]
    obtain ⟨entry, he, -, hmem⟩ | hrun | hself := mem_mapped hd
    · exact .inr (.inl ⟨entry, he, hmem⟩)
    · exact .inr (.inr (.inl hrun))
    · exact .inr (.inr (.inr hself))

/-- The image of a character of a run, as a character, has the number of the image. -/
theorem toNat_ofNat_image {r : Run} {n : Nat} (hr : r ∈ lowerRuns) (h : r.covers n = true) :
    (Char.ofNat (r.image n)).toNat = r.image n :=
  toNat_ofNat (isValidChar_image hr h)

/-- The lower-case forms of a character on its own are settled. -/
theorem settled_of_mem_lowerChar {c d : Char} (hc : c ≠ capitalSigma) (hd : d ∈ lowerChar c) :
    Settled d := by
  obtain ⟨hascii, rfl⟩ | ⟨entry, he, n, hn, rfl⟩ | ⟨r, hr, hcovers, rfl⟩ | ⟨hself, rfl⟩ :=
    mem_lowerChar hd
  · exact settled_lowerLetter hascii
  · exact settled_lowerSpecials entry he n hn
  · have hnat := toNat_ofNat_image hr hcovers
    refine settled_of_covers _ (fun s hs => ?_) fun entry he heq => ?_
    · rw [hnat]
      exact covers_image hr hs hcovers
    · have hbit := specials_not_images entry he
      rw [heq, hnat, testBit_union, List.any_eq_false] at hbit
      exact hbit r hr (Run.testBit_imageBits hcovers (image_range r hr).1)
  · exact ⟨hc, hself⟩

/-- Every character of a text in lower case is settled. -/
theorem settled_of_mem_lowerFrom {before cs : List Char} {d : Char}
    (hd : d ∈ lowerFrom before cs) : Settled d := by
  induction cs generalizing before with
  | nil => cases hd
  | cons c cs ih =>
    obtain hd | hd := List.mem_append.1 hd
    · split at hd
      case isTrue =>
        split at hd
        case isTrue => rw [List.mem_singleton.1 hd]; decide
        case isFalse => rw [List.mem_singleton.1 hd]; decide
      case isFalse hc => exact settled_of_mem_lowerChar hc hd
    · exact ih hd

/-- A text of settled characters stays as it is, whatever stands before it. -/
theorem lowerFrom_eq_self {cs : List Char} (h : ∀ c ∈ cs, Settled c) (before : List Char) :
    lowerFrom before cs = cs := by
  induction cs generalizing before with
  | nil => rfl
  | cons c cs ih =>
    have ⟨⟨hc, hlower⟩, hcs⟩ := List.forall_mem_cons.1 h
    rw [lowerFrom, if_neg hc, hlower, ih hcs]
    rfl

/-- Settled characters stay as they are. -/
theorem lowerChars_eq_self {cs : List Char} (h : ∀ c ∈ cs, Settled c) : lowerChars cs = cs :=
  lowerFrom_eq_self h []

/-!
## Lower case in its place

The lower-case form of a letter depends on the place of the letter for the capital sigma only, which
becomes a final sigma where a word ends (`Text.Casing.endsWord`). `Text.lowerBetween` is the
lower-case form of a part of a text. It is the same in two places exactly when each capital sigma of
the part ends a word in both or in neither (`Text.lowerBetween_eq_iff`).
-/

/-- What holds of each place in a list holds of its head and of each place behind it. -/
theorem forall_eq_append_cons {α : Type} {P : List α → α → List α → Prop} {a : α} {as : List α} :
    (∀ pre b post, a :: as = pre ++ b :: post → P pre b post) ↔
      P [] a as ∧ ∀ pre b post, as = pre ++ b :: post → P (a :: pre) b post := by
  constructor
  · intro h
    exact ⟨h [] a as rfl, fun pre b post hsplit => h (a :: pre) b post (by rw [hsplit]; rfl)⟩
  · rintro ⟨hhead, htail⟩ pre b post hsplit
    cases pre with
    | nil =>
      obtain ⟨rfl, rfl⟩ := List.cons.inj hsplit
      exact hhead
    | cons _ pre =>
      obtain ⟨rfl, hrest⟩ := List.cons.inj hsplit
      exact htail pre b post hrest

/-- Whether a word ends at a letter between these characters, those before it latest first. -/
def Casing.endsWord (before after : List Char) : Bool := meetsLetter before && !meetsLetter after


/-- The lower-case form of a character between others, those before it latest first. -/
def lowerAt (before : List Char) (c : Char) (after : List Char) : List Char :=
  if c = capitalSigma then if endsWord before after then ['ς'] else ['σ'] else lowerChar c

/-- The lower-case form of characters between others, those before them latest first. -/
def lowerBetween (before after : List Char) : List Char → List Char
  | [] => []
  | c :: cs => lowerAt before c (cs ++ after) ++ lowerBetween (c :: before) after cs

section
variable {before before' after after' cs : List Char} {c : Char}

/-- A text in lower case is its parts in lower case, each in its place. -/
theorem lowerFrom_append (before cs after : List Char) : lowerFrom before (cs ++ after) =
    lowerBetween before after cs ++ lowerFrom (cs.reverse ++ before) after := by
  induction cs generalizing before with
  | nil => rfl
  | cons c cs ih =>
    have hstep : lowerFrom before (c :: cs ++ after) =
        lowerAt before c (cs ++ after) ++ lowerFrom (c :: before) (cs ++ after) := rfl
    rw [hstep, ih, lowerBetween, List.append_assoc, List.reverse_cons, List.append_assoc,
      List.singleton_append]

/-- The rest of a text is put in lower case as a part with nothing behind it. -/
theorem lowerFrom_eq_lowerBetween (before cs : List Char) :
    lowerFrom before cs = lowerBetween before [] cs := by
  have happend := lowerFrom_append before cs []
  rwa [List.append_nil, lowerFrom, List.append_nil] at happend

/-- The place of a letter does not matter for the number of letters that it becomes. -/
theorem length_lowerAt :
    (lowerAt before c after).length = (lowerAt before' c after').length := by
  unfold lowerAt
  split
  case isTrue => split <;> split <;> rfl
  case isFalse => rfl

/-- The place of a part does not matter for the length of its lower-case form. -/
theorem length_lowerBetween :
    (lowerBetween before after cs).length = (lowerBetween before' after' cs).length := by
  induction cs generalizing before before' with
  | nil => rfl
  | cons c cs ih =>
    rw [lowerBetween, lowerBetween, List.length_append, List.length_append, length_lowerAt,
      @ih _ (c :: before')]

/-- The place matters for a capital sigma that ends a word in one place and none in the other. -/
theorem lowerAt_eq_iff : lowerAt before c after = lowerAt before' c after' ↔
    (c = capitalSigma → endsWord before after = endsWord before' after') := by
  unfold lowerAt
  split
  case isTrue hc => cases endsWord before after <;> cases endsWord before' after' <;> simp [hc]
  case isFalse hc => simp [hc]

/-- Each capital sigma of a part ends a word in both of two places or in neither. -/
def SigmasAlike (before after before' after' cs : List Char) : Prop :=
  ∀ l c r, cs = l ++ c :: r → c = capitalSigma →
    endsWord (l.reverse ++ before) (r ++ after) = endsWord (l.reverse ++ before') (r ++ after')

/-- A part is the same in lower case in two places when its capital sigmas are alike there. -/
theorem lowerBetween_eq_iff : lowerBetween before after cs = lowerBetween before' after' cs ↔
    SigmasAlike before after before' after' cs := by
  induction cs generalizing before before' with
  | nil =>
    refine iff_of_true rfl fun l c r hsplit => ?_
    simp at hsplit
  | cons c cs ih =>
    have hparts : lowerBetween before after (c :: cs) = lowerBetween before' after' (c :: cs) ↔
        lowerAt before c (cs ++ after) = lowerAt before' c (cs ++ after') ∧
          lowerBetween (c :: before) after cs = lowerBetween (c :: before') after' cs := by
      rw [lowerBetween, lowerBetween]
      exact ⟨fun h => List.append_inj h length_lowerAt, fun ⟨h, h'⟩ => by rw [h, h']⟩
    rw [hparts, lowerAt_eq_iff, ih, SigmasAlike, SigmasAlike, forall_eq_append_cons]
    simp

end

/-! ### Dots -/

/-- Inside ASCII, only the dot is a dot in lower case. -/
theorem eq_dot_of_lowerLetter {c : Char} (hc : c.toNat < 0x80) : '.' = lowerLetter c → c = '.' :=
  @forall_ascii (fun c => '.' = lowerLetter c → c = '.') (by decide +kernel) c hc

/-- No letter with a mapping of its own becomes a dot. -/
theorem lowerSpecials_ne_dot : ∀ entry ∈ lowerSpecials, ∀ n ∈ entry.2, '.' ≠ Char.ofNat n := by
  decide +kernel

/-- The images of the runs all come after the dot. -/
theorem lowerRuns_ne_dot : ∀ r ∈ lowerRuns, ('.'.toNat : Int) < r.first + r.shift := by
  decide +kernel

/-- Lower case makes no dots. -/
theorem eq_dot_of_mem_lowerChar {c : Char} (h : '.' ∈ lowerChar c) : c = '.' := by
  obtain ⟨hascii, heq⟩ | ⟨entry, he, n, hn, heq⟩ | ⟨r, hr, hcovers, heq⟩ | ⟨-, heq⟩ :=
    mem_lowerChar h
  · exact eq_dot_of_lowerLetter hascii heq
  · exact absurd heq (lowerSpecials_ne_dot entry he n hn)
  · have hnat := toNat_ofNat_image hr hcovers
    have hlow := lowerRuns_ne_dot r hr
    obtain ⟨⟨hfirst, -⟩, -⟩ : (r.first ≤ c.toNat ∧ c.toNat ≤ r.last) ∧
        (c.toNat - r.first) % r.step = 0 := by simpa [Run.covers] using hcovers
    rw [← heq, Run.image] at hnat
    omega
  · exact heq.symm

/-- A part of a text without a dot has none in lower case, wherever it stands. -/
theorem dot_not_mem_lowerBetween {cs : List Char} (h : '.' ∉ cs) (before after : List Char) :
    '.' ∉ lowerBetween before after cs := by
  induction cs generalizing before with
  | nil => exact List.not_mem_nil
  | cons c cs ih =>
    have ⟨hc, hcs⟩ := not_or.1 (mt List.mem_cons.2 h)
    rw [lowerBetween, List.mem_append, not_or]
    refine ⟨fun hmem => ?_, ih hcs _⟩
    unfold lowerAt at hmem
    split at hmem
    case isTrue => split at hmem <;> exact absurd hmem (by decide)
    case isFalse => exact hc (eq_dot_of_mem_lowerChar hmem).symm

/-!
## Capitals and blanks

Upper case leaves a blank alone and makes no blank of anything else. So a text in capitals holds
the blanks of the text (`Text.mem_upperChars_iff`), and it is cut at its end where the text is cut
(`Text.trimEndChars_upperChars`).
-/

namespace Casing

/-! ### The tables -/

/-- The ranges of the blanks. -/
def blankRanges : List (Nat × Nat) := [
  (0x9, 0xD), (0x20, 0x20), (0x85, 0x85), (0xA0, 0xA0), (0x1680, 0x1680), (0x2000, 0x200A),
  (0x2028, 0x2029), (0x202F, 0x202F), (0x205F, 0x205F), (0x3000, 0x3000)]

/-- The blanks are a class of characters that is listed by its ranges. -/
theorem isBlank_eq_inRanges (c : Char) : isBlank c = inRanges blankRanges c.toNat := by
  rw [Bool.eq_iff_iff]
  simp [isBlank, inRanges, blankRanges]
  omega

/-- A number outside of these ranges is the number of no blank. -/
theorem isBlank_ofNat {n : Nat} (h : inRanges blankRanges n = false) :
    isBlank (Char.ofNat n) = false := by
  rw [isBlank_eq_inRanges]
  by_cases hn : n.isValidChar
  · rwa [toNat_ofNat hn]
  · rw [Char.ofNat, dif_neg hn]
    decide

/-- No blank is in a run of the table, and none is an image of one. -/
theorem upperRuns_bare : ∀ r ∈ upperRuns, ∀ blank ∈ blankRanges,
    (r.last < blank.1 ∨ blank.2 < r.first) ∧
      (r.image r.last < blank.1 ∨ blank.2 < r.image r.first) := by
  decide +kernel

/-- A letter with a mapping of its own is no blank, and becomes letters of which none is. -/
theorem upperSpecials_bare : ∀ entry ∈ upperSpecials, inRanges blankRanges entry.1 = false ∧
    entry.2 ≠ [] ∧ ∀ n ∈ entry.2, inRanges blankRanges n = false := by
  decide +kernel

/-- No character of a run of capitals is a blank, and neither is its image. -/
theorem inRanges_of_covers {r : Run} (hr : r ∈ upperRuns) {n : Nat} (h : r.covers n = true) :
    inRanges blankRanges n = false ∧ inRanges blankRanges (r.image n) = false := by
  obtain ⟨⟨hfirst, hlast⟩, -⟩ : (r.first ≤ n ∧ n ≤ r.last) ∧ (n - r.first) % r.step = 0 := by
    simpa [Run.covers] using h
  have hbare := upperRuns_bare r hr
  unfold Run.image at hbare ⊢
  constructor <;> refine List.any_eq_false.2 fun blank hblank => ?_
  · have := (hbare blank hblank).1
    simp only [Bool.and_eq_true, decide_eq_true_eq]
    omega
  · have := (hbare blank hblank).2
    simp only [Bool.and_eq_true, decide_eq_true_eq]
    omega

/-! ### Characters -/

/-- Inside ASCII, what upper case changes is no blank and becomes none. -/
theorem upperLetter_bare {c : Char} (hc : c.toNat < 0x80) :
    isBlank c = false ∧ isBlank (upperLetter c) = false ∨ upperLetter c = c :=
  @forall_ascii (fun c => isBlank c = false ∧ isBlank (upperLetter c) = false ∨ upperLetter c = c)
    (by decide +kernel) c hc

/-- No character is lost in upper case. -/
theorem upperChar_ne_nil (c : Char) : upperChar c ≠ [] := by
  unfold upperChar mapped
  split
  case isTrue => exact List.cons_ne_nil _ _
  case isFalse =>
    simp only
    split
    case h_1 entry image hfind =>
      have hentry := upperSpecials_bare _ (List.mem_of_find?_eq_some hfind)
      exact mt List.map_eq_nil_iff.1 hentry.2.1
    case h_2 => split <;> exact List.cons_ne_nil _ _

/-- The upper-case form of a character is that character, or neither holds a blank. -/
theorem mem_upperChar {c d : Char} (hd : d ∈ upperChar c) :
    isBlank c = false ∧ isBlank d = false ∨ upperChar c = [c] ∧ d = c := by
  unfold upperChar at hd ⊢
  split at hd
  case isTrue hascii =>
    rw [if_pos hascii, List.mem_singleton.1 hd]
    exact (upperLetter_bare hascii).imp_right fun hself => ⟨by rw [hself], hself⟩
  case isFalse hascii =>
    rw [if_neg hascii]
    obtain ⟨entry, he, hc, n, hn, rfl⟩ | ⟨r, hr, hcovers, rfl⟩ | hself := mem_mapped hd
    · obtain ⟨hentry, -, himage⟩ := upperSpecials_bare entry he
      exact .inl ⟨by rw [isBlank_eq_inRanges, ← hc, hentry], isBlank_ofNat (himage n hn)⟩
    · obtain ⟨hbare, himage⟩ := inRanges_of_covers hr hcovers
      exact .inl ⟨by rw [isBlank_eq_inRanges, hbare], isBlank_ofNat himage⟩
    · exact .inr hself

/-- A blank is its own upper case. -/
theorem upperChar_of_isBlank {c : Char} (hc : isBlank c = true) : upperChar c = [c] := by
  obtain ⟨d, hd⟩ := List.exists_mem_of_ne_nil _ (upperChar_ne_nil c)
  obtain ⟨hbare, -⟩ | ⟨hself, -⟩ := mem_upperChar hd
  · rw [hbare] at hc
    cases hc
  · exact hself

/-- Upper case makes blanks of blanks only, and of these nothing else. -/
theorem isBlank_of_mem_upperChar {c d : Char} (hd : d ∈ upperChar c) : isBlank d = isBlank c := by
  obtain ⟨hc, hd⟩ | ⟨-, rfl⟩ := mem_upperChar hd
  · rw [hc, hd]
  · rfl

end Casing


/-! ### Texts -/

section
variable {cs : List Char}

/-- The upper case of a text is put together from that of its parts. -/
theorem upperChars_append (cs ds : List Char) :
    upperChars (cs ++ ds) = upperChars cs ++ upperChars ds := List.flatMap_append ..

/-- Characters that are their own upper-case forms stay as they are. -/
theorem upperChars_eq_self (h : ∀ c ∈ cs, upperChar c = [c]) : upperChars cs = cs := by
  calc
    upperChars cs = cs.flatMap fun c => [c] := List.flatMap_congr h
    _ = cs := List.flatMap_singleton' cs

/-- A text of blanks stays as it is in upper case. -/
theorem upperChars_of_blank (h : ∀ c ∈ cs, isBlank c = true) : upperChars cs = cs :=
  upperChars_eq_self fun c hc => upperChar_of_isBlank (h c hc)

/-- A text in capitals holds the blanks of the text. -/
theorem mem_upperChars_iff {blank : Char} (hblank : isBlank blank = true) :
    blank ∈ upperChars cs ↔ blank ∈ cs := by
  constructor
  · intro hmem
    obtain ⟨c, hc, hmem⟩ := List.mem_flatMap.1 hmem
    have hc' : isBlank c = true := (isBlank_of_mem_upperChar hmem).symm.trans hblank
    rw [upperChar_of_isBlank hc', List.mem_singleton] at hmem
    rwa [hmem]
  · intro hmem
    refine List.mem_flatMap.2 ⟨blank, hmem, ?_⟩
    rw [upperChar_of_isBlank hblank]
    exact .head _

/-- A text that ends in no blank ends in none in upper case. -/
theorem endsBare_upperChars (h : EndsBare cs) : EndsBare (upperChars cs) := by
  obtain rfl | ⟨cs, c, rfl⟩ := cs.eq_nil_or_concat'
  · exact h
  have hc : isBlank c = false := by
    simpa using h (List.append_ne_nil_of_right_ne_nil _ (List.cons_ne_nil _ _))
  have hlast : EndsBare (upperChars [c]) := by
    intro hne
    have hmem : (upperChars [c]).getLast hne ∈ upperChar c := by simp [upperChars]
    rw [isBlank_of_mem_upperChar hmem, hc]
    decide
  have hne : upperChars [c] ≠ [] := by
    rw [upperChars, List.flatMap_singleton]
    exact upperChar_ne_nil c
  rw [upperChars_append]
  exact trimEndChars_eq_self_iff.1 (trimEndChars_append_of_bare hlast hne)

/-- A text in capitals is cut at its end where the text is cut. -/
theorem trimEndChars_upperChars (cs : List Char) :
    trimEndChars (upperChars cs) = upperChars (trimEndChars cs) := by
  obtain ⟨blanks, hsplit, hblanks⟩ := exists_trimEndChars_append cs
  have hupper : upperChars cs = upperChars (trimEndChars cs) ++ blanks := by
    rw [← congrArg upperChars hsplit, upperChars_append, upperChars_of_blank hblanks]
  calc
    trimEndChars (upperChars cs) = trimEndChars (upperChars (trimEndChars cs)) := by
      rw [hupper, trimEndChars_append_of_blank hblanks]
    _ = upperChars (trimEndChars cs) :=
      trimEndChars_eq_self_iff.2 (endsBare_upperChars (endsBare_trimEndChars cs))

end

end FeedQuery.Text
