import FeedQuery.Text
import Mathlib.Data.List.DropRight

/-!
# Facts about texts

Places in bytes cut a text where characters end; blanks at the ends of a text make no difference to
what is left of it; and numerals are read as the numbers that they write.
-/

namespace FeedQuery.Text

/-!
## Places in bytes

A place that is the end of a character cuts a text in two, and the bytes before it are those of the
characters before it. So the characters between two such places are the slice of the text there
(`Text.sliceBytes?_append`).
-/

@[simp] theorem byteSize_nil : byteSize [] = 0 := rfl

@[simp] theorem byteSize_cons (c : Char) (cs : List Char) :
    byteSize (c :: cs) = c.utf8Size + byteSize cs := rfl

@[simp] theorem byteSize_append (cs ds : List Char) :
    byteSize (cs ++ ds) = byteSize cs + byteSize ds := by
  induction cs with
  | nil => simp
  | cons c cs ih => simp [ih, Nat.add_assoc]

/-- Every character has a byte. -/
theorem byteSize_pos {cs : List Char} (h : cs ≠ []) : 0 < byteSize cs := by
  cases cs with
  | nil => exact absurd rfl h
  | cons c cs => exact Nat.add_pos_left c.utf8Size_pos _

/-- The bytes of the first part of a text hold that part. -/
theorem takeBytes_append (cs ds : List Char) : takeBytes (byteSize cs) (cs ++ ds) = cs := by
  induction cs with
  | nil =>
    cases ds with
    | nil => rfl
    | cons d ds =>
      have hd := d.utf8Size_pos
      rw [List.nil_append, byteSize_nil, takeBytes, if_neg (by omega)]
  | cons c cs ih =>
    rw [List.cons_append, byteSize_cons, takeBytes, if_pos (by omega), Nat.add_sub_cancel_left, ih]

/-- The bytes of a text are those of its characters. -/
theorem utf8ByteSize_ofList (cs : List Char) : (String.ofList cs).utf8ByteSize = byteSize cs := by
  induction cs with
  | nil => rfl
  | cons c cs ih =>
    rw [String.ofList_cons, String.utf8ByteSize_append, String.utf8ByteSize_singleton, ih,
      byteSize_cons]

/-- All bytes of a text hold the text. -/
theorem takeBytes_utf8ByteSize (s : String) : takeBytes s.utf8ByteSize s.toList = s.toList := by
  have htake := takeBytes_append s.toList []
  rwa [← utf8ByteSize_ofList, String.ofList_toList, List.append_nil] at htake

/-- The bytes of the middle part of a text hold that part. -/
theorem sliceBytes?_append (before cs after : List Char) :
    sliceBytes? (byteSize before) (byteSize (before ++ cs)) (before ++ cs ++ after) = some cs := by
  have hbefore : takeBytes (byteSize before) (before ++ cs ++ after) = before := by
    rw [List.append_assoc]
    exact takeBytes_append ..
  have hinside : takeBytes (byteSize (before ++ cs) - byteSize before)
      ((before ++ cs ++ after).drop before.length) = cs := by
    rw [byteSize_append, Nat.add_sub_cancel_left, List.append_assoc, List.drop_left]
    exact takeBytes_append ..
  rw [sliceBytes?, hbefore, hinside, if_pos ⟨by simp, rfl, by simp⟩]

/-!
## Blanks at the ends

A text is what is left of it without the blanks at its end, and these blanks
(`Text.exists_trimEndChars_append`). Blanks at the end make no difference
(`Text.trimEndChars_append_of_blank`), and before something that is not blank nothing is cut
(`Text.trimEndChars_append_of_bare`). A text that starts with no blank keeps its start, so what is
left of a text without the blanks at both ends starts and ends with no blank.
-/

/-- The text does not end in a blank. -/
def EndsBare (cs : List Char) : Prop := ∀ hne : cs ≠ [], ¬isBlank (cs.getLast hne) = true

instance : DecidablePred EndsBare := fun cs => inferInstanceAs (Decidable (∀ _ : cs ≠ [], _))

/-- The text does not start with a blank. -/
def StartsBare (cs : List Char) : Prop := cs.head?.any isBlank = false

section
variable {cs ds : List Char} {c : Char}

/-- Cutting the blanks at the end is dropping them from the right. -/
theorem trimEndChars_eq_rdropWhile (cs : List Char) : trimEndChars cs = cs.rdropWhile isBlank := rfl

/-- What is left without the blanks at the end ends in none. -/
theorem endsBare_trimEndChars (cs : List Char) : EndsBare (trimEndChars cs) :=
  fun hne => List.rdropWhile_last_not isBlank cs hne

/-- Nothing is cut at the end exactly when no blank is there. -/
theorem trimEndChars_eq_self_iff : trimEndChars cs = cs ↔ EndsBare cs :=
  List.rdropWhile_eq_self_iff

/-- A text is what is left of it without the blanks at its end, and these. -/
theorem exists_trimEndChars_append (cs : List Char) :
    ∃ blanks, trimEndChars cs ++ blanks = cs ∧ ∀ c ∈ blanks, isBlank c = true :=
  ⟨cs.rtakeWhile isBlank, List.rdropWhile_append_rtakeWhile .., fun _ => List.mem_rtakeWhile_imp⟩

/-- Blanks at the end of a text make no difference. -/
theorem trimEndChars_append_of_blank (h : ∀ d ∈ ds, isBlank d = true) :
    trimEndChars (cs ++ ds) = trimEndChars cs := by
  induction ds using List.reverseRecOn with
  | nil => rw [List.append_nil]
  | append_singleton ds d ih =>
    rw [trimEndChars_eq_rdropWhile, ← List.append_assoc,
      List.rdropWhile_concat_pos _ _ _ (h d (by simp))]
    exact ih fun e he => h e (List.mem_append_left _ he)

/-- Before a text that does not end in a blank, nothing is cut. -/
theorem trimEndChars_append_of_bare (h : EndsBare ds) (hne : ds ≠ []) :
    trimEndChars (cs ++ ds) = cs ++ ds := by
  refine trimEndChars_eq_self_iff.2 fun hne' => ?_
  rw [List.getLast_append_of_ne_nil _ hne]
  exact h hne

/-- Before a text that is not blank, nothing is cut but what is cut from that text. -/
theorem trimEndChars_append (h : trimEndChars ds ≠ []) :
    trimEndChars (cs ++ ds) = cs ++ trimEndChars ds := by
  obtain ⟨blanks, hsplit, hblanks⟩ := exists_trimEndChars_append ds
  calc
    trimEndChars (cs ++ ds) = trimEndChars (cs ++ trimEndChars ds ++ blanks) := by
      rw [List.append_assoc, hsplit]
    _ = trimEndChars (cs ++ trimEndChars ds) := trimEndChars_append_of_blank hblanks
    _ = cs ++ trimEndChars ds := trimEndChars_append_of_bare (endsBare_trimEndChars ds) h

/-- What is left without the blanks at the end is the start of the text. -/
theorem trimEndChars_isPrefix (cs : List Char) : trimEndChars cs <+: cs :=
  List.rdropWhile_prefix isBlank cs

/-- Nothing new is in what is left of a text. -/
theorem mem_of_mem_trimEndChars (h : c ∈ trimEndChars cs) : c ∈ cs :=
  (trimEndChars_isPrefix cs).subset h

/-! ### Blanks at the start -/

/-- What is left without the blanks at the start starts with none. -/
theorem startsBare_trimStartChars (cs : List Char) : StartsBare (trimStartChars cs) := by
  have hnot := List.head?_dropWhile_not isBlank cs
  rw [StartsBare, trimStartChars]
  cases hhead : (cs.dropWhile isBlank).head? with
  | none => rfl
  | some c => simpa [hhead] using hnot

/-- A text starts as its first part does. -/
theorem StartsBare.of_isPrefix (h : StartsBare cs) (hds : ds <+: cs) : StartsBare ds := by
  obtain ⟨rest, rfl⟩ := hds
  cases ds with
  | nil => rfl
  | cons d ds => exact h

/-- Nothing is cut at the start of a text that starts with no blank. -/
theorem trimStartChars_eq_self (h : StartsBare cs) : trimStartChars cs = cs := by
  cases cs with
  | nil => rfl
  | cons c cs => exact List.dropWhile_cons_of_neg (Bool.eq_false_iff.1 h)

/-- A character that is not blank stays, whatever is cut behind it. -/
theorem trimEndChars_cons (hc : isBlank c = false) :
    trimEndChars (c :: cs) = c :: trimEndChars cs := by
  by_cases hcs : trimEndChars cs = []
  · have hblank : ∀ d ∈ cs, isBlank d = true := List.rdropWhile_eq_nil_iff.1 hcs
    have hbare : EndsBare [c] := fun _ => Bool.eq_false_iff.1 hc
    rw [hcs, ← List.singleton_append, trimEndChars_append_of_blank hblank]
    exact trimEndChars_eq_self_iff.2 hbare
  · exact (trimEndChars_append hcs : trimEndChars ([c] ++ cs) = [c] ++ trimEndChars cs)

/-- A text of which nothing is left is blank. -/
theorem isBlank_of_trimChars_eq_nil (h : trimChars cs = []) : ∀ c ∈ cs, isBlank c = true := by
  have hblank : ∀ c ∈ trimStartChars cs, isBlank c = true := List.rdropWhile_eq_nil_iff.1 h
  have hbare := startsBare_trimStartChars cs
  cases hstart : trimStartChars cs with
  | nil => exact List.dropWhile_eq_nil_iff.1 hstart
  | cons c cs =>
    rw [hstart] at hblank hbare
    exact absurd (hblank c (.head _)) (Bool.eq_false_iff.1 hbare)

end

/-!
## What numerals write

A text is read as a number exactly when it is made of decimal digits, perhaps behind a plus sign,
and the number is within the bound (`Text.unsigned?_eq_some_iff`).
-/

/-- Decimal digits that write a number; zeros in front do not matter. -/
def Writes (cs : List Char) (n : Nat) : Prop :=
  cs ≠ [] ∧ (∀ c ∈ cs, c.isDigit = true) ∧ Nat.ofDigitChars 10 cs 0 = n

/-- Characters are read as the number that they write, and as no other. -/
theorem digits?_eq_some_iff {cs : List Char} {n : Nat} : digits? cs = some n ↔ Writes cs n := by
  have hvalue : cs.foldl (fun n c => n * 10 + (c.toNat - '0'.toNat)) 0 =
      Nat.ofDigitChars 10 cs 0 := by
    simp only [Nat.ofDigitChars, Nat.mul_comm]
  have hdigits : (!cs.isEmpty && cs.all fun c => '0' ≤ c && c ≤ '9') = true ↔
      cs ≠ [] ∧ ∀ c ∈ cs, c.isDigit = true := by
    simp [Char.isDigit, Char.le_def]
  rw [digits?, hvalue]
  split
  case isTrue h =>
    obtain ⟨hne, hall⟩ := hdigits.1 h
    exact ⟨fun heq => ⟨hne, hall, Option.some.inj heq⟩, fun hw => congrArg some hw.2.2⟩
  case isFalse h => exact ⟨nofun, fun hw => absurd (hdigits.2 ⟨hw.1, hw.2.1⟩) h⟩

/-- Decimal digits that write a number, perhaps behind a plus sign. -/
def IsNumeral (s : String) (n : Nat) : Prop :=
  ∃ ds, Writes ds n ∧ (s.toList = ds ∨ s.toList = '+' :: ds)

/-- A text is read as the number that it writes. -/
theorem unsigned?_eq_some_iff {bound n : Nat} {s : String} :
    unsigned? bound s = some n ↔ IsNumeral s n ∧ n ≤ bound := by
  have hsign {ds : List Char} : ¬ Writes ('+' :: ds) n := fun hw =>
    absurd (hw.2.1 '+' (.head _)) (by decide)
  have hbound (number : Option Nat) : (number.bind fun m => if m ≤ bound then some m else none) =
      some n ↔ number = some n ∧ n ≤ bound := by
    simp only [Option.bind_eq_some_iff, Option.ite_none_right_eq_some, Option.some.injEq]
    constructor
    · rintro ⟨m, hm, hle, rfl⟩
      exact ⟨hm, hle⟩
    · rintro ⟨hn, hle⟩
      exact ⟨n, hn, hle, rfl⟩
  simp only [unsigned?]
  split
  case h_1 rest hs =>
    rw [hbound, digits?_eq_some_iff]
    refine and_congr_left' ⟨fun hw => ⟨rest, hw, .inr hs⟩, ?_⟩
    rintro ⟨ds, hw, heq | heq⟩
    · exact absurd (hs ▸ heq ▸ hw) hsign
    · obtain rfl : rest = ds := (List.cons.inj (hs.symm.trans heq)).2
      exact hw
  case h_2 hs =>
    rw [hbound, digits?_eq_some_iff]
    refine and_congr_left' ⟨fun hw => ⟨s.toList, hw, .inl rfl⟩, ?_⟩
    rintro ⟨ds, hw, rfl | heq⟩
    · exact hw
    · exact absurd heq (hs ds)

end FeedQuery.Text
