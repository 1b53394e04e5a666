import FeedQuery.Completion
import FeedQuery.Proofs.Text
import FeedQuery.Proofs.Text.Casing

/-!
# Hints and completions agree

Hints and completions are about the last word of what has been entered (`Completion.IsLastWord`). A
hint is the rest of a name, and the name is among the completions of the line
(`Completion.hint_completed`). A completion of a line that is no command is a name that starts with
the word, letter case aside: in upper case for a keyword, and in lower case for a table.
-/

namespace FeedQuery.Completion

/-! ## The last word -/

/-- The word is the last one of a line: it holds no break, and it stands at the start of the line or
behind a break. -/
structure IsLastWord (line before word : List Char) : Prop where
  split : before ++ word = line
  unbroken : ∀ c ∈ word, isBreak c = false
  behind : ∀ hne : before ≠ [], isBreak (before.getLast hne) = true

/-- The last word of a line stands where it should. -/
theorem isLastWord_lastWord (line : List Char) :
    IsLastWord line (beforeWord line) (lastWord line) where
  split := List.rdropWhile_append_rtakeWhile ..
  unbroken := fun c hc => by simpa using List.mem_rtakeWhile_imp hc
  behind := by
    intro hne
    have hlast : ¬ (!isBreak ((beforeWord line).getLast hne)) = true :=
      List.rdropWhile_last_not (!isBreak ·) line hne
    simpa using hlast

/-- A line without a break is a word. -/
theorem isLastWord_of_unbroken {line : List Char} (h : ∀ c ∈ line, isBreak c = false) :
    IsLastWord line [] line :=
  ⟨rfl, h, fun hne => absurd rfl hne⟩

/-! ## Names -/

/-- A name continues what it starts with. -/
theorem continues_iff {start : List Char} {name : String} :
    continues start name = true ↔ start <+: name.toList := List.isPrefixOf_iff_prefix

/-- A line ends in `FROM` when that is the end of it without blanks. -/
theorem endsInFrom_iff {line : List Char} :
    endsInFrom line = true ↔ "FROM".toList <:+ Text.trimEndChars line := by
  rw [endsInFrom, List.isPrefixOf_iff_prefix, List.reverse_prefix]

/-- A rest is what a name on the list has after the word, and it is not empty. -/
theorem exists_of_restOf? {names : List (String × String)} {word : List Char} {rest : String}
    (h : restOf? names word = some rest) :
    ∃ entry ∈ names, word <+: entry.1.toList ∧ String.ofList word ++ rest = entry.1 ∧
      rest ≠ "" := by
  obtain ⟨entry, hfind, rfl⟩ := Option.map_eq_some_iff.1 h
  have hmem := List.mem_of_find?_eq_some hfind
  obtain ⟨hstart, hother⟩ : word <+: entry.1.toList ∧ entry.1.toList ≠ word := by
    simpa [continues_iff] using List.find?_some hfind
  obtain ⟨rest, hrest⟩ := hstart
  rw [← hrest, List.drop_left]
  refine ⟨entry, hmem, ⟨rest, hrest⟩, ?_, fun hempty => ?_⟩
  · rw [← String.ofList_append, hrest, String.ofList_toList]
  · have hnil : rest = [] := by simpa using hempty
    rw [hnil, List.append_nil] at hrest
    exact hother hrest.symm

section
variable {entry : String × String}

/-- The commands are words. -/
theorem unbroken_of_mem_commands (h : entry ∈ commands) :
    ∀ c ∈ entry.1.toList, isBreak c = false := by
  -- checked by `all`, so that it runs over the characters of the names and not over all there are
  have hall : ∀ entry ∈ commands, entry.1.toList.all (!isBreak ·) = true := by decide +kernel
  simpa using hall entry h

/-- The keywords are in upper case. -/
theorem upperChar_of_mem_keywords (h : entry ∈ keywords) :
    ∀ c ∈ entry.1.toList, Text.Casing.upperChar c = [c] := by
  have hall : ∀ entry ∈ keywords,
      entry.1.toList.all (fun c => Text.Casing.upperChar c == [c]) = true := by decide +kernel
  simpa using hall entry h

/-- The names of tables are in lower case. -/
theorem settled_of_mem_tables (h : entry ∈ tables) : ∀ c ∈ entry.1.toList, Text.Settled c := by
  have hall : ∀ entry ∈ tables,
      entry.1.toList.all (fun c => decide (Text.Settled c)) = true := by decide +kernel
  simpa using hall entry h

/-- What a candidate is, and how it starts. -/
theorem mem_candidates {line : List Char} (h : entry ∈ candidates line) :
    entry ∈ keywords ∧ Text.upperChars (lastWord line) <+: entry.1.toList ∨
    "FROM".toList <:+ Text.trimEndChars (beforeWord line) ∧ entry ∈ tables ∧
      Text.lowerChars (lastWord line) <+: entry.1.toList := by
  simp only [candidates] at h
  split at h
  case isTrue => cases h
  case isFalse =>
    split at h
    case isTrue hfrom =>
      obtain ⟨htable, hstart⟩ := List.mem_filter.1 h
      exact .inr ⟨endsInFrom_iff.1 hfrom, htable, continues_iff.1 hstart⟩
    case isFalse =>
      obtain ⟨hkeyword, hstart⟩ := List.mem_filter.1 h
      exact .inl ⟨hkeyword, continues_iff.1 hstart⟩

/-- A candidate starts with the word up to letter case. -/
theorem exists_stem_of_mem_candidates {line : List Char} (h : entry ∈ candidates line) :
    (entry ∈ keywords ∧ ∃ stem, stem <+: entry.1.toList ∧
      Text.upperChars stem = Text.upperChars (lastWord line)) ∨
    "FROM".toList <:+ Text.trimEndChars (beforeWord line) ∧ entry ∈ tables ∧
      ∃ stem, stem <+: entry.1.toList ∧
        Text.lowerChars stem = Text.lowerChars (lastWord line) := by
  obtain ⟨hkeyword, hstart⟩ | ⟨hfrom, htable, hstart⟩ := mem_candidates h
  · have hupper := Text.upperChars_eq_self fun c hc =>
      upperChar_of_mem_keywords hkeyword c (hstart.subset hc)
    exact .inl ⟨hkeyword, _, hstart, hupper⟩
  · have hlower := Text.lowerChars_eq_self fun c hc =>
      settled_of_mem_tables htable c (hstart.subset hc)
    exact .inr ⟨hfrom, htable, _, hstart, hlower⟩

end

/-! ## Lines -/

/-- At the end of a line, all of it is completed. -/
theorem complete_utf8ByteSize (line : String) :
    complete line line.utf8ByteSize = completeChars line.toList := by
  rw [complete, Text.takeBytes_utf8ByteSize]

/-- At the end of a line there may be a hint. -/
theorem hint_utf8ByteSize (line : String) :
    hint line line.utf8ByteSize = hintAtEnd line.toList :=
  if_neg (Nat.lt_irrefl _)

/-- The start of a line that is no command is none. -/
theorem isCommand_takeBytes {line : List Char} (h : isCommand line = false) (pos : Nat) :
    isCommand (Text.takeBytes pos line) = false := by
  cases line with
  | nil => exact h
  | cons c line =>
    rw [Text.takeBytes]
    split
    case isTrue => exact h
    case isFalse => rfl

section
variable {line : List Char}

/-- While a command is entered, it is completed to the commands that start so. -/
theorem completeChars_command (h : isCommand line = true) (hspace : ' ' ∉ line) :
    completeChars line =
      (0, (commands.filter fun entry => continues line entry.1).map (candidateOf 16)) := by
  rw [completeChars, if_pos (by simp [h, hspace])]

/-- In a line that is no command, the last word is completed. -/
theorem completeChars_query (h : isCommand line = false) :
    completeChars line =
      (Text.byteSize (beforeWord line), (candidates line).map (candidateOf 12)) := by
  rw [completeChars, h]
  rfl

/-- Anywhere else than in the name of a command, the last word is completed to the candidates for
it, if it is completed at all. -/
theorem exists_candidate_of_mem_completeChars (h : isCommand line = false ∨ ' ' ∈ line)
    {c : Candidate} (hc : c ∈ (completeChars line).2) :
    (completeChars line).1 = Text.byteSize (beforeWord line) ∧
      ∃ entry ∈ candidates line, c.replacement = entry.1 ++ " " := by
  have hname : ¬ (isCommand line && !line.contains ' ') = true := by
    obtain h | h := h <;> simp [h]
  rw [completeChars, if_neg hname] at hc ⊢
  split at hc
  case isTrue => cases hc
  case isFalse hother =>
    obtain ⟨entry, hentry, rfl⟩ := List.mem_map.1 hc
    rw [if_neg hother]
    exact ⟨rfl, entry, hentry, rfl⟩

/-- There are hints in two places: in the name of a command, and for the last word of a line that is
no command. -/
theorem hintAtEnd_cases {h : String} (hhint : hintAtEnd line = some h) :
    (isCommand line = true ∧ ' ' ∉ line ∧ restOf? commands line = some h) ∨
    (isCommand line = false ∧ restOf? (candidates line) (lastWord line) = some h) := by
  rw [hintAtEnd] at hhint
  split at hhint
  case isTrue hcommand =>
    split at hhint
    case isTrue => cases hhint
    case isFalse hspace => exact .inl ⟨hcommand, by simpa using hspace, hhint⟩
  case isFalse hcommand => exact .inr ⟨by simpa using hcommand, hhint⟩

/-- A hint is the rest of a completion. -/
theorem exists_completion_of_hintAtEnd {h : String} (hhint : hintAtEnd line = some h) :
    ∃ before word name, IsLastWord line before word ∧
      (completeChars line).1 = Text.byteSize before ∧ h ≠ "" ∧ String.ofList word ++ h = name ∧
      (∃ c ∈ (completeChars line).2, c.replacement = name ++ " ") ∧
      (name ∈ commands.map (·.1) ∨ name ∈ keywords.map (·.1) ∨
        "FROM".toList <:+ Text.trimEndChars before ∧ name ∈ tables.map (·.1)) := by
  obtain ⟨hcommand, hspace, hrest⟩ | ⟨hquery, hrest⟩ := hintAtEnd_cases hhint
  · obtain ⟨entry, hentry, hstart, hname, hne⟩ := exists_of_restOf? hrest
    rw [completeChars_command hcommand hspace]
    have hword := isLastWord_of_unbroken fun c hc =>
      unbroken_of_mem_commands hentry c (hstart.subset hc)
    have hmem : entry ∈ commands.filter fun entry => continues line entry.1 :=
      List.mem_filter.2 ⟨hentry, continues_iff.2 hstart⟩
    exact ⟨[], line, entry.1, hword, rfl, hne, hname, ⟨_, List.mem_map_of_mem hmem, rfl⟩,
      .inl (List.mem_map_of_mem hentry)⟩
  · obtain ⟨entry, hentry, -, hname, hne⟩ := exists_of_restOf? hrest
    rw [completeChars_query hquery]
    refine ⟨beforeWord line, lastWord line, entry.1, isLastWord_lastWord line, rfl, hne, hname,
      ⟨_, List.mem_map_of_mem hentry, rfl⟩, .inr ?_⟩
    obtain ⟨hkeyword, -⟩ | ⟨hfrom, htable, -⟩ := mem_candidates hentry
    · exact .inl (List.mem_map_of_mem hkeyword)
    · exact .inr ⟨hfrom, List.mem_map_of_mem htable⟩

end

/-- **A hint is the rest of a completion.** Where there is a hint, it is not empty, and the last
word with the hint behind it is a command, a keyword or, right after `FROM`, a table; put in for the
word with a blank behind it, it is among the completions of the line. Conversely, what completes a
line that is no command, or a command behind its first blank, is a keyword that starts with the word
in upper case or a table that starts with it in lower case, with a blank behind it. -/
theorem hint_completed :
    (∀ line h : String, hint line line.utf8ByteSize = some h →
      ∃ before word name, IsLastWord line.toList before word ∧
        (complete line line.utf8ByteSize).1 = Text.byteSize before ∧ h ≠ "" ∧
        String.ofList word ++ h = name ∧
        (∃ c ∈ (complete line line.utf8ByteSize).2, c.replacement = name ++ " ") ∧
        (name ∈ commands.map (·.1) ∨ name ∈ keywords.map (·.1) ∨
          "FROM".toList <:+ Text.trimEndChars before ∧ name ∈ tables.map (·.1))) ∧
    ∀ (line : String) (pos : Nat) (c : Candidate),
      isCommand line.toList = false ∨ ' ' ∈ Text.takeBytes pos line.toList →
      c ∈ (complete line pos).2 →
      ∃ before word name, IsLastWord (Text.takeBytes pos line.toList) before word ∧
        (complete line pos).1 = Text.byteSize before ∧ c.replacement = name ++ " " ∧
        ((name ∈ keywords.map (·.1) ∧ ∃ stem, stem <+: name.toList ∧
            Text.upperChars stem = Text.upperChars word) ∨
          "FROM".toList <:+ Text.trimEndChars before ∧ name ∈ tables.map (·.1) ∧
            ∃ stem, stem <+: name.toList ∧ Text.lowerChars stem = Text.lowerChars word) := by
  refine ⟨fun line h hhint => ?_, fun line pos c hline hc => ?_⟩
  · rw [hint_utf8ByteSize] at hhint
    rw [complete_utf8ByteSize]
    exact exists_completion_of_hintAtEnd hhint
  · have hentered := hline.imp_left fun hcommand => isCommand_takeBytes hcommand pos
    obtain ⟨hstart, entry, hentry, hreplacement⟩ :=
      exists_candidate_of_mem_completeChars hentered hc
    refine ⟨_, _, entry.1, isLastWord_lastWord _, hstart, hreplacement, ?_⟩
    obtain ⟨hkeyword, hstem⟩ | ⟨hfrom, htable, hstem⟩ := exists_stem_of_mem_candidates hentry
    · exact .inl ⟨List.mem_map_of_mem hkeyword, hstem⟩
    · exact .inr ⟨hfrom, List.mem_map_of_mem htable, hstem⟩

/-- Behind `FROM` a hint is the rest of a table. -/
theorem hint_completed_table :
    let line := "SELECT uri,FROM time"
    hint line line.utf8ByteSize = some "line" ∧ isCommand line.toList = false ∧
      ∃ c ∈ (complete line line.utf8ByteSize).2, ∃ word,
        c.replacement = String.ofList word ++ "line" ++ " " ∧
        ∃ name ∈ keywords.map (·.1) ++ tables.map (·.1), c.replacement = name ++ " " := by
  intro line
  have hhint : hint line line.utf8ByteSize = some "line" := by decide +kernel
  have hquery : isCommand line.toList = false := by decide +kernel
  obtain ⟨_, word, _, -, -, -, rfl, ⟨c, hc, hreplacement⟩, -⟩ := hint_completed.1 line "line" hhint
  obtain ⟨_, _, name, -, -, hname, hlisted⟩ := hint_completed.2 line _ c (.inl hquery) hc
  refine ⟨hhint, hquery, c, hc, word, hreplacement, name, List.mem_append.2 ?_, hname⟩
  exact hlisted.imp And.left fun hbehind => hbehind.2.1

end FeedQuery.Completion
