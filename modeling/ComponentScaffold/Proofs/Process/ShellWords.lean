import Mathlib.Data.List.Basic
import ComponentScaffold.Process.Command

/-! # A command pasted back

A command is shown as a line of words. A shell that reads the line back finds the words that were
written, whatever characters they are made of.

* **`ShellWords.splitFrom?_quote`** — a word is read back from wherever it is written.
* **`ShellWords.split?_line`** — the words of a line are the words it was written from.
* **`ShellWords.bare`** — the characters of a line that no quote and no backslash shields; of a line of
  words they are plain characters and the blanks between the words (`ShellWords.bare_line`).
* **`Command.shellText_readsBack`** — a command's line is read back as its program and its arguments, so
  two commands with one line have the same program and the same arguments. -/

namespace ComponentScaffold

namespace ShellWords

variable {c : Char} {word rest : List Char} {words : List (List Char)}

/-! ## What has been read -/

namespace Progress

variable (progress : Progress)

/-- What has been read after some more characters of the word being read. -/
def read (characters : List Char) : Progress :=
  { progress with word := some (characters.reverse ++ progress.word.getD []) }

@[simp]
theorem opened_eq_read : progress.opened = progress.read [] := rfl

@[simp]
theorem push_eq_read (c : Char) : progress.push c = progress.read [c] := rfl

@[simp]
theorem read_read (first second : List Char) :
    (progress.read first).read second = progress.read (first ++ second) := by
  simp [read]

/-- A word that was read whole is the next complete word. -/
theorem closed_read (done : List (List Char)) (word : List Char) :
    (read ⟨done, none⟩ word).closed = ⟨word :: done, none⟩ := by
  simp [read, closed]

end Progress

/-! ## Plain characters -/

/-- The characters that need no quoting, besides letters and digits. -/
theorem isPlain_iff : isPlain c = true ↔ c.isAlphanum = true ∨ c ∈ "-_./:=@,+%".toList := by
  simp [isPlain]

/-- A letter or a digit is none of finitely many characters that are neither. -/
theorem ne_of_isAlphanum {d : Char} (halphanum : c.isAlphanum = true)
    (hother : d.isAlphanum = false) : c ≠ d := by
  rintro rfl
  rw [hother] at halphanum
  exact absurd halphanum (by decide)

/-- **A plain character means itself**: it is no quote and no backslash, it parts no words and it is
not active. -/
theorem inert_of_isPlain (hplain : isPlain c = true) :
    c ≠ '\x27' ∧ c ≠ '\\' ∧ isSeparator c = false ∧ isActive c = false := by
  rcases isPlain_iff.mp hplain with halphanum | hsign
  case inl =>
    have hne : ∀ d : Char, d.isAlphanum = false → c ≠ d := fun d => ne_of_isAlphanum halphanum
    refine ⟨hne _ (by decide), hne _ (by decide), ?_, ?_⟩
    · simp [isSeparator, hne ' ' (by decide), hne '\t' (by decide), hne '\n' (by decide)]
    · have habsent : c ∉ "|&;<>()$\x60\"*?[]#~!\x7b\x7d".toList := by
        intro hmem
        have hletterless : "|&;<>()$\x60\"*?[]#~!\x7b\x7d".toList.any Char.isAlphanum = false := by decide
        exact hne c (Bool.eq_false_iff.mpr (List.any_eq_false.mp hletterless c hmem)) rfl
      simpa [isActive] using habsent
  case inr =>
    have hsigns : "-_./:=@,+%".toList.all (fun d =>
        decide (d ≠ '\x27' ∧ d ≠ '\\' ∧ isSeparator d = false ∧ isActive d = false)) = true := by decide
    exact of_decide_eq_true (List.all_eq_true.mp hsigns c hsign)

/-! ## A word read back -/

/-- Outside quotes a character other than a backslash is read alone. -/
theorem splitFrom?_cons (progress : Progress) (hslashless : c ≠ '\\') :
    splitFrom? progress false (c :: rest) =
      if c = '\x27' then splitFrom? progress.opened true rest
      else if isSeparator c then splitFrom? progress.closed false rest
      else if isActive c then none
      else splitFrom? (progress.push c) false rest := by
  rw [splitFrom?]
  · exact fun hslash _ => hslashless hslash
  · exact fun _ _ hslash _ => hslashless hslash

/-- Plain characters are read as themselves. -/
theorem splitFrom?_plain {progress : Progress} (hne : word ≠ [])
    (hplain : ∀ c ∈ word, isPlain c = true) :
    splitFrom? progress false (word ++ rest) = splitFrom? (progress.read word) false rest := by
  induction word generalizing progress with
  | nil => exact absurd rfl hne
  | cons c others ih =>
    obtain ⟨hquoteless, hslashless, hseparates, hactive⟩ := inert_of_isPlain (hplain c (by simp))
    have hfirst : splitFrom? progress false (c :: (others ++ rest)) =
        splitFrom? (progress.read [c]) false (others ++ rest) := by
      rw [splitFrom?_cons progress hslashless]
      simp [hquoteless, hseparates, hactive]
    rw [List.cons_append, hfirst]
    by_cases hlast : others = []
    · rw [hlast, List.nil_append]
    · rw [ih hlast fun d hmem => hplain d (List.mem_cons_of_mem c hmem), Progress.read_read]
      rfl

/-- A character between quotes is read as itself, a spliced quote included. -/
theorem splitFrom?_quoteChar (progress : Progress) (c : Char) :
    splitFrom? progress true (quoteChar c ++ rest) =
      splitFrom? (progress.read [c]) true rest := by
  by_cases hquote : c = '\x27'
  · -- The quotes are closed, a quote is escaped, and the quotes are opened again.
    rw [quoteChar, if_pos hquote, hquote]
    simp [splicedQuote, splitFrom?, splitFrom?_cons]
  · rw [quoteChar, if_neg hquote]
    simp [splitFrom?, hquote]

/-- The characters up to the closing quote are read as themselves, after those already read. -/
theorem splitFrom?_quoted (progress : Progress) (before word rest : List Char) :
    splitFrom? (progress.read before) true (word.flatMap quoteChar ++ '\x27' :: rest) =
      splitFrom? (progress.read (before ++ word)) false rest := by
  induction word generalizing before with
  | nil => simp [splitFrom?]
  | cons c others ih =>
    rw [List.flatMap_cons, List.append_assoc, splitFrom?_quoteChar, Progress.read_read,
      ih (before ++ [c]), List.append_assoc, List.singleton_append]

/-- A word is written as it is when it is plain and not empty, else between quotes. -/
theorem quote_append (word rest : List Char) :
    (word ≠ [] ∧ (∀ c ∈ word, isPlain c = true) ∧ quote word ++ rest = word ++ rest) ∨
      quote word ++ rest = '\x27' :: (word.flatMap quoteChar ++ '\x27' :: rest) := by
  rw [quote]
  split
  case isTrue hplain =>
    rw [Bool.and_eq_true, List.all_eq_true] at hplain
    exact .inl ⟨by simpa using hplain.1, hplain.2, rfl⟩
  case isFalse => exact .inr (by simp)

/-- **A word is read back from where it is written.** -/
theorem splitFrom?_quote (progress : Progress) (word rest : List Char) :
    splitFrom? progress false (quote word ++ rest) =
      splitFrom? (progress.read word) false rest := by
  rcases quote_append word rest with ⟨hne, hplain, hwritten⟩ | hwritten
  · rw [hwritten, splitFrom?_plain hne hplain]
  · rw [hwritten, splitFrom?_cons progress (by decide), if_pos rfl, Progress.opened_eq_read,
      splitFrom?_quoted, List.nil_append]

/-! ## A line read back -/

/-- A line of two words or more is its first word, a blank and the line of the others. -/
theorem line_cons_cons (word next : List Char) (words : List (List Char)) :
    line (word :: next :: words) = quote word ++ ' ' :: line (next :: words) := by
  simp [line, List.intercalate]

/-- The words of a line are read one after the other, after those already read. -/
theorem splitFrom?_line (done words : List (List Char)) :
    splitFrom? ⟨done, none⟩ false (line words) = some (done.reverse ++ words) := by
  induction words generalizing done with
  | nil => simp [line, splitFrom?, Progress.closed]
  | cons word others ih =>
    cases others with
    | nil =>
      have halone : line [word] = quote word ++ [] := by simp [line]
      rw [halone, splitFrom?_quote, splitFrom?, Progress.closed_read, List.reverse_cons]
    | cons next others =>
      rw [line_cons_cons, splitFrom?_quote, splitFrom?_cons _ (by decide)]
      have hblank : isSeparator ' ' = true := by decide
      rw [if_neg (by decide), if_pos hblank, Progress.closed_read, ih (word :: done)]
      simp

/-- **The words of a line are the words it was written from.** -/
theorem split?_line (words : List (List Char)) : split? (line words) = some words :=
  splitFrom?_line [] words

/-! ## The characters nothing shields -/

/-- **The bare characters of the rest of a line**: those that stand neither between quotes nor behind
a backslash, without the quotes and the backslashes. -/
def bare : (quoted : Bool) → List Char → List Char
  | _, [] => []
  | true, c :: rest => bare (c != '\x27') rest
  | false, ['\\'] => []
  | false, '\\' :: _ :: rest => bare false rest
  | false, c :: rest => if c = '\x27' then bare true rest else c :: bare false rest

/-- Outside quotes a character other than a quote and a backslash is bare. -/
theorem bare_cons (hslashless : c ≠ '\\') :
    bare false (c :: rest) = if c = '\x27' then bare true rest else c :: bare false rest := by
  rw [bare]
  · exact fun hslash _ => hslashless hslash
  · exact fun _ _ hslash _ => hslashless hslash

/-- Plain characters are bare. -/
theorem bare_plain (hplain : ∀ c ∈ word, isPlain c = true) :
    bare false (word ++ rest) = word ++ bare false rest := by
  induction word with
  | nil => rfl
  | cons c others ih =>
    obtain ⟨hquoteless, hslashless, -, -⟩ := inert_of_isPlain (hplain c (by simp))
    rw [List.cons_append, bare_cons hslashless, if_neg hquoteless,
      ih fun d hmem => hplain d (List.mem_cons_of_mem c hmem), List.cons_append]

/-- No character between quotes is bare. -/
theorem bare_quoted (word rest : List Char) :
    bare true (word.flatMap quoteChar ++ '\x27' :: rest) = bare false rest := by
  induction word with
  | nil => simp [bare]
  | cons c others ih =>
    rw [List.flatMap_cons, List.append_assoc, ← ih]
    by_cases hquote : c = '\x27'
    · rw [quoteChar, if_pos hquote]
      simp [splicedQuote, bare, bare_cons]
    · have hshut : (c != '\x27') = true := by simpa using hquote
      rw [quoteChar, if_neg hquote, List.singleton_append, bare, hshut]

/-- The bare characters of a word are plain. -/
theorem bare_quote (hmem : c ∈ bare false (quote word ++ rest)) :
    isPlain c = true ∨ c ∈ bare false rest := by
  rcases quote_append word rest with ⟨-, hplain, hwritten⟩ | hwritten
  · rw [hwritten, bare_plain hplain, List.mem_append] at hmem
    exact hmem.imp_left (hplain c)
  · rw [hwritten, bare_cons (by decide), if_pos rfl, bare_quoted] at hmem
    exact .inr hmem

/-- **The bare characters of a line** are plain characters and the blanks between the words. -/
theorem bare_line (words : List (List Char)) :
    ∀ c ∈ bare false (line words), isPlain c = true ∨ c = ' ' := by
  induction words with
  | nil => simp [line, bare]
  | cons word others ih =>
    intro c hmem
    cases others with
    | nil =>
      have halone : line [word] = quote word ++ [] := by simp [line]
      rw [halone] at hmem
      exact .inl ((bare_quote hmem).resolve_right (by simp [bare]))
    | cons next others =>
      rw [line_cons_cons] at hmem
      refine (bare_quote hmem).elim .inl fun hlater => ?_
      rw [bare_cons (by decide), if_neg (by decide)] at hlater
      exact (List.mem_cons.mp hlater).elim .inr (ih c)

end ShellWords

namespace Command

/-- The words of a command's line are its program and its arguments. -/
theorem split?_shellText (command : Command) :
    ShellWords.split? command.shellText.toList =
      some ((command.program :: command.arguments).map String.toList) := by
  rw [shellText, String.toList_ofList, ShellWords.split?_line]

/-- **A command's line can be pasted back.** A shell reads the program and the arguments from it, in
order; nothing that it leaves bare is anything but a plain character or a blank; so a command with the
same line has the same program and the same arguments. -/
theorem shellText_readsBack (command : Command) :
    ShellWords.split? command.shellText.toList =
        some ((command.program :: command.arguments).map String.toList) ∧
      (∀ c ∈ ShellWords.bare false command.shellText.toList,
        (ShellWords.isPlain c = true ∨ c = ' ') ∧ ShellWords.isActive c = false) ∧
      ∀ other : Command, other.shellText = command.shellText →
        other.program = command.program ∧ other.arguments = command.arguments := by
  refine ⟨split?_shellText command, ?_, ?_⟩
  · intro c hmem
    rw [shellText, String.toList_ofList] at hmem
    have hplainOrBlank := ShellWords.bare_line _ c hmem
    refine ⟨hplainOrBlank, ?_⟩
    rcases hplainOrBlank with hplain | rfl
    · exact (ShellWords.inert_of_isPlain hplain).2.2.2
    · decide
  · intro other hsame
    have hwords := split?_shellText other
    rw [hsame, split?_shellText command, Option.some_inj] at hwords
    have hinjective : Function.Injective String.toList := fun _ _ => String.toList_inj.mp
    have hboth := List.map_injective_iff.mpr hinjective hwords
    rw [List.cons.injEq] at hboth
    exact ⟨hboth.1.symm, hboth.2.symm⟩

/-- A line with a quote, an empty word and a blank in its words. -/
theorem shellText_readsBack_quotes :
    let command : Command := ⟨"it\x27s", ["", "a b"], none⟩
    command.shellText = "\x27it\x27\\\x27\x27s\x27 \x27\x27 \x27a b\x27" ∧
      ShellWords.split? command.shellText.toList = some ["it\x27s".toList, [], "a b".toList] ∧
      ∀ other : Command, other.shellText = command.shellText →
        other.program = "it\x27s" ∧ other.arguments = ["", "a b"] := by
  intro command
  obtain ⟨hwords, -, hunique⟩ := shellText_readsBack command
  exact ⟨by decide, hwords, hunique⟩

end Command

end ComponentScaffold
