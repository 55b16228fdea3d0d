import ComponentScaffold.Proofs.Source.ClassDeclaration

/-! # Comments in front of a class

The search for the first class knows nothing of comments. It passes over the first line of a comment because that does
not open with a declaration, and over the later ones only if they do not either.

* **`EndsDeclaration`** — a text with which no declaration goes on; `declaredClassFrom?_append_cons` cuts the search in
  front of it.
* **`lineComment`**, **`blockComment`** — the comments.
* **`declaredClass?_comment`** — what is found behind them. -/

namespace ComponentScaffold

open Text

variable {name opening line rest comment : List Char}

/-! ## Where no declaration goes on -/

/-- **No declaration goes on** with such a text: it starts with no blank, and with nothing that can stand in an
identifier. -/
def EndsDeclaration (rest : List Char) : Prop := ∀ c ∈ rest.head?, isBlank c = false ∧ isIdentifierPart c = false

/-- Blanks and what can stand in identifiers make up the opening of a declaration. -/
theorem IsClassOpening.isBlank_or_isIdentifierPart (hopens : IsClassOpening opening) :
    ∀ c ∈ opening, isBlank c = true ∨ isIdentifierPart c = true := by
  obtain ⟨indent, modifiers, blanks, rfl, hindents, hrun, -, hblank⟩ := hopens
  have hmodified : ∀ c ∈ modifiers, isBlank c = true ∨ isIdentifierPart c = true := by
    induction hrun with
    | none => simp
    | @more modifier blanks others hknown hne hblank hrun ih =>
      intro c hwithin
      simp only [List.mem_append] at hwithin
      rcases hwithin with (hfirst | hsecond) | hlater
      · exact .inr (hknown.letters.2 c hfirst)
      · exact .inl (hblank c hsecond)
      · exact ih c hlater
  intro c hwithin
  simp only [List.mem_append] at hwithin
  rcases hwithin with ((hfirst | hsecond) | hthird) | hlast
  · rcases hindents c hfirst with rfl | rfl <;> exact .inl (by decide)
  · exact hmodified c hsecond
  · exact .inr (isIdentifierPart_of_mem_classKeyword c hthird)
  · exact .inl (hblank c hlast)

/-- A line declares a class by an opening and an identifier that goes no further. -/
theorem declaresAtStart_iff : DeclaresAtStart name line ↔ ∃ opening tail, line = opening ++ name ++ tail ∧
    IsClassOpening opening ∧ IsIdentifier name ∧ ∀ c ∈ tail.head?, isIdentifierPart c = false := by
  simp only [DeclaresAtStart, longestIdentifier_iff]
  constructor
  · rintro ⟨opening, _, rfl, hopens, hidentifier, tail, rfl, hends⟩
    exact ⟨opening, tail, (List.append_assoc ..).symm, hopens, hidentifier, hends⟩
  · rintro ⟨opening, tail, rfl, hopens, hidentifier, hends⟩
    exact ⟨opening, name ++ tail, List.append_assoc .., hopens, hidentifier, tail, rfl, hends⟩

/-- **A line declares the same class** in front of a text with which no declaration goes on. -/
theorem declaresAtStart_append_iff (hends : EndsDeclaration rest) :
    DeclaresAtStart name (line ++ rest) ↔ DeclaresAtStart name line := by
  simp only [declaresAtStart_iff]
  constructor
  · rintro ⟨opening, tail, hparts, hopens, hidentifier, hstops⟩
    -- what ends declarations stands in none of them, so the whole declaration lies before it
    have hforeign : ∀ c ∈ rest.head?, c ∉ opening ++ name := by
      intro c hfirst hmem
      obtain ⟨hsolid, houtside⟩ := hends c hfirst
      rcases List.mem_append.mp hmem with hbefore | hwithin
      · rcases hopens.isBlank_or_isIdentifierPart c hbefore with hblank | hpart
        · exact absurd hblank (Bool.eq_false_iff.mp hsolid)
        · exact absurd hpart (Bool.eq_false_iff.mp houtside)
      · exact absurd (hidentifier.isIdentifierPart c hwithin) (Bool.eq_false_iff.mp houtside)
    obtain ⟨more, rfl⟩ := prefix_of_prefix_append hforeign ⟨tail, hparts.symm⟩
    rw [List.append_assoc _ more] at hparts
    obtain rfl := List.append_cancel_left hparts
    refine ⟨opening, more, rfl, hopens, hidentifier, fun c hfirst => hstops c ?_⟩
    rw [List.head?_append, Option.mem_def.mp hfirst]
    rfl
  · rintro ⟨opening, tail, rfl, hopens, hidentifier, hstops⟩
    refine ⟨opening, tail ++ rest, List.append_assoc .., hopens, hidentifier, ?_⟩
    cases tail with
    | nil => exact fun c hfirst => (hends c hfirst).2
    | cons c tail => exact hstops

/-- What is read in a line does not depend on such a text behind it. -/
theorem declaredClassAt?_append (hends : EndsDeclaration rest) (line : List Char) :
    declaredClassAt? (line ++ rest) = declaredClassAt? line := by
  refine Option.ext fun name => ?_
  rw [declaredClassAt?_eq_some_iff, declaredClassAt?_eq_some_iff, declaresAtStart_append_iff hends]

/-- **The search is cut** at a character with which no declaration goes on: what is found before it is found without
what follows, and otherwise the search goes on behind it within a line. -/
theorem declaredClassFrom?_append_cons {c : Char} (hsolid : isBlank c = false) (houtside : isIdentifierPart c = false)
    (atLineStart : Bool) (text rest : List Char) :
    declaredClassFrom? atLineStart (text ++ c :: rest) =
      (declaredClassFrom? atLineStart text).or (declaredClassFrom? false rest) := by
  have hends : EndsDeclaration (c :: rest) := by
    rintro _ ⟨⟩
    exact ⟨hsolid, houtside⟩
  induction text generalizing atLineStart with
  | nil =>
    have hnothing : declaredClassAt? (c :: rest) = none :=
      (declaredClassAt?_append hends []).trans (declaredClassAt?_eq_none_iff.mpr not_declaresSomeClass_nil)
    have hnewline : (c == '\n') = false := by
      rw [beq_eq_false_iff_ne]
      rintro rfl
      exact absurd hsolid (by decide)
    simp [declaredClassFrom?, hnothing, hnewline]
  | cons d text ih =>
    have hsame : declaredClassAt? (d :: (text ++ c :: rest)) = declaredClassAt? (d :: text) :=
      declaredClassAt?_append hends (d :: text)
    simp only [List.cons_append, declaredClassFrom?, hsame, ih]
    split <;> simp

/-- Such a character at the start of a text is passed over. -/
theorem declaredClassFrom?_cons {c : Char} (hsolid : isBlank c = false) (houtside : isIdentifierPart c = false)
    (atLineStart : Bool) (rest : List Char) :
    declaredClassFrom? atLineStart (c :: rest) = declaredClassFrom? false rest :=
  (declaredClassFrom?_append_cons hsolid houtside atLineStart [] rest).trans (Option.none_or ..)

/-! ## Comments -/

/-- **A comment that takes the rest of a line.** -/
def lineComment (comment : List Char) : List Char := "//".toList ++ comment ++ ['\n']

/-- **A comment that may take several lines**, with a newline behind it. -/
def blockComment (comment : List Char) : List Char := "/*".toList ++ comment ++ "*/\n".toList

/-- Behind a comment of one line the search goes on as if it was not there. -/
theorem declaredClass?_lineComment (hinside : '\n' ∉ comment) (post : List Char) :
    declaredClass? (lineComment comment ++ post) = declaredClass? post := by
  have hparts : lineComment comment ++ post = '/' :: ('/' :: comment ++ '\n' :: post) := by
    simp [lineComment]
  have hinside' : '\n' ∉ '/' :: comment := by simpa using hinside
  rw [declaredClass?, hparts, declaredClassFrom?_cons (by decide) (by decide), declaredClassFrom?_false,
    laterLines_append hinside']

/-- **Of a comment of several lines** all but the first are searched. -/
theorem declaredClass?_blockComment (comment post : List Char) :
    declaredClass? (blockComment comment ++ post) = (declaredClass? (laterLines comment)).or (declaredClass? post) := by
  have hparts : blockComment comment ++ post = '/' :: '*' :: (comment ++ '*' :: '/' :: '\n' :: post) := by
    simp [blockComment]
  calc declaredClass? (blockComment comment ++ post)
      = declaredClassFrom? false ('*' :: (comment ++ '*' :: '/' :: '\n' :: post)) := by
        rw [declaredClass?, hparts, declaredClassFrom?_cons (by decide) (by decide)]
    _ = declaredClassFrom? false (comment ++ '*' :: '/' :: '\n' :: post) :=
        declaredClassFrom?_cons (by decide) (by decide) ..
    _ = (declaredClassFrom? false comment).or (declaredClassFrom? false ('/' :: '\n' :: post)) :=
        declaredClassFrom?_append_cons (by decide) (by decide) ..
    _ = (declaredClass? (laterLines comment)).or (declaredClass? post) := by
        rw [declaredClassFrom?_cons (by decide) (by decide), declaredClassFrom?_false]
        rfl

/-- Within a line, a line starts behind each newline. -/
theorem endsLineFrom_false_iff {front : List Char} : EndsLineFrom false front ↔ ∃ before, front = before ++ ['\n'] := by
  rcases List.eq_nil_or_concat front with rfl | ⟨before, c, rfl⟩
  · simp [EndsLineFrom]
  · simp [EndsLineFrom]

/-- No class is found in the later lines of a text exactly if none of them declares one. -/
theorem declaredClass?_laterLines_eq_none_iff {text : List Char} : declaredClass? (laterLines text) = none ↔
    ∀ front line, text = front ++ '\n' :: line → ¬DeclaresSomeClass line := by
  rw [← declaredClassFrom?_false, declaredClassFrom?_eq_none_iff]
  simp only [endsLineFrom_false_iff]
  constructor
  · intro hnone front line hparts
    exact hnone (front ++ ['\n']) line (by simp [hparts]) ⟨front, rfl⟩
  · rintro hnone _ line hparts ⟨front, rfl⟩
    exact hnone front line (by simp [hparts])

/-- **A leading comment and the class that is found.** A comment of one line makes no difference. Of a comment that may
take several lines, the first line makes none either, while a class that a later line declares is found before those
that follow the comment. So such a comment makes no difference to any text behind it exactly if none of its later lines
opens with a declaration. -/
theorem declaredClass?_comment (comment : List Char) :
    ('\n' ∉ comment → ∀ post, declaredClass? (lineComment comment ++ post) = declaredClass? post) ∧
    (∀ post, declaredClass? (blockComment comment ++ post) =
      (declaredClass? (laterLines comment)).or (declaredClass? post)) ∧
    ((∀ post, declaredClass? (blockComment comment ++ post) = declaredClass? post) ↔
      ∀ front line, comment = front ++ '\n' :: line → ¬DeclaresSomeClass line) := by
  refine ⟨declaredClass?_lineComment, declaredClass?_blockComment comment, ?_⟩
  simp only [declaredClass?_blockComment, ← declaredClass?_laterLines_eq_none_iff]
  refine ⟨fun hignored => ?_, fun hnone post => by rw [hnone, Option.none_or]⟩
  -- it is ignored in front of a text that declares nothing
  have halone := hignored []
  rwa [show declaredClass? [] = none from rfl, Option.or_none] at halone

/-- The word in a comment does not count in the first line, nor behind other words. -/
theorem declaredClass?_comment_words :
    '\n' ∉ " this class is generated".toList ∧
      declaredClass? (lineComment " this class is generated".toList ++ "class Main".toList) = some "Main".toList ∧
      declaredClass? (blockComment "class One\n * class Two".toList ++ "class Main".toList) = some "Main".toList := by
  have hinside : '\n' ∉ " this class is generated".toList := by decide
  obtain ⟨hline, -, -⟩ := declaredClass?_comment " this class is generated".toList
  obtain ⟨-, hblock, -⟩ := declaredClass?_comment "class One\n * class Two".toList
  exact ⟨hinside, (hline hinside _).trans (by decide +kernel), (hblock _).trans (by decide +kernel)⟩

/-- **A comment decides on the class** if one of its later lines opens with the keyword and a word: the base class of a
file is then that word. -/
theorem declaredClass?_decided_by_comment :
    declaredClass? (blockComment "\nclass for all view models\n".toList ++
        "public class ViewModelBase\n\x7b\n\x7d\n".toList) = some "for".toList ∧
      declaredClass? "public class ViewModelBase\n\x7b\n\x7d\n".toList = some "ViewModelBase".toList ∧
      ¬"*/".toList <:+: "\nclass for all view models\n".toList := by
  decide +kernel

end ComponentScaffold
