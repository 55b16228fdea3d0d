import ComponentScaffold.Proofs.Source.ClassHead
import ComponentScaffold.Proofs.Text.Occurrence

/-! # Finding the first class

The search for the first class of a text tries one line after the other. What it comes to is said without searching:
the first line that opens with the declaration of a class, whose name is read as far as it goes. The blanks of a
declaration may run over the ends of lines.

* **`IsModifier`**, **`Modifiers`**, **`IsClassOpening`** — what a declaration reads like up to the name.
* **`LongestIdentifier`** — how far the name goes.
* **`FirstDeclaration`** — the first line of a text that declares a class.
* **`declaredClass?_first`** — it is the one that is found. -/

namespace ComponentScaffold

open Text

variable {name text line rest front : List Char}

/-! ## What a declaration reads like -/

/-- **A modifier of a class.** -/
def IsModifier (word : List Char) : Prop :=
  String.ofList word ∈
    ["public", "internal", "protected", "private", "abstract", "partial", "sealed", "static"]

instance (word : List Char) : Decidable (IsModifier word) := inferInstanceAs (Decidable (_ ∈ _))

/-- **A run of modifiers**, each of them with blanks behind it. -/
inductive Modifiers : List Char → Prop
  /-- There may be none. -/
  | none : Modifiers []
  /-- A modifier and blanks stand in front of others. -/
  | more {modifier blanks others : List Char} : IsModifier modifier → blanks ≠ [] →
    (∀ c ∈ blanks, isBlank c = true) → Modifiers others → Modifiers (modifier ++ blanks ++ others)

/-- **The opening of a declaration**: indentation, modifiers, the keyword and blanks. -/
def IsClassOpening (opening : List Char) : Prop :=
  ∃ indent modifiers blanks, opening = indent ++ modifiers ++ classKeyword ++ blanks ∧
    (∀ c ∈ indent, c = ' ' ∨ c = '\t') ∧ Modifiers modifiers ∧ blanks ≠ [] ∧ ∀ c ∈ blanks, isBlank c = true

/-- **The longest identifier** at the start of a text. -/
structure LongestIdentifier (name text : List Char) : Prop where
  /-- It is an identifier. -/
  identifier : IsIdentifier name
  /-- It stands at the start. -/
  starts : name <+: text
  /-- None that does is longer. -/
  longest : ∀ other, IsIdentifier other → other <+: text → other.length ≤ name.length

/-- **A line declares a class**: an identifier stands behind an opening. -/
def DeclaresSomeClass (line : List Char) : Prop :=
  ∃ opening rest name, line = opening ++ rest ∧ IsClassOpening opening ∧ IsIdentifier name ∧ name <+: rest

/-- **A line declares a class of a name**: that is the whole identifier behind the opening. -/
def DeclaresAtStart (name line : List Char) : Prop :=
  ∃ opening rest, line = opening ++ rest ∧ IsClassOpening opening ∧ LongestIdentifier name rest

/-- A text ends where a line starts: there is nothing in it, or a newline at its end. -/
def EndsLine (front : List Char) : Prop := ∀ c ∈ front.getLast?, c = '\n'

/-- **The first line that declares a class**, and the name of the class. -/
structure FirstDeclaration (name text front line : List Char) : Prop where
  /-- The parts make up the text. -/
  parts : text = front ++ line
  /-- A line starts between them. -/
  starts : EndsLine front
  /-- It declares the class. -/
  declares : DeclaresAtStart name line
  /-- No earlier line declares one. -/
  first : ∀ front' line', text = front' ++ line' → EndsLine front' → DeclaresSomeClass line' →
    front.length ≤ front'.length

/-! ## Modifiers -/

/-- The modifiers are the words that are tried. -/
theorem isModifier_iff {word : List Char} : IsModifier word ↔ word ∈ classModifiers := by
  rw [classModifiers, List.mem_map]
  constructor
  · exact fun hknown => ⟨_, hknown, String.toList_ofList⟩
  · rintro ⟨modifier, hknown, rfl⟩
    rwa [IsModifier, String.ofList_toList]

/-- The letters of modifiers stand in identifiers, and there is one in each. -/
theorem IsModifier.letters {modifier : List Char} (hknown : IsModifier modifier) :
    modifier ≠ [] ∧ ∀ c ∈ modifier, isIdentifierPart c = true := by
  have hwords : (classModifiers.all fun modifier => !modifier.isEmpty && modifier.all isIdentifierPart) = true := by
    decide
  have hall : ∀ modifier ∈ classModifiers, modifier ≠ [] ∧ ∀ c ∈ modifier, isIdentifierPart c = true := by
    simpa using hwords
  exact hall modifier (isModifier_iff.mp hknown)

/-- What follows a word and blanks is what is left without them. -/
theorem Text.dropWhile_word_blanks {word blanks : List Char} (hsolid : ∀ c ∈ word, isBlank c = false)
    (hne : blanks ≠ []) (hblank : ∀ c ∈ blanks, isBlank c = true) (hends : ∀ c ∈ rest.head?, isBlank c = false) :
    ((word ++ blanks ++ rest).dropWhile fun c => !isBlank c).dropWhile isBlank = rest := by
  have hstarts : ∀ c ∈ (blanks ++ rest).head?, (!isBlank c) = false := by
    simpa using head?_append_of_ne_nil hne rest hblank
  have hbehindWord := (takeWhile_dropWhile_append (by simpa using hsolid) hstarts).2
  rw [List.append_assoc, hbehindWord]
  exact (takeWhile_dropWhile_append hblank hends).2

/-- **A modifier is dropped** with all blanks behind it. -/
theorem dropModifier?_eq_some_iff : dropModifier? text = some rest ↔
    ∃ modifier, IsModifier modifier ∧ ∃ blanks, text = modifier ++ blanks ++ rest ∧ blanks ≠ [] ∧
      (∀ c ∈ blanks, isBlank c = true) ∧ ∀ c ∈ rest.head?, isBlank c = false := by
  have hsound {rest : List Char} (hdropped : dropModifier? text = some rest) :
      ∃ modifier, IsModifier modifier ∧ ∃ blanks, text = modifier ++ blanks ++ rest ∧ blanks ≠ [] ∧
        (∀ c ∈ blanks, isBlank c = true) ∧ ∀ c ∈ rest.head?, isBlank c = false := by
    obtain ⟨modifier, hmem, hdropped⟩ := List.exists_of_findSome?_eq_some hdropped
    obtain ⟨behind, hfound, hdropped⟩ := Option.bind_eq_some_iff.mp hdropped
    obtain ⟨blanks, rfl, hne, hblank, hends⟩ := dropBlanks?_eq_some_iff.mp hdropped
    exact ⟨modifier, isModifier_iff.mpr hmem, blanks, by rw [after?_eq_some_iff.mp hfound, List.append_assoc],
      hne, hblank, hends⟩
  refine ⟨hsound, ?_⟩
  rintro ⟨modifier, hknown, blanks, hparts, hne, hblank, hends⟩
  have hbehind {word : List Char} (hknown : IsModifier word) : ∀ c ∈ word, isBlank c = false :=
    fun c hwithin => not_isBlank_of_isIdentifierPart (hknown.letters.2 c hwithin)
  -- Whichever modifier is tried first, the same is left behind it.
  cases hdropped : dropModifier? text with
  | none =>
    rw [dropModifier?, List.findSome?_eq_none_iff] at hdropped
    have hfound := hdropped modifier (isModifier_iff.mp hknown)
    rw [hparts, List.append_assoc, after?_eq_some_iff.mpr rfl, Option.bind_some,
      dropBlanks?_eq_some_iff.mpr ⟨blanks, rfl, hne, hblank, hends⟩] at hfound
    cases hfound
  | some other =>
    obtain ⟨modifier', hknown', blanks', hparts', hne', hblank', hends'⟩ := hsound hdropped
    rw [← dropWhile_word_blanks (hbehind hknown) hne hblank hends, ← hparts, hparts',
      dropWhile_word_blanks (hbehind hknown') hne' hblank' hends']

/-- Behind a modifier the next ones are dropped. -/
theorem dropModifiers_of_some (hdropped : dropModifier? text = some rest) :
    dropModifiers text = dropModifiers rest := by
  rw [dropModifiers]
  split
  case h_1 other hfound =>
    rw [hdropped] at hfound
    rw [Option.some.inj hfound]
  case h_2 habsent =>
    rw [hdropped] at habsent
    cases habsent

/-- A text without a modifier at its start is left as it is. -/
theorem dropModifiers_of_none (habsent : dropModifier? text = none) : dropModifiers text = text := by
  rw [dropModifiers]
  split
  case h_1 hfound =>
    rw [habsent] at hfound
    cases hfound
  case h_2 => rfl

/-- No modifier starts with the keyword of a class. -/
theorem dropModifiers_classKeyword (rest : List Char) :
    dropModifiers (classKeyword ++ rest) = classKeyword ++ rest := by
  refine dropModifiers_of_none (Option.eq_none_iff_forall_ne_some.mpr fun other hdropped => ?_)
  obtain ⟨modifier, hknown, blanks, hparts, -⟩ := dropModifier?_eq_some_iff.mp hdropped
  have hletters : ∀ word ∈ classModifiers, word.head?.any (· ≠ 'c') = true := by decide
  have hdifferent := hletters modifier (isModifier_iff.mp hknown)
  cases modifier with
  | nil => cases hdifferent
  | cons c others =>
    obtain rfl := (List.cons.inj hparts).1
    cases hdifferent

/-- What is dropped is a run of modifiers. -/
theorem exists_modifiers (text : List Char) :
    ∃ modifiers, Modifiers modifiers ∧ text = modifiers ++ dropModifiers text := by
  fun_induction dropModifiers text with
  | case1 text rest hdropped _ ih =>
    obtain ⟨modifier, hknown, blanks, hparts, hne, hblank, -⟩ := dropModifier?_eq_some_iff.mp hdropped
    obtain ⟨modifiers, hrun, hwhole⟩ := ih
    refine ⟨modifier ++ blanks ++ modifiers, .more hknown hne hblank hrun, ?_⟩
    rw [List.append_assoc _ modifiers, ← hwhole, ← hparts]
  | case2 text => exact ⟨[], .none, rfl⟩

/-- A run of modifiers in front of the keyword starts with no blank. -/
theorem Modifiers.solid_head {modifiers : List Char} (hrun : Modifiers modifiers) (rest : List Char) :
    ∀ c ∈ (modifiers ++ (classKeyword ++ rest)).head?, isBlank c = false := by
  cases hrun with
  | none =>
    rintro c ⟨⟩
    decide
  | more hknown =>
    obtain ⟨hne, hpart⟩ := hknown.letters
    simp only [List.append_assoc]
    exact head?_append_of_ne_nil hne _ fun c hwithin => not_isBlank_of_isIdentifierPart (hpart c hwithin)

/-- **All modifiers are dropped** in front of the keyword. -/
theorem Modifiers.dropModifiers_append {modifiers : List Char} (hrun : Modifiers modifiers) (rest : List Char) :
    dropModifiers (modifiers ++ (classKeyword ++ rest)) = classKeyword ++ rest := by
  induction hrun with
  | none => exact dropModifiers_classKeyword rest
  | @more modifier blanks others hknown hne hblank hrun ih =>
    have hdropped : dropModifier? (modifier ++ blanks ++ others ++ (classKeyword ++ rest)) =
        some (others ++ (classKeyword ++ rest)) :=
      dropModifier?_eq_some_iff.mpr ⟨modifier, hknown, blanks, List.append_assoc .., hne, hblank, hrun.solid_head rest⟩
    rw [dropModifiers_of_some hdropped, ih]

/-! ## The name -/

/-- **The longest identifier** is the one that the text does not continue. -/
theorem longestIdentifier_iff : LongestIdentifier name text ↔
    IsIdentifier name ∧ ∃ tail, text = name ++ tail ∧ ∀ c ∈ tail.head?, isIdentifierPart c = false := by
  constructor
  · rintro ⟨hidentifier, ⟨tail, rfl⟩, hlongest⟩
    refine ⟨hidentifier, tail, rfl, fun c hfirst => ?_⟩
    obtain ⟨others, rfl⟩ := List.head?_eq_some_iff.mp hfirst
    by_contra hpart
    rw [Bool.not_eq_false] at hpart
    -- With one more character there would be a longer one.
    have hle := hlongest _ (hidentifier.concat hpart) ⟨others, by simp⟩
    rw [List.length_append, List.length_singleton] at hle
    omega
  · rintro ⟨hidentifier, tail, rfl, hends⟩
    refine ⟨hidentifier, List.prefix_append name tail, fun other hidentifier' hstarts => ?_⟩
    have hforeign : ∀ c ∈ tail.head?, c ∉ other := by
      intro c hfirst hmem
      have houtside := hends c hfirst
      rw [hidentifier'.isIdentifierPart c hmem] at houtside
      cases houtside
    exact (prefix_of_prefix_append hforeign hstarts).length_le

/-- **It is what is read.** -/
theorem exists_readIdentifier?_iff :
    (∃ tail, readIdentifier? text = some (name, tail)) ↔ LongestIdentifier name text := by
  simp only [readIdentifier?_eq_some_iff, longestIdentifier_iff, exists_and_left]

/-- Where an identifier stands, there is a longest one. -/
theorem exists_longestIdentifier (hidentifier : IsIdentifier name) (hstarts : name <+: text) :
    ∃ longest, LongestIdentifier longest text := by
  obtain ⟨tail, rfl⟩ := hstarts
  obtain ⟨c, letters, rfl⟩ := List.exists_cons_of_ne_nil hidentifier.ne_nil
  have hread : readIdentifier? (c :: letters ++ tail) =
      some (c :: (letters ++ tail).takeWhile isIdentifierPart, (letters ++ tail).dropWhile isIdentifierPart) := by
    rw [List.cons_append, readIdentifier?, if_pos hidentifier.1]
  exact ⟨_, exists_readIdentifier?_iff.mp ⟨_, hread⟩⟩

/-- A line declares a class if it declares one of some name. -/
theorem declaresSomeClass_iff : DeclaresSomeClass line ↔ ∃ name, DeclaresAtStart name line := by
  constructor
  · rintro ⟨opening, rest, name, hparts, hopens, hidentifier, hstarts⟩
    obtain ⟨longest, hlongest⟩ := exists_longestIdentifier hidentifier hstarts
    exact ⟨longest, opening, rest, hparts, hopens, hlongest⟩
  · rintro ⟨name, opening, rest, hparts, hopens, hlongest⟩
    exact ⟨opening, rest, name, hparts, hopens, hlongest.identifier, hlongest.starts⟩

/-! ## The declaration in a line -/

/-- Blanks and tabs indent a line, and nothing else. -/
theorem isIndent_iff {c : Char} : isIndent c = true ↔ c = ' ' ∨ c = '\t' := by
  simp [isIndent]

/-- **What is read in a line** is the name of the class that it declares. -/
theorem declaredClassAt?_eq_some_iff : declaredClassAt? line = some name ↔ DeclaresAtStart name line := by
  -- what the reader takes one after the other, as the parts of the text behind the modifiers
  have hreads : declaredClassAt? line = some name ↔ ∃ blanks rest,
      dropModifiers (line.dropWhile isIndent) = classKeyword ++ (blanks ++ rest) ∧ blanks ≠ [] ∧
        (∀ c ∈ blanks, isBlank c = true) ∧ (∀ c ∈ rest.head?, isBlank c = false) ∧ LongestIdentifier name rest := by
    simp only [declaredClassAt?, Option.bind_eq_bind, Option.bind_eq_some_iff, after?_eq_some_iff,
      dropBlanks?_eq_some_iff, ← exists_readIdentifier?_iff, Option.pure_def]
    constructor
    · rintro ⟨_, hkeyword, rest, ⟨blanks, rfl, hne, hblank, hends⟩, ⟨_, tail⟩, hread, hsame⟩
      obtain rfl := Option.some.inj hsame
      exact ⟨blanks, rest, hkeyword, hne, hblank, hends, tail, hread⟩
    · rintro ⟨blanks, rest, hkeyword, hne, hblank, hends, tail, hread⟩
      exact ⟨_, hkeyword, rest, ⟨blanks, rfl, hne, hblank, hends⟩, _, hread, rfl⟩
  rw [hreads]
  constructor
  · rintro ⟨blanks, rest, hkeyword, hne, hblank, -, hlongest⟩
    obtain ⟨modifiers, hrun, hparts⟩ := exists_modifiers (line.dropWhile isIndent)
    refine ⟨line.takeWhile isIndent ++ modifiers ++ classKeyword ++ blanks, rest, ?_, ?_, hlongest⟩
    · rw [hkeyword] at hparts
      simp only [List.append_assoc]
      rw [← hparts, List.takeWhile_append_dropWhile]
    · exact ⟨_, modifiers, blanks, rfl, fun c hmem => isIndent_iff.mp (List.mem_takeWhile_imp hmem), hrun, hne, hblank⟩
  · rintro ⟨_, rest, rfl, ⟨indent, modifiers, blanks, rfl, hindents, hrun, hne, hblank⟩, hlongest⟩
    -- what follows the indentation is no blank, so the reader ends it at the same place
    have hsolid := hrun.solid_head (blanks ++ rest)
    have hunindented : ∀ c ∈ (modifiers ++ (classKeyword ++ (blanks ++ rest))).head?, isIndent c = false := by
      intro c hfirst
      rw [Bool.eq_false_iff, Ne, isIndent_iff]
      have houtside := hsolid c hfirst
      rintro (rfl | rfl) <;> revert houtside <;> decide
    refine ⟨blanks, rest, ?_, hne, hblank, ?_, hlongest⟩
    · simp only [List.append_assoc]
      rw [(takeWhile_dropWhile_append (fun c hmem => isIndent_iff.mpr (hindents c hmem)) hunindented).2]
      exact hrun.dropModifiers_append _
    · obtain ⟨tail, rfl⟩ := hlongest.starts
      exact hlongest.identifier.solid_head tail

/-- A line declares a class of one name only. -/
theorem DeclaresAtStart.unique {name' : List Char} (h : DeclaresAtStart name line) (h' : DeclaresAtStart name' line) :
    name = name' := by
  rw [← declaredClassAt?_eq_some_iff] at h h'
  exact Option.some.inj (h.symm.trans h')

/-- Where nothing is read in a line, it declares no class. -/
theorem declaredClassAt?_eq_none_iff : declaredClassAt? line = none ↔ ¬DeclaresSomeClass line := by
  rw [declaresSomeClass_iff, Option.eq_none_iff_forall_ne_some]
  simp only [Ne, declaredClassAt?_eq_some_iff, not_exists]

/-- A line without characters declares no class. -/
theorem not_declaresSomeClass_nil : ¬DeclaresSomeClass [] := by
  rintro ⟨_, rest, name, hparts, ⟨indent, modifiers, blanks, rfl, -⟩, -⟩
  simp [classKeyword] at hparts

/-! ## The first line -/

/-- A line starts behind a text, given whether one starts right before it. -/
def EndsLineFrom (atLineStart : Bool) (front : List Char) : Prop :=
  (front.getLast?.map (· == '\n')).getD atLineStart = true

/-- Before a text the start of a line is the start of the text. -/
theorem endsLineFrom_true_iff : EndsLineFrom true front ↔ EndsLine front := by
  rw [EndsLineFrom, EndsLine]
  cases front.getLast? <;> simp

/-- A line starts at the start of a text if one starts right before it. -/
theorem endsLineFrom_nil_iff {atLineStart : Bool} : EndsLineFrom atLineStart [] ↔ atLineStart = true := Iff.rfl

/-- What is before the first character decides on it, and the first character on what is behind it. -/
theorem endsLineFrom_cons_iff {atLineStart : Bool} {c : Char} :
    EndsLineFrom atLineStart (c :: front) ↔ EndsLineFrom (c == '\n') front := by
  rw [EndsLineFrom, EndsLineFrom, List.getLast?_cons]
  cases front.getLast? <;> simp

/-- **A class that is found** is declared by the first line that declares one. -/
theorem exists_of_declaredClassFrom? {atLineStart : Bool} (hfound : declaredClassFrom? atLineStart text = some name) :
    ∃ front line, text = front ++ line ∧ EndsLineFrom atLineStart front ∧ DeclaresAtStart name line ∧
      ∀ front' line', text = front' ++ line' → EndsLineFrom atLineStart front' → DeclaresSomeClass line' →
        front.length ≤ front'.length := by
  induction text generalizing atLineStart with
  | nil => cases hfound
  | cons c rest ih =>
    rw [declaredClassFrom?] at hfound
    split at hfound
    case h_1 declared hnamed =>
      obtain rfl := Option.some.inj hfound
      split at hnamed
      case isTrue hstarts =>
        exact ⟨[], c :: rest, rfl, hstarts, declaredClassAt?_eq_some_iff.mp hnamed, fun _ _ _ _ _ => Nat.zero_le _⟩
      case isFalse => cases hnamed
    case h_2 hunnamed =>
      obtain ⟨front, line, rfl, hstarts, hdeclares, hfirst⟩ := ih hfound
      refine ⟨c :: front, line, rfl, endsLineFrom_cons_iff.mpr hstarts, hdeclares, ?_⟩
      rintro (_ | ⟨d, front'⟩) line' hparts hstarts' hdeclares'
      · -- the line at the start declares nothing
        obtain rfl := hparts
        rw [if_pos (endsLineFrom_nil_iff.mp hstarts'), declaredClassAt?_eq_none_iff] at hunnamed
        exact absurd hdeclares' hunnamed
      · obtain ⟨rfl, hbehind⟩ := List.cons.inj hparts
        exact Nat.succ_le_succ (hfirst front' line' hbehind (endsLineFrom_cons_iff.mp hstarts') hdeclares')

/-- **Nothing is found** exactly where no line declares a class. -/
theorem declaredClassFrom?_eq_none_iff {atLineStart : Bool} : declaredClassFrom? atLineStart text = none ↔
    ∀ front line, text = front ++ line → EndsLineFrom atLineStart front → ¬DeclaresSomeClass line := by
  refine ⟨fun habsent => ?_, fun hnone => Option.eq_none_iff_forall_ne_some.mpr fun name hfound => ?_⟩
  case refine_2 =>
    obtain ⟨front, line, hparts, hstarts, hdeclares, -⟩ := exists_of_declaredClassFrom? hfound
    exact hnone front line hparts hstarts (declaresSomeClass_iff.mpr ⟨name, hdeclares⟩)
  -- every way to split the text either begins a line here or splits what is behind the first character
  induction text generalizing atLineStart with
  | nil =>
    intro front line hparts _
    obtain ⟨-, rfl⟩ := List.append_eq_nil_iff.mp hparts.symm
    exact not_declaresSomeClass_nil
  | cons c rest ih =>
    rw [declaredClassFrom?] at habsent
    split at habsent
    case h_1 => cases habsent
    case h_2 hunnamed =>
      rintro (_ | ⟨d, front⟩) line hparts hstarts
      · obtain rfl := hparts
        rwa [if_pos (endsLineFrom_nil_iff.mp hstarts), declaredClassAt?_eq_none_iff] at hunnamed
      · obtain ⟨rfl, hbehind⟩ := List.cons.inj hparts
        exact ih habsent front line hbehind (endsLineFrom_cons_iff.mp hstarts)

/-- Of two first lines neither is earlier. -/
theorem FirstDeclaration.unique {name' front' line' : List Char} (h : FirstDeclaration name text front line)
    (h' : FirstDeclaration name' text front' line') : name = name' ∧ front = front' ∧ line = line' := by
  have hsame : front.length = front'.length :=
    Nat.le_antisymm (h.first _ _ h'.parts h'.starts (declaresSomeClass_iff.mpr ⟨name', h'.declares⟩))
      (h'.first _ _ h.parts h.starts (declaresSomeClass_iff.mpr ⟨name, h.declares⟩))
  obtain ⟨rfl, rfl⟩ := List.append_inj (h.parts.symm.trans h'.parts) hsame
  exact ⟨h.declares.unique h'.declares, rfl, rfl⟩

/-- The class that is found is declared by the first line. -/
theorem exists_firstDeclaration (hfound : declaredClass? text = some name) :
    ∃ front line, FirstDeclaration name text front line := by
  obtain ⟨front, line, hparts, hstarts, hdeclares, hfirst⟩ := exists_of_declaredClassFrom? hfound
  simp only [endsLineFrom_true_iff] at hstarts hfirst
  exact ⟨front, line, hparts, hstarts, hdeclares, hfirst⟩

/-- Nothing is found in a text where no line declares a class. -/
theorem declaredClass?_eq_none_iff : declaredClass? text = none ↔
    ∀ front line, text = front ++ line → EndsLine front → ¬DeclaresSomeClass line := by
  simp only [declaredClass?, declaredClassFrom?_eq_none_iff, endsLineFrom_true_iff]

/-- **The class that is found** is the one that the first line declares. -/
theorem declaredClass?_eq_some_iff :
    declaredClass? text = some name ↔ ∃ front line, FirstDeclaration name text front line := by
  refine ⟨exists_firstDeclaration, fun ⟨front, line, hfirst⟩ => ?_⟩
  cases hfound : declaredClass? text with
  | none =>
    have hnone := declaredClass?_eq_none_iff.mp hfound front line hfirst.parts hfirst.starts
    exact absurd (declaresSomeClass_iff.mpr ⟨name, hfirst.declares⟩) hnone
  | some other =>
    obtain ⟨front', line', hfirst'⟩ := exists_firstDeclaration hfound
    rw [(hfirst'.unique hfirst).1]

/-- **The first class of a text** is read off its lines. A class is found exactly if some line opens with a
declaration, behind a newline or at the start of the text: with indentation, modifiers, the keyword and an identifier,
with blanks between them that may run over the ends of lines. The first such line decides, and the whole of the
longest identifier in it is the name; there is one such line and one such name. -/
theorem declaredClass?_first (text : List Char) :
    (∀ name, declaredClass? text = some name ↔ ∃ front line, FirstDeclaration name text front line) ∧
    (declaredClass? text = none ↔ ∀ front line, text = front ++ line → EndsLine front → ¬DeclaresSomeClass line) ∧
    ∀ name front line, FirstDeclaration name text front line →
      ∀ name' front' line', FirstDeclaration name' text front' line' → name = name' ∧ front = front' ∧ line = line' :=
  ⟨fun _ => declaredClass?_eq_some_iff, declaredClass?_eq_none_iff, fun _ _ _ h _ _ _ h' => h.unique h'⟩

/-- A line with a keyword and no name is passed over, and modifiers stand on lines of their own. -/
example : declaredClass? "class \x7b\n\tpublic\n\n  sealed\tclass\nName2_.x".toList = some "Name2_".toList := by
  decide +kernel

/-! ## Later lines -/

/-- The lines of a text behind the first one. -/
def laterLines (text : List Char) : List Char := (text.dropWhile (· != '\n')).tail

/-- They stand behind the first newline. -/
theorem laterLines_append {line : List Char} (hinside : '\n' ∉ line) (rest : List Char) :
    laterLines (line ++ '\n' :: rest) = rest := by
  have hnewlineFree : ∀ c ∈ line, (c != '\n') = true := by
    intro c hmem
    simpa using ne_of_mem_of_not_mem hmem hinside
  rw [laterLines, List.dropWhile_append_of_pos hnewlineFree]
  rfl

/-- **Within a line** the search goes on with the later lines. -/
theorem declaredClassFrom?_false (text : List Char) :
    declaredClassFrom? false text = declaredClass? (laterLines text) := by
  induction text with
  | nil => rfl
  | cons c rest ih =>
    by_cases hnewline : c = '\n'
    · rw [hnewline]
      rfl
    · have hsame : (c == '\n') = false := by simpa using hnewline
      simpa [declaredClassFrom?, laterLines, hsame, hnewline] using ih

end ComponentScaffold
