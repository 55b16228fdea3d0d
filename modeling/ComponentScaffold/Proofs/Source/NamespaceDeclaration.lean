import ComponentScaffold.Proofs.Source.Insertion
import ComponentScaffold.Proofs.Text.Bytes
import ComponentScaffold.Proofs.Text.Occurrence

/-! # Finding a namespace declaration

The search for a namespace declaration tries one place of a text after the other. What it comes to is said without
searching: the first place where the keyword starts a word and a dotted name follows behind blanks.

* **`NamesNamespace`**, **`DeclaresNamespace`** — what a declaration reads like, and where it may stand.
* **`NamespaceDeclaration.IsFirst`** — the first declaration of a text; `NamespaceDeclaration.find?_eq_some_iff` says
  that it is the one that is found, and `NamespaceDeclaration.find?_eq_none_iff` that otherwise there is none.
* **`NamespaceDeclaration.find?_least`** — it stands at the least byte offset, and is read as far as it goes.
* **`DeclaresNamespace.change_behind`** — a declaration in front of blanks does not depend on what follows them. -/

namespace ComponentScaffold

open Text

variable {name text before front back rest rest' : List Char} {previous : Option Char}
  {declaration : NamespaceDeclaration}

/-! ## What a declaration reads like -/

/-- What can stand in an identifier stands in words. -/
theorem Text.isWordChar_of_isIdentifierPart {c : Char} (h : isIdentifierPart c = true) : isWordChar c = true := by
  rw [isWordChar, CodeRanges.contains_iff]
  rcases isIdentifierPart_iff.mp h with hupper | hlower | hdigit | rfl
  · exact ⟨(0x41, 0x5A), .tail _ (.head _), hupper⟩
  · exact ⟨(0x61, 0x7A), .tail _ (.tail _ (.tail _ (.head _))), hlower⟩
  · exact ⟨(0x30, 0x39), .head _, hdigit⟩
  · exact ⟨(0x5F, 0x5F), .tail _ (.tail _ (.head _)), by decide⟩

/-- **A namespace is named** at the start of a text: by the keyword, blanks and a dotted name that ends there. -/
def NamesNamespace (name text : List Char) : Prop :=
  ∃ blanks tail, text = namespaceKeyword ++ blanks ++ name ++ tail ∧ blanks ≠ [] ∧
    (∀ c ∈ blanks, isBlank c = true) ∧ IsDottedName name ∧ EndsDotted tail

/-- A dotted name starts with no blank. -/
theorem Text.IsDottedName.solid_head (hdotted : IsDottedName name) (rest : List Char) :
    ∀ c ∈ (name ++ rest).head?, isBlank c = false :=
  head?_append_of_ne_nil hdotted.ne_nil rest hdotted.not_isBlank

/-- It is read whether a namespace is named. -/
theorem NamespaceDeclaration.nameAt?_eq_some_iff :
    NamespaceDeclaration.nameAt? text = some name ↔ NamesNamespace name text := by
  simp only [NamespaceDeclaration.nameAt?, Option.bind_eq_bind, Option.bind_eq_some_iff, after?_eq_some_iff,
    dropBlanks?_eq_some_iff, readDottedName?_eq_some_iff]
  constructor
  · rintro ⟨_, rfl, _, ⟨blanks, rfl, hne, hblank, -⟩, hdotted, tail, rfl, hends⟩
    exact ⟨blanks, tail, by simp, hne, hblank, hdotted, hends⟩
  · rintro ⟨blanks, tail, rfl, hne, hblank, hdotted, hends⟩
    have hsolid := hdotted.solid_head tail
    exact ⟨blanks ++ (name ++ tail), by simp, name ++ tail, ⟨blanks, rfl, hne, hblank, hsolid⟩, hdotted, tail, rfl,
      hends⟩

/-- **A namespace is declared** between two texts: the keyword starts a word, and the namespace is named. -/
structure DeclaresNamespace (name before rest : List Char) : Prop where
  /-- No character of a word stands right before it. -/
  starts : ∀ c ∈ before.getLast?, isWordChar c = false
  /-- The namespace is named. -/
  named : NamesNamespace name rest

/-- The text before a declaration ends apart from it. -/
theorem DeclaresNamespace.apart (h : DeclaresNamespace name before rest) : EndsApart before := by
  intro c hlast
  rw [Bool.eq_false_iff]
  intro hpart
  have houtside := h.starts c hlast
  rw [isWordChar_of_isIdentifierPart hpart] at houtside
  cases houtside

/-! ## The first declaration -/

namespace NamespaceDeclaration

/-- **The declaration that is found** starts a word, and names the namespace. -/
theorem starts_of_findAfter? (h : findAfter? previous text = some declaration) :
    (∀ c ∈ declaration.before.getLast?.or previous, isWordChar c = false) ∧
      nameAt? declaration.rest = some declaration.name := by
  induction text generalizing previous declaration with
  | nil => cases h
  | cons c rest ih =>
    rw [findAfter?] at h
    split at h
    case h_1 found hnamed =>
      obtain rfl := Option.some.inj h
      split at hnamed
      case isTrue => cases hnamed
      case isFalse hfirst =>
        refine ⟨fun d hmem => ?_, hnamed⟩
        obtain rfl : previous = some d := hmem
        simpa using hfirst
    case h_2 =>
      obtain ⟨inner, hfound, rfl⟩ := Option.map_eq_some_iff.1 h
      obtain ⟨hstarts, hnamed⟩ := ih hfound
      refine ⟨fun d hmem => hstarts d ?_, hnamed⟩
      simpa [List.getLast?_cons] using hmem

/-- Where a namespace is named behind a character of no word, the search comes to an end there or earlier. -/
theorem exists_of_nameAt? (hnamed : nameAt? back = some name)
    (hstarts : ∀ c ∈ front.getLast?.or previous, isWordChar c = false) :
    ∃ declaration, findAfter? previous (front ++ back) = some declaration ∧
      declaration.before.length ≤ front.length := by
  -- the search stops at an earlier place or comes to this one
  induction front generalizing previous with
  | nil =>
    cases back with
    | nil => cases hnamed
    | cons c rest =>
      have hfirst : ¬previous.any isWordChar = true := by
        cases previous with
        | none => simp
        | some d => simpa using hstarts d rfl
      refine ⟨⟨[], c :: rest, name⟩, ?_, Nat.le_refl _⟩
      rw [List.nil_append, findAfter?, if_neg hfirst, hnamed]
  | cons c front ih =>
    rw [List.cons_append, findAfter?]
    split
    case h_1 => exact ⟨_, rfl, Nat.zero_le _⟩
    case h_2 =>
      have hstarts' : ∀ d ∈ front.getLast?.or (some c), isWordChar d = false := by
        simpa [List.getLast?_cons] using hstarts
      obtain ⟨inner, hfound, hle⟩ := ih hstarts'
      exact ⟨{ inner with before := c :: inner.before }, by rw [hfound]; rfl, Nat.succ_le_succ hle⟩

/-- **The first namespace declaration** of a text. -/
structure IsFirst (text : List Char) (declaration : NamespaceDeclaration) : Prop where
  /-- The parts make up the text. -/
  parts : text = declaration.before ++ declaration.rest
  /-- The namespace is declared between them. -/
  declares : DeclaresNamespace declaration.name declaration.before declaration.rest
  /-- No namespace is declared earlier. -/
  first : ∀ name front back, text = front ++ back → DeclaresNamespace name front back →
    declaration.before.length ≤ front.length

/-- Of two first declarations neither is earlier. -/
theorem IsFirst.unique {other : NamespaceDeclaration} (h : declaration.IsFirst text) (h' : other.IsFirst text) :
    declaration = other := by
  have hsame : declaration.before.length = other.before.length :=
    Nat.le_antisymm (h.first _ _ _ h'.parts h'.declares) (h'.first _ _ _ h.parts h.declares)
  obtain ⟨hbefore, hrest⟩ := List.append_inj (h.parts.symm.trans h'.parts) hsame
  have hnamed := nameAt?_eq_some_iff.mpr h.declares.named
  rw [hrest, nameAt?_eq_some_iff.mpr h'.declares.named] at hnamed
  have hname := Option.some.inj hnamed
  cases declaration
  cases other
  simp_all

/-- What is found is the first declaration. -/
theorem isFirst_of_find? (hfound : find? text = some declaration) : declaration.IsFirst text := by
  obtain ⟨hstarts, hnamed⟩ := starts_of_findAfter? hfound
  refine ⟨(append_of_findAfter? hfound).symm, ⟨?_, nameAt?_eq_some_iff.mp hnamed⟩, ?_⟩
  · rwa [Option.or_none] at hstarts
  · rintro name front back rfl hdeclares
    have hstarts : ∀ c ∈ front.getLast?.or none, isWordChar c = false := by
      rw [Option.or_none]
      exact hdeclares.starts
    obtain ⟨other, hfound', hle⟩ := exists_of_nameAt? (nameAt?_eq_some_iff.mpr hdeclares.named) hstarts
    obtain rfl := Option.some.inj (hfound.symm.trans hfound')
    exact hle

/-- **Nothing is found** where no namespace is declared. -/
theorem find?_eq_none_iff :
    find? text = none ↔ ∀ name front back, text = front ++ back → ¬DeclaresNamespace name front back := by
  constructor
  · rintro habsent name front back rfl hdeclares
    have hstarts : ∀ c ∈ front.getLast?.or none, isWordChar c = false := by
      rw [Option.or_none]
      exact hdeclares.starts
    obtain ⟨declaration, hfound, -⟩ := exists_of_nameAt? (nameAt?_eq_some_iff.mpr hdeclares.named) hstarts
    rw [← find?, habsent] at hfound
    cases hfound
  · intro hnone
    rw [Option.eq_none_iff_forall_ne_some]
    intro declaration hfound
    have hfirst := isFirst_of_find? hfound
    exact hnone _ _ _ hfirst.parts hfirst.declares

/-- **The declaration that is found** is the first one. -/
theorem find?_eq_some_iff : find? text = some declaration ↔ declaration.IsFirst text := by
  refine ⟨isFirst_of_find?, fun h => ?_⟩
  cases hfound : find? text with
  | none => exact absurd h.declares (find?_eq_none_iff.mp hfound _ _ _ h.parts)
  | some other => rw [(isFirst_of_find? hfound).unique h]

end NamespaceDeclaration

/-! ## By byte offsets -/

namespace NamespaceDeclaration

variable {offset : Nat}

/-- **A declaration opens** at a byte offset: the keyword starts a word there, and before the rest of the text there are
blanks behind it. -/
def OpensAt (text : List Char) (offset : Nat) (rest : List Char) : Prop :=
  ∃ front blanks, text = front ++ namespaceKeyword ++ blanks ++ rest ∧ utf8Size front = offset ∧
    (∀ c ∈ front.getLast?, isWordChar c = false) ∧ blanks ≠ [] ∧ ∀ c ∈ blanks, isBlank c = true

/-- **Some namespace is declared** at a byte offset: an identifier follows. -/
def StandsAt (text : List Char) (offset : Nat) : Prop :=
  ∃ rest name, OpensAt text offset rest ∧ IsIdentifier name ∧ name <+: rest

/-- **A namespace is named** at a byte offset: it is the longest dotted name that follows. -/
def NamesAt (name text : List Char) (offset : Nat) : Prop :=
  ∃ rest, OpensAt text offset rest ∧ LongestDottedName name rest

/-- Some namespace is declared where one is named. -/
theorem standsAt_iff : StandsAt text offset ↔ ∃ name, NamesAt name text offset := by
  constructor
  · rintro ⟨rest, name, hopens, hidentifier, hstarts⟩
    obtain ⟨longest, hlongest⟩ := exists_longestDottedName hidentifier hstarts
    exact ⟨longest, rest, hopens, hlongest⟩
  · rintro ⟨name, rest, hopens, hlongest⟩
    obtain ⟨first, hidentifier, hstarts⟩ := hlongest.dotted.exists_identifier
    exact ⟨rest, first, hopens, hidentifier, hstarts.trans hlongest.starts⟩

/-- A namespace is named where the text before the offset ends and its declaration begins. -/
theorem namesAt_iff :
    NamesAt name text offset ↔ ∃ front back, text = front ++ back ∧ utf8Size front = offset ∧
      DeclaresNamespace name front back := by
  constructor
  · rintro ⟨rest, ⟨front, blanks, rfl, hsize, hstarts, hne, hblank⟩, hlongest⟩
    obtain ⟨hdotted, tail, rfl, hends⟩ := longestDottedName_iff.mp hlongest
    refine ⟨front, namespaceKeyword ++ blanks ++ name ++ tail, by simp, hsize, hstarts, ?_⟩
    exact ⟨blanks, tail, rfl, hne, hblank, hdotted, hends⟩
  · rintro ⟨front, back, rfl, hsize, hstarts, blanks, tail, rfl, hne, hblank, hdotted, hends⟩
    refine ⟨name ++ tail, ⟨front, blanks, by simp, hsize, hstarts, hne, hblank⟩, ?_⟩
    exact longestDottedName_iff.mpr ⟨hdotted, tail, rfl, hends⟩

/-- The first declaration is the one at the least byte offset. -/
theorem IsFirst.offset_le (h : declaration.IsFirst text) {other : Nat} (hstands : StandsAt text other) :
    declaration.offset ≤ other := by
  obtain ⟨name, hnames⟩ := standsAt_iff.mp hstands
  obtain ⟨front, back, hparts, rfl, hdeclares⟩ := namesAt_iff.mp hnames
  exact (utf8Size_le_iff (h.parts.symm.trans hparts)).mpr (h.first name front back hparts hdeclares)

/-- A declaration at the least byte offset is the first one. -/
theorem exists_isFirst (hnames : NamesAt name text offset) (hleast : ∀ other, StandsAt text other → offset ≤ other) :
    ∃ declaration : NamespaceDeclaration, declaration.IsFirst text ∧ declaration.name = name ∧
      declaration.offset = offset := by
  obtain ⟨front, back, hparts, rfl, hdeclares⟩ := namesAt_iff.mp hnames
  refine ⟨⟨front, back, name⟩, ⟨hparts, hdeclares, fun other front' back' hparts' hdeclares' => ?_⟩, rfl, rfl⟩
  have hstands : StandsAt text (utf8Size front') :=
    standsAt_iff.mpr ⟨other, namesAt_iff.mpr ⟨front', back', hparts', rfl, hdeclares'⟩⟩
  exact (utf8Size_le_iff (hparts.symm.trans hparts')).mp (hleast _ hstands)

/-- **The first declaration, by byte offsets.** A namespace and an offset are found exactly if the offset is the least
one at which the keyword starts a word and blanks and an identifier follow, and the namespace is the longest chain of
identifiers with single dots that follows; if there is no such offset, nothing is found. The offset is a character
boundary, from which the text goes on with the keyword. A chain ends before a dot behind which no identifier starts. -/
theorem find?_least (text : List Char) :
    (∀ name offset,
      (∃ declaration, find? text = some declaration ∧ declaration.name = name ∧ declaration.offset = offset) ↔
        NamesAt name text offset ∧ ∀ other, StandsAt text other → offset ≤ other) ∧
    (find? text = none ↔ ∀ offset, ¬StandsAt text offset) ∧
    (∀ declaration, find? text = some declaration →
      cutAt (String.ofList text) declaration.offset =
          .ok (String.ofList declaration.before, String.ofList declaration.rest) ∧
        namespaceKeyword <+: declaration.rest) ∧
    ∀ name rest, LongestDottedName name (name ++ '.' :: rest) ↔
      IsDottedName name ∧ ∀ c ∈ rest.head?, isIdentifierStart c = false := by
  refine ⟨fun name offset => ⟨?_, ?_⟩, ⟨?_, ?_⟩, fun declaration hfound => ?_, fun _ _ => longestDottedName_dot_iff⟩
  · rintro ⟨declaration, hfound, rfl, rfl⟩
    have hfirst := find?_eq_some_iff.mp hfound
    exact ⟨namesAt_iff.mpr ⟨_, _, hfirst.parts, rfl, hfirst.declares⟩, fun _ => hfirst.offset_le⟩
  · rintro ⟨hnames, hleast⟩
    obtain ⟨declaration, hfirst, hsame⟩ := exists_isFirst hnames hleast
    exact ⟨declaration, find?_eq_some_iff.mpr hfirst, hsame⟩
  · intro habsent offset hstands
    obtain ⟨name, hnames⟩ := standsAt_iff.mp hstands
    obtain ⟨front, back, hparts, -, hdeclares⟩ := namesAt_iff.mp hnames
    exact find?_eq_none_iff.mp habsent name front back hparts hdeclares
  · intro habsent
    refine find?_eq_none_iff.mpr fun name front back hparts hdeclares => habsent (utf8Size front) ?_
    exact standsAt_iff.mpr ⟨name, namesAt_iff.mpr ⟨front, back, hparts, rfl, hdeclares⟩⟩
  · have hfirst := find?_eq_some_iff.mp hfound
    obtain ⟨blanks, tail, hkeyword, -⟩ := hfirst.declares.named
    refine ⟨?_, ?_⟩
    · conv_lhs => rw [hfirst.parts]
      exact cutAt_utf8Size declaration.before declaration.rest
    · rw [hkeyword, List.append_assoc, List.append_assoc]
      exact List.prefix_append _ _

/-- Keywords behind one another name the second one, and a digit behind a dot ends the name. -/
example : (find? "é namespace\n namespace.a1.2b".toList).map (fun found => (found.name, found.offset)) =
    some ("namespace.a1".toList, 3) := by
  decide +kernel

end NamespaceDeclaration

/-! ## In front of blanks -/

/-- What starts blank starts with no character of an identifier, and with no dot. -/
theorem Text.StartsBlank.stops (hblank : StartsBlank rest) :
    ∀ c ∈ rest.head?, isIdentifierPart c = false ∧ c ≠ '.' := by
  obtain ⟨first, hmem, hfirst⟩ := hblank
  intro c hmem'
  obtain rfl : first = c := Option.some_inj.mp (hmem.symm.trans hmem')
  constructor
  · rw [Bool.eq_false_iff]
    intro hpart
    rw [not_isBlank_of_isIdentifierPart hpart] at hfirst
    cases hfirst
  · rintro rfl
    revert hfirst
    decide

/-- Where a dotted name ends in front of blanks is told by what stands before them. -/
theorem Text.EndsDotted.change_behind {more : List Char} (hends : EndsDotted (more ++ rest))
    (hblank : StartsBlank rest') : EndsDotted (more ++ rest') := by
  cases more with
  | nil => exact endsDotted_of_ne_dot hblank.stops
  | cons c others =>
    refine ⟨hends.stops, fun behind hparts d hmem => ?_⟩
    obtain ⟨rfl, rfl⟩ := List.cons.inj hparts
    cases others with
    | nil =>
      rw [Bool.eq_false_iff]
      intro hstart
      have hpart := (hblank.stops d hmem).1
      rw [isIdentifierPart_of_isIdentifierStart hstart] at hpart
      cases hpart
    | cons e others => exact hends.last _ rfl d hmem

/-- The letters of the keyword stand in identifiers. -/
theorem isIdentifierPart_of_mem_namespaceKeyword : ∀ c ∈ namespaceKeyword, isIdentifierPart c = true :=
  List.all_eq_true.mp (by decide)

/-- **A declaration in front of blanks** stands there whatever follows them: of a text that is cut in front of blanks,
behind a word, no more than that there are blanks is needed to declare a namespace before that word. -/
theorem DeclaresNamespace.change_behind {lead word : List Char} (h : DeclaresNamespace name front back)
    (hapart : EndsApart lead) (hsolid : EndsSolid word) (hblank : StartsBlank rest) (hblank' : StartsBlank rest')
    (hparts : lead ++ word ++ rest = front ++ back) (hearlier : front.length < lead.length) :
    ∃ back', lead ++ word ++ rest' = front ++ back' ∧ DeclaresNamespace name front back' := by
  obtain ⟨blanks, tail, rfl, hne, hallBlank, hdotted, hends⟩ := h.named
  have hparts' : lead ++ (word ++ rest) = front ++ namespaceKeyword ++ (blanks ++ name ++ tail) := by
    simpa using hparts
  obtain ⟨within, rfl, hfollows⟩ :=
    exists_of_starts_before isIdentifierPart_of_mem_namespaceKeyword hapart hparts' hearlier
  rw [← List.append_assoc] at hfollows
  obtain ⟨more, hwhole, rfl⟩ :=
    exists_of_word_before_blank (hsolid.prepend within) hblank hfollows.symm hallBlank hdotted.not_isBlank
  refine ⟨namespaceKeyword ++ blanks ++ name ++ (more ++ rest'), ?_, h.starts, blanks, more ++ rest', rfl, hne,
    hallBlank, hdotted, hends.change_behind hblank'⟩
  rw [List.append_assoc _ within, hwhole]
  simp

end ComponentScaffold
