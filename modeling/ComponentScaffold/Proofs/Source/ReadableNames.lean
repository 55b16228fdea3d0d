import ComponentScaffold.Proofs.Source.ClassDeclaration
import ComponentScaffold.Proofs.Source.NamespaceDeclaration
import ComponentScaffold.Proofs.Source.ViewModelText

/-! # Which names are read whole

A component may have a name of any script. A declaration is read as far as its name is one in ASCII, so a class or a
namespace with another name is read in part, or not at all.

* **`classDeclaring`**, **`namespaceDeclaring`** — declarations of such names.
* **`declaredClass?_classDeclaring`**, **`offset_and_prefix_of_find?`** — what is read of them.
* **`declarations_readWhole_iff`** — they are read whole exactly if the names are in ASCII. -/

namespace ComponentScaffold

open Text

variable {name : String} {names : List String} {body : List Char}

/-! ## Names in ASCII -/

/-- **A name in ASCII.** -/
def IsAscii (name : String) : Prop := ∀ c ∈ name.toList, c.toNat < 0x80

instance : DecidablePred IsAscii := fun name =>
  (List.decidableBAll _ _ : Decidable (∀ c ∈ name.toList, c.toNat < 0x80))

/-- What can stand in an identifier is in ASCII. -/
theorem Text.toNat_lt_of_isIdentifierPart {c : Char} (h : isIdentifierPart c = true) : c.toNat < 0x80 := by
  have hbounds := isIdentifierPart_bounds h
  omega

/-- No digit starts a name. -/
theorem not_isDigit_of_isNameStart {c : Char} (h : isNameStart c = true) : c.isDigit = false := by
  rw [Bool.eq_false_iff]
  intro hdigit
  have hbounds : 0x30 ≤ c.toNat ∧ c.toNat ≤ 0x39 := by
    rw [Char.isDigit, Bool.and_eq_true, decide_eq_true_eq, decide_eq_true_eq] at hdigit
    exact hdigit
  rw [isNameStart, Bool.or_eq_true, beq_iff_eq] at h
  rcases h with hletter | rfl
  · have hletters := bounds_of_isAlphabetic hletter (by omega)
    omega
  · revert hbounds
    decide

/-- **The ASCII characters that start names** are those that start identifiers. -/
theorem isIdentifierStart_of_isNameStart {c : Char} (h : isNameStart c = true) (hascii : c.toNat < 0x80) :
    isIdentifierStart c = true := by
  have hpart : isNamePart c = true := by
    simp only [isNameStart, isNamePart, isAlphanumeric, Bool.or_eq_true] at h ⊢
    exact h.imp_left .inl
  have hdigit := not_isDigit_of_isNameStart h
  have hwithin := isIdentifierPart_of_isNamePart hpart hascii
  simpa [isIdentifierPart, isIdentifierStart, Char.isAlphanum, hdigit] using hwithin

/-- **The component names in ASCII** are identifiers, and the only ones. -/
theorem isIdentifier_iff_isAscii (hvalid : isComponentName name = true) :
    IsIdentifier name.toList ↔ IsAscii name := by
  refine ⟨fun hidentifier c hmem => toNat_lt_of_isIdentifierPart (hidentifier.isIdentifierPart c hmem),
    fun hascii => ?_⟩
  have hpart (c : Char) (hmem : c ∈ name.toList) : isIdentifierPart c = true :=
    isIdentifierPart_of_isNamePart (isNamePart_of_mem hvalid hmem) (hascii c hmem)
  rw [isComponentName] at hvalid
  rw [IsAscii] at hascii
  cases hletters : name.toList with
  | nil =>
    rw [hletters] at hvalid
    cases hvalid
  | cons first others =>
    rw [hletters] at hvalid hascii hpart
    have hstart := (Bool.and_eq_true_iff.mp hvalid).1
    exact ⟨isIdentifierStart_of_isNameStart hstart (hascii first List.mem_cons_self),
      fun d hmem => hpart d (List.mem_cons_of_mem first hmem)⟩

/-! ## Classes -/

/-- **The declaration of a class**, with other lines behind it. -/
def classDeclaring (name : String) (body : List Char) : List Char :=
  "public class ".toList ++ name.toList ++ '\n' :: body

/-- The part of a class's name that is read. -/
def readPart (name : String) : List Char := name.toList.takeWhile isIdentifierPart

/-- The modifier of the declaration is dropped. -/
theorem dropModifiers_classDeclaring (name : String) (body : List Char) :
    dropModifiers (classDeclaring name body) = classKeyword ++ ' ' :: (name.toList ++ '\n' :: body) := by
  have hrun : Modifiers ("public".toList ++ [' '] ++ []) :=
    .more (by decide) (by decide) (List.forall_mem_singleton.mpr (by decide)) .none
  have hparts : classDeclaring name body =
      "public".toList ++ [' '] ++ [] ++ (classKeyword ++ ' ' :: (name.toList ++ '\n' :: body)) := rfl
  rw [hparts, hrun.dropModifiers_append]

/-- A run of characters ends before one that does not belong to it. -/
theorem takeWhile_append_cons {p : Char → Bool} {c : Char} (hstop : p c = false) (run rest : List Char) :
    (run ++ c :: rest).takeWhile p = run.takeWhile p := by
  induction run with
  | nil => simp [hstop]
  | cons d run ih => simp only [List.cons_append, List.takeWhile_cons, ih]

/-- **The class at the start of the declaration** is read as far as its name is in ASCII. -/
theorem declaredClassAt?_classDeclaring (hvalid : isComponentName name = true) (body : List Char) :
    declaredClassAt? (classDeclaring name body) = if readPart name = [] then none else some (readPart name) := by
  have hline : (classDeclaring name body).dropWhile isIndent = classDeclaring name body := rfl
  have hsolid : ∀ c ∈ (name.toList ++ '\n' :: body).head?, isBlank c = false :=
    head?_append_of_ne_nil (ne_nil_of_isComponentName hvalid) _ fun c hmem =>
      not_isBlank_of_isNamePart (isNamePart_of_mem hvalid hmem)
  have hopens : declaredClassAt? (classDeclaring name body) =
      (readIdentifier? (name.toList ++ '\n' :: body)).map (·.1) := by
    simp only [declaredClassAt?, hline, dropModifiers_classDeclaring, after?_eq_some_iff.mpr rfl,
      Option.bind_eq_bind, Option.bind_some, dropBlanks?_cons (by decide : isBlank ' ' = true) hsolid]
    cases readIdentifier? (name.toList ++ '\n' :: body) <;> rfl
  have hends (run : List Char) : (run ++ '\n' :: body).takeWhile isIdentifierPart = run.takeWhile isIdentifierPart :=
    takeWhile_append_cons (by decide) run body
  rw [hopens, readPart]
  rw [isComponentName] at hvalid
  cases hletters : name.toList with
  | nil =>
    rw [hletters] at hvalid
    cases hvalid
  | cons first others =>
    rw [hletters] at hvalid
    have hstart := (Bool.and_eq_true_iff.mp hvalid).1
    rw [List.cons_append, readIdentifier?]
    -- the first character of a name that can stand in an identifier can start one
    by_cases hpart : isIdentifierPart first = true
    case pos =>
      have hstarts := isIdentifierStart_of_isNameStart hstart (toNat_lt_of_isIdentifierPart hpart)
      simp [hstarts, hpart, hends]
    case neg =>
      have hstops : ¬isIdentifierStart first = true :=
        fun hstarts => hpart (isIdentifierPart_of_isIdentifierStart hstarts)
      simp [hstops, hpart]

/-- **What is read of a class's name** is the part in ASCII at its start; without such a part, the class is passed
over. -/
theorem declaredClass?_classDeclaring (hvalid : isComponentName name = true) (body : List Char) :
    declaredClass? (classDeclaring name body) =
      if readPart name = [] then declaredClass? body else some (readPart name) := by
  have hline : classDeclaring name body = 'p' :: ("ublic class ".toList ++ name.toList ++ '\n' :: body) := rfl
  have hinside : '\n' ∉ "ublic class ".toList ++ name.toList := by
    rw [List.mem_append, not_or]
    exact ⟨by decide, not_mem_of_isComponentName hvalid (by decide) (by decide)⟩
  have hfirst := declaredClassAt?_classDeclaring hvalid body
  rw [hline] at hfirst
  rw [declaredClass?, hline, declaredClassFrom?, if_pos rfl, hfirst]
  by_cases hempty : readPart name = []
  case pos =>
    rw [if_pos hempty, if_pos hempty]
    exact (declaredClassFrom?_false _).trans (congrArg declaredClass? (laterLines_append hinside body))
  case neg => rw [if_neg hempty, if_neg hempty]

/-! ## Namespaces -/

/-- **The namespace of several names**, joined by dots. -/
def joined (names : List String) : List Char := (".".intercalate names).toList

/-- **The declaration of a namespace.** -/
def namespaceDeclaring (names : List String) : List Char := "namespace ".toList ++ joined names ++ [';']

/-- A blank stands behind the keyword. -/
theorem namespaceDeclaring_eq (names : List String) :
    namespaceDeclaring names = namespaceKeyword ++ ' ' :: (joined names ++ [';']) := by
  have hkeyword : "namespace ".toList = namespaceKeyword ++ [' '] := by decide
  unfold namespaceDeclaring
  generalize "namespace ".toList = opening at *
  subst hkeyword
  simp

/-- The first of several names is followed by a dot. -/
theorem joined_cons_cons (name next : String) (names : List String) :
    joined (name :: next :: names) = name.toList ++ '.' :: joined (next :: names) := by
  have hdot : ".".toList = ['.'] := rfl
  rw [joined, String.intercalate_cons_cons, String.toList_append, String.toList_append, hdot, joined]
  simp

/-- A single name stands for itself. -/
theorem joined_singleton (name : String) : joined [name] = name.toList := by
  rw [joined, String.intercalate_singleton]

/-- The characters of a namespace are dots and those of its names. -/
theorem mem_joined {c : Char} (hmem : c ∈ joined names) : c = '.' ∨ ∃ name ∈ names, c ∈ name.toList := by
  induction names with
  | nil => cases hmem
  | cons name names ih =>
    cases names with
    | nil =>
      rw [joined_singleton] at hmem
      exact .inr ⟨name, List.mem_singleton_self name, hmem⟩
    | cons next names =>
      rw [joined_cons_cons] at hmem
      rcases List.mem_append.mp hmem with hfirst | hbehind
      · exact .inr ⟨name, List.mem_cons_self, hfirst⟩
      rcases List.mem_cons.mp hbehind with hdot | hlater
      · exact .inl hdot
      · exact (ih hlater).imp_right fun ⟨other, hwithin, hmem⟩ => ⟨other, List.mem_cons_of_mem name hwithin, hmem⟩

/-- The characters of its names stand in a namespace. -/
theorem mem_joined_of_mem (hwithin : name ∈ names) {c : Char} (hmem : c ∈ name.toList) : c ∈ joined names := by
  induction names with
  | nil => cases hwithin
  | cons first names ih =>
    cases names with
    | nil =>
      rw [List.mem_singleton.mp hwithin] at hmem
      rwa [joined_singleton]
    | cons next names =>
      rw [joined_cons_cons, List.mem_append, List.mem_cons]
      rcases List.mem_cons.mp hwithin with rfl | hlater
      · exact .inl hmem
      · exact .inr (.inr (ih hlater))

/-- Identifiers joined by dots are a dotted name. -/
theorem isDottedName_joined (hne : names ≠ []) (hidentifiers : ∀ name ∈ names, IsIdentifier name.toList) :
    IsDottedName (joined names) := by
  induction names with
  | nil => exact absurd rfl hne
  | cons name names ih =>
    obtain ⟨hfirst, hothers⟩ := List.forall_mem_cons.mp hidentifiers
    cases names with
    | nil =>
      rw [joined_singleton]
      exact .single hfirst
    | cons next names =>
      rw [joined_cons_cons]
      exact .dot hfirst (ih (List.cons_ne_nil next names) hothers)

section

variable (hvalid : ∀ name ∈ names, isComponentName name = true)

include hvalid

/-- **The namespaces in ASCII** are dotted names, and the only ones. -/
theorem isDottedName_joined_iff (hne : names ≠ []) :
    IsDottedName (joined names) ↔ ∀ name ∈ names, IsAscii name := by
  constructor
  · intro hdotted name hwithin c hmem
    rcases hdotted.isIdentifierPart_or_dot c (mem_joined_of_mem hwithin hmem) with hpart | rfl
    · exact toNat_lt_of_isIdentifierPart hpart
    · decide
  · intro hascii
    exact isDottedName_joined hne fun name hmem => (isIdentifier_iff_isAscii (hvalid name hmem)).mpr (hascii name hmem)

/-- No blank stands in a namespace. -/
theorem not_isBlank_of_mem_joined {c : Char} (hmem : c ∈ joined names) : isBlank c = false := by
  rcases mem_joined hmem with rfl | ⟨name, hwithin, hmem⟩
  · decide
  · exact not_isBlank_of_isNamePart (isNamePart_of_mem (hvalid name hwithin) hmem)

/-- A declaration stands at the start of the text, since there is no other blank in it. -/
theorem eq_nil_of_declaresNamespace {found front back : List Char} (hdeclares : DeclaresNamespace found front back)
    (hparts : namespaceDeclaring names = front ++ back) : front = [] := by
  obtain ⟨blanks, tail, rfl, hne, hblank, -⟩ := hdeclares.named
  obtain ⟨space, others, rfl⟩ := List.exists_cons_of_ne_nil hne
  have hspace := hblank space List.mem_cons_self
  -- the declaration holds one blank, and it stands behind the keyword
  have hsolid : space ∉ namespaceKeyword ∧ space ∉ joined names ++ [';'] := by
    constructor
    · intro hmem
      rw [not_isBlank_of_isIdentifierPart (isIdentifierPart_of_mem_namespaceKeyword space hmem)] at hspace
      cases hspace
    · intro hmem
      rcases List.mem_append.mp hmem with hwithin | hlast
      · rw [not_isBlank_of_mem_joined hvalid hwithin] at hspace
        cases hspace
      · rw [List.mem_singleton.mp hlast] at hspace
        exact absurd hspace (by decide)
  have hcut : namespaceKeyword ++ ' ' :: (joined names ++ [';']) =
      (front ++ namespaceKeyword) ++ space :: (others ++ found ++ tail) := by
    rw [← namespaceDeclaring_eq, hparts]
    simp
  have hsame := ((List.append_cons_inj_of_notMem hsolid.1 hsolid.2).mp hcut).1
  simpa using hsame

/-- A namespace is named at the start of its declaration if a dotted name stands there. -/
theorem nameAt?_namespaceDeclaring : NamespaceDeclaration.nameAt? (namespaceDeclaring names) =
    readDottedName? (joined names ++ [';']) := by
  have hsolid : ∀ c ∈ (joined names ++ [';']).head?, isBlank c = false := by
    intro c hmem
    rcases List.mem_append.mp (List.mem_of_mem_head? hmem) with hwithin | hlast
    · exact not_isBlank_of_mem_joined hvalid hwithin
    · rw [List.mem_singleton.mp hlast]
      decide
  have hspace : isBlank ' ' = true := by decide
  have hblank := dropBlanks?_cons hspace hsolid
  simp only [NamespaceDeclaration.nameAt?, after?_eq_some_iff.mpr (namespaceDeclaring_eq names), Option.bind_eq_bind,
    Option.bind_some, hblank]

/-- **What is read of a namespace** is the dotted name at its start. -/
theorem find?_namespaceDeclaring : NamespaceDeclaration.find? (namespaceDeclaring names) =
    (readDottedName? (joined names ++ [';'])).map fun read => ⟨[], namespaceDeclaring names, read⟩ := by
  have hnamed := nameAt?_namespaceDeclaring hvalid
  cases hread : readDottedName? (joined names ++ [';']) with
  | none =>
    rw [Option.map_none, NamespaceDeclaration.find?_eq_none_iff]
    intro found front back hparts hdeclares
    obtain rfl := eq_nil_of_declaresNamespace hvalid hdeclares hparts
    rw [List.nil_append] at hparts
    have hnamed' := NamespaceDeclaration.nameAt?_eq_some_iff.mpr hdeclares.named
    rw [← hparts, hnamed, hread] at hnamed'
    cases hnamed'
  | some found =>
    rw [Option.map_some, NamespaceDeclaration.find?_eq_some_iff]
    rw [hread] at hnamed
    exact ⟨rfl, ⟨by simp, NamespaceDeclaration.nameAt?_eq_some_iff.mp hnamed⟩, fun _ _ _ _ _ => Nat.zero_le _⟩

/-- **A namespace is read whole** exactly if its names are in ASCII. -/
theorem find?_namespaceDeclaring_eq_joined_iff (hne : names ≠ []) :
    (NamespaceDeclaration.find? (namespaceDeclaring names)).map (·.name) = some (joined names) ↔
      ∀ name ∈ names, IsAscii name := by
  have hread : (NamespaceDeclaration.find? (namespaceDeclaring names)).map (·.name) =
      readDottedName? (joined names ++ [';']) := by
    rw [find?_namespaceDeclaring hvalid, Option.map_map]
    exact Option.map_id'
  rw [hread, ← isDottedName_joined_iff hvalid hne]
  refine ⟨isDottedName_of_readDottedName?, fun hdotted => readDottedName?_append hdotted ?_⟩
  exact endsDotted_of_ne_dot (by simp [isIdentifierPart])

/-- No more is found than a part of the namespace, at the start of the text. -/
theorem offset_and_prefix_of_find? {found : NamespaceDeclaration}
    (h : NamespaceDeclaration.find? (namespaceDeclaring names) = some found) :
    found.offset = 0 ∧ found.name <+: joined names := by
  rw [find?_namespaceDeclaring hvalid] at h
  obtain ⟨read, hnamed, rfl⟩ := Option.map_eq_some_iff.mp h
  obtain ⟨hdotted, tail, hparts, -⟩ := readDottedName?_eq_some_iff.mp hnamed
  refine ⟨rfl, ?_⟩
  have hwithin : read <+: joined names ++ [';'] := ⟨tail, hparts.symm⟩
  rcases List.prefix_concat_iff.mp hwithin with hwhole | hinside
  · -- a dotted name does not hold the semicolon
    have habsent : ';' ∉ read := hdotted.not_mem (by decide) (by decide)
    rw [hwhole] at habsent
    exact absurd (List.mem_append_right _ (List.mem_singleton_self ';')) habsent
  · exact hinside

end

/-! ## Whole names -/

/-- What is read of a class's name is an identifier. -/
theorem isIdentifier_of_declaredClass? {text read : List Char} (h : declaredClass? text = some read) :
    IsIdentifier read := by
  obtain ⟨_, _, hfirst⟩ := declaredClass?_eq_some_iff.mp h
  obtain ⟨_, _, -, -, hlongest⟩ := hfirst.declares
  exact hlongest.identifier

/-- **A class's name is read whole** exactly if it is in ASCII. -/
theorem declaredClass?_classDeclaring_eq_name_iff (hvalid : isComponentName name = true) (body : List Char) :
    declaredClass? (classDeclaring name body) = some name.toList ↔ IsAscii name := by
  rw [← isIdentifier_iff_isAscii hvalid]
  refine ⟨isIdentifier_of_declaredClass?, fun hidentifier => ?_⟩
  have hwhole : readPart name = name.toList := List.takeWhile_eq_self_iff.mpr hidentifier.isIdentifierPart
  rw [declaredClass?_classDeclaring hvalid, hwhole, if_neg hidentifier.ne_nil]

/-- **Declarations are read whole exactly if their names are in ASCII.** Of the names of components, those in ASCII are
the ones whose class is found with its whole name, and the namespaces made of them are the ones found whole; so two of
these namespaces are never taken for one. Of any other class no more is read than the part in ASCII at the start of its
name, and of any other namespace no more than a part of it. -/
theorem declarations_readWhole_iff (hvalid : isComponentName name = true) (body : List Char) (hne : names ≠ [])
    (hknown : ∀ name ∈ names, isComponentName name = true) :
    ((declaredClass? (classDeclaring name body) = some name.toList ↔ IsAscii name) ∧
      declaredClass? (classDeclaring name body) =
        if readPart name = [] then declaredClass? body else some (readPart name)) ∧
    (((NamespaceDeclaration.find? (namespaceDeclaring names)).map (·.name) = some (joined names) ↔
        ∀ name ∈ names, IsAscii name) ∧
      ∀ found, NamespaceDeclaration.find? (namespaceDeclaring names) = some found →
        found.offset = 0 ∧ found.name <+: joined names) ∧
    ∀ others : List String, others ≠ [] → (∀ name ∈ others, isComponentName name = true) →
      (∀ name ∈ names ++ others, IsAscii name) →
      (NamespaceDeclaration.find? (namespaceDeclaring names)).map (·.name) =
        (NamespaceDeclaration.find? (namespaceDeclaring others)).map (·.name) → joined names = joined others := by
  refine ⟨⟨declaredClass?_classDeclaring_eq_name_iff hvalid body, declaredClass?_classDeclaring hvalid body⟩,
    ⟨find?_namespaceDeclaring_eq_joined_iff hknown hne, fun found => offset_and_prefix_of_find? hknown⟩, ?_⟩
  intro others hne' hknown' hascii hsame
  obtain ⟨hfirst, hsecond⟩ := List.forall_mem_append.mp hascii
  rw [(find?_namespaceDeclaring_eq_joined_iff hknown hne).mpr hfirst,
    (find?_namespaceDeclaring_eq_joined_iff hknown' hne').mpr hsecond] at hsame
  exact Option.some.inj hsame

/-- A class and a namespace in ASCII, next to other lines. -/
theorem declarations_readWhole_underscore :
    isComponentName "_Main2" = true ∧ declaredClass? (classDeclaring "_Main2" "\x7b class Other \x7d\n".toList) =
        some "_Main2".toList ∧
      (NamespaceDeclaration.find? (namespaceDeclaring ["App", "_Views"])).map (·.name) = some "App._Views".toList := by
  have hvalid : isComponentName "_Main2" = true := by decide +kernel
  have hknown : ∀ name ∈ ["App", "_Views"], isComponentName name = true := by decide +kernel
  obtain ⟨⟨hwhole, -⟩, ⟨hnamespaces, -⟩, -⟩ :=
    declarations_readWhole_iff hvalid "\x7b class Other \x7d\n".toList (List.cons_ne_nil _ _) hknown
  exact ⟨hvalid, hwhole.mpr (by decide), hnamespaces.mpr (by decide)⟩

/-- **Other names are not read whole**: of two classes one is read in part and one is passed over; and two namespaces
are taken for one, so that no import is added to the one for a base class in the other. -/
theorem declarations_cutShort :
    (isComponentName "Größe" = true ∧ isComponentName "Grün" = true ∧ isComponentName "Été" = true) ∧
      declaredClass? (classDeclaring "Größe" "\x7b \x7d\n".toList) = some "Gr".toList ∧
      declaredClass? (classDeclaring "Été" "\x7b \x7d\n".toList) = none ∧
      (NamespaceDeclaration.find? (namespaceDeclaring ["App", "Größe"])).map (·.name) = some "App.Gr".toList ∧
      (NamespaceDeclaration.find? (namespaceDeclaring ["App", "Grün"])).map (·.name) = some "App.Gr".toList ∧
      (addImport (namespaceDeclaring ["App", "Grün"])
        ((NamespaceDeclaration.find? (namespaceDeclaring ["App", "Größe"])).map (·.name))).2 = none := by
  decide +kernel

end ComponentScaffold
