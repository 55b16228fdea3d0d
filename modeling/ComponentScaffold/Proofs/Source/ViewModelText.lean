import ComponentScaffold.Component.Kind
import ComponentScaffold.Proofs.Source.ClassHead
import ComponentScaffold.Proofs.Text.DottedName
import ComponentScaffold.Proofs.Text.Tables
import ComponentScaffold.Source.Edit
import ComponentScaffold.Source.Token

/-! # The text of a view-model

A new view-model is a text with a placeholder namespace. It gets its own namespace, and then a base
class; each of the two edits looks for its place anew, in a text that holds names which may themselves
read like a marker or a keyword.

* **`viewModelDeclaring`** — the text with its namespace, which the first edit leaves
  (`replaceRegion_viewModelSource`).
* **`addImport_viewModelDeclaring`** — the import that the second edit adds.
* **`classHead_viewModelDeclaring`** — the class that it finds.
* **`viewModelSource_edited`** — both edits succeed, and the text that they leave. -/

namespace ComponentScaffold

open Text

variable {name : String} {namespaceName : List Char}

/-! ## The names -/

/-- What can stand in a name is no blank. -/
theorem not_isBlank_of_isNamePart {c : Char} (h : isNamePart c = true) : isBlank c = false := by
  obtain ⟨⟨hletters, hnumbers, -⟩, -⟩ := ranges_apart
  simp only [isNamePart, isAlphanumeric, Bool.or_eq_true, beq_iff_eq] at h
  rcases h with (hletter | hnumber) | rfl
  · exact CodeRanges.not_contains_of_apart hletters hletter
  · exact CodeRanges.not_contains_of_apart hnumbers hnumber
  · decide

/-- **The ASCII characters of names** are those of identifiers. -/
theorem isIdentifierPart_of_isNamePart {c : Char} (h : isNamePart c = true) (hascii : c.toNat < 0x80) :
    isIdentifierPart c = true := by
  simp only [isNamePart, isAlphanumeric, Bool.or_eq_true, beq_iff_eq] at h
  rw [isIdentifierPart_iff]
  rcases h with (hletter | hnumber) | rfl
  · rcases bounds_of_isAlphabetic hletter hascii with hupper | hlower
    · exact .inl hupper
    · exact .inr (.inl hlower)
  · exact .inr (.inr (.inl (bounds_of_isNumber hnumber hascii)))
  · exact .inr (.inr (.inr rfl))

/-- An ASCII character that is in no identifier is in no name. -/
theorem not_isNamePart_of_ascii {c : Char} (hascii : c.toNat < 0x80) (hpart : isIdentifierPart c = false) :
    isNamePart c = false := by
  rw [Bool.eq_false_iff] at hpart ⊢
  exact fun hholds => hpart (isIdentifierPart_of_isNamePart hholds hascii)

/-- A name is not empty. -/
theorem ne_nil_of_isComponentName (hvalid : isComponentName name = true) : name.toList ≠ [] := by
  intro hempty
  rw [isComponentName, hempty] at hvalid
  cases hvalid

/-- An ASCII character that is in no identifier is not in the name of a component. -/
theorem not_mem_of_isComponentName (hvalid : isComponentName name = true) {c : Char}
    (hascii : c.toNat < 0x80) (hpart : isIdentifierPart c = false) : c ∉ name.toList := by
  intro hmem
  have hholds := isNamePart_of_mem hvalid hmem
  rw [not_isNamePart_of_ascii hascii hpart] at hholds
  cases hholds

/-- A blank in front of a text that starts with none is dropped. -/
theorem dropBlanks?_cons {blank : Char} {rest : List Char} (h : isBlank blank = true)
    (hends : ∀ c ∈ rest.head?, isBlank c = false) : dropBlanks? (blank :: rest) = some rest :=
  dropBlanks?_eq_some_iff.mpr ⟨[blank], rfl, List.cons_ne_nil _ _, by simpa using h, hends⟩

/-! ## Its own namespace -/

/-- The text between the namespace declaration and the keyword of the class. -/
def classLead : List Char := "\n\npublic partial ".toList

/-- The text behind the name of the class. -/
def emptyBody : List Char := "\n\x7b\n\x7d\n".toList

/-- The text behind the namespace declaration. -/
def classText (name : String) : List Char :=
  classLead ++ classKeyword ++ ' ' :: (name.toList ++ emptyBody)

/-- **The text of a view-model in a namespace**, before it has a base class. -/
def viewModelDeclaring (namespaceName : List Char) (name : String) : List Char :=
  namespaceKeyword ++ ' ' :: (namespaceName ++ ';' :: classText name)

/-- A new view-model lies in the placeholder namespace. -/
theorem viewModelSource_eq (name : String) :
    (viewModelSource name).toList = viewModelDeclaring placeholderNamespace.toList name := by
  have hliterals : (viewModelSource name).toList =
      (namespaceKeyword ++ [' ']) ++ placeholderNamespace.toList ++
        (';' :: classLead ++ classKeyword ++ [' ']) ++ name.toList ++ emptyBody := by
    simp only [viewModelSource, toString, String.toList_append]
    rfl
  rw [hliterals, viewModelDeclaring, classText]
  simp

/-- **A view-model gets its own namespace** in place of the placeholder. -/
theorem replaceRegion_viewModelSource (name : String) (namespaceName : List Char) :
    replaceRegion (viewModelSource name).toList NamespaceToken.codeNamespace.startMarker.toList
        NamespaceToken.codeNamespace.endMarker.toList namespaceName =
      .ok (viewModelDeclaring namespaceName name) := by
  have hmarkers : NamespaceToken.codeNamespace.startMarker.toList = namespaceKeyword ++ [' '] ∧
      NamespaceToken.codeNamespace.endMarker.toList = [';'] := ⟨rfl, rfl⟩
  have habsent : ';' ∉ placeholderNamespace.toList := by decide
  rw [viewModelSource_eq, hmarkers.1, hmarkers.2, replaceRegion_eq_ok_iff]
  refine ⟨[], placeholderNamespace.toList, classText name,
    ⟨?_, fun front back hparts => Nat.zero_le _⟩, cutsAtFirst_singleton habsent _, ?_⟩
  · simp [viewModelDeclaring]
  · simp [viewModelDeclaring]

/-! ## The import -/

/-- A view-model declares its namespace at its start. -/
theorem namespace_viewModelDeclaring (hdotted : IsDottedName namespaceName) (name : String) :
    NamespaceDeclaration.find? (viewModelDeclaring namespaceName name) =
      some ⟨[], viewModelDeclaring namespaceName name, namespaceName⟩ := by
  have hnamed : NamespaceDeclaration.nameAt? (viewModelDeclaring namespaceName name) =
      some namespaceName := by
    have hstart := head?_append_of_ne_nil hdotted.ne_nil (';' :: classText name) hdotted.not_isBlank
    have hends : EndsDotted (';' :: classText name) := endsDotted_of_ne_dot (by simp [isIdentifierPart])
    rw [NamespaceDeclaration.nameAt?, viewModelDeclaring, after?_eq_some_iff.mpr rfl]
    simp only [Option.bind_eq_bind, Option.bind_some]
    rw [dropBlanks?_cons (by decide) hstart, Option.bind_some, readDottedName?_append hdotted hends]
  have htext : ∃ c rest, viewModelDeclaring namespaceName name = c :: rest := ⟨_, _, rfl⟩
  obtain ⟨c, rest, htext⟩ := htext
  rw [htext] at hnamed ⊢
  rw [NamespaceDeclaration.find?, NamespaceDeclaration.findAfter?, Option.any_none]
  simp [hnamed]

/-- No end marker of a namespace stands in the class of a view-model. -/
theorem not_mem_classText (hvalid : isComponentName name = true) : ';' ∉ classText name := by
  have habsent : ';' ∉ name.toList := not_mem_of_isComponentName hvalid (by decide) (by decide)
  have hliterals : ';' ∉ classLead ++ classKeyword ∧ ';' ∉ emptyBody := by decide
  simp only [classText, List.mem_append, List.mem_cons, not_or] at hliterals ⊢
  exact ⟨hliterals.1, by decide, habsent, hliterals.2⟩

/-- **The import of a namespace is not in the text** of a view-model: it would have to end with the only
end marker, so its blank would be the one in the declaration of the namespace, behind another word. -/
theorem not_occursIn_viewModelDeclaring (hvalid : isComponentName name = true)
    (hdotted : IsDottedName namespaceName) (base : List Char) :
    occursIn (importLine base) (viewModelDeclaring namespaceName name) = false := by
  rw [Bool.eq_false_iff, ne_eq, occursIn_iff]
  rintro ⟨front, back, hparts⟩
  have hword : "using ".toList = "using".toList ++ [' '] := by decide
  have hmark : ";".toList = [';'] := by decide
  -- the import would end at the one semicolon, so the text before it would end as the import does
  have hmarked : namespaceKeyword ++ ' ' :: namespaceName ++ ';' :: classText name =
      front ++ ("using".toList ++ ' ' :: base) ++ ';' :: back := by
    unfold viewModelDeclaring importLine at hparts
    generalize "using ".toList = line, "using".toList = front', ";".toList = ending at *
    subst hword hmark
    simpa using hparts.symm
  have hendMarker : ';' ∉ namespaceKeyword ++ ' ' :: namespaceName := by
    simp only [List.mem_append, List.mem_cons, not_or]
    exact ⟨by decide, by decide, hdotted.not_mem (by decide) (by decide)⟩
  have hhead := ((List.append_cons_inj_of_notMem hendMarker (not_mem_classText hvalid)).mp hmarked).1
  have hblank : ' ' ∉ namespaceKeyword ∧ ' ' ∉ namespaceName :=
    ⟨by decide, hdotted.not_mem (by decide) (by decide)⟩
  rw [← List.append_assoc] at hhead
  have hword := ((List.append_cons_inj_of_notMem hblank.1 hblank.2).mp hhead).1
  have hlast : namespaceKeyword.getLast? = (front ++ "using".toList).getLast? := congrArg _ hword
  rw [List.getLast?_append, show "using".toList.getLast? = some 'g' from rfl, Option.some_or] at hlast
  exact absurd hlast (by decide)

/-- The namespace of a base class, if it has to be imported next to another namespace. -/
def BaseClass.imported (base : BaseClass) (namespaceName : List Char) : Option (List Char) :=
  base.namespaceName.filter (· ≠ namespaceName)

/-- The lines that import a namespace. -/
def importLines : Option (List Char) → List Char
  | none => []
  | some base => importLine base ++ "\n\n".toList

/-- **The import is added** in front of the text, if the base class lies in another namespace. -/
theorem addImport_viewModelDeclaring (hvalid : isComponentName name = true)
    (hdotted : IsDottedName namespaceName) (base : BaseClass) :
    addImport (viewModelDeclaring namespaceName name) base.namespaceName =
      (importLines (base.imported namespaceName) ++ viewModelDeclaring namespaceName name,
        base.imported namespaceName) := by
  rw [BaseClass.imported]
  cases base.namespaceName with
  | none => rfl
  | some baseName =>
    have hfound := namespace_viewModelDeclaring hdotted name
    have habsent := not_occursIn_viewModelDeclaring hvalid hdotted baseName
    by_cases hsame : baseName = namespaceName
    · have hskipped : (some baseName).filter (· ≠ namespaceName) = none := by
        simp [Option.filter, hsame]
      rw [hskipped]
      simp [addImport, hfound, hsame, importLines]
    · have hneeded : (some baseName).filter (· ≠ namespaceName) = some baseName := by
        simp [Option.filter, hsame]
      rw [hneeded]
      simp [addImport, hfound, habsent, Ne.symm hsame, importLines]

/-! ## The class -/

/-- The text in front of the keyword of the class. -/
def beforeClass (imported : Option (List Char)) (namespaceName : List Char) : List Char :=
  importLines imported ++ (namespaceKeyword ++ ' ' :: (namespaceName ++ ';' :: classLead))

/-- A declaration that names a namespace keeps keywords apart from blanks if its words do. -/
theorem keepsApart_declaration {word closing : List Char} (hdotted : IsDottedName namespaceName)
    (hbefore : KeepsApart word) (hbehind : KeepsApart closing)
    (hsolid : ∀ c ∈ closing.head?, isBlank c = false) : KeepsApart (word ++ (namespaceName ++ closing)) := by
  have hnamed := (keepsApart_of_not_isBlank hdotted.not_isBlank).append hbehind hsolid
  exact hbefore.append hnamed (head?_append_of_ne_nil hdotted.ne_nil closing hdotted.not_isBlank)

/-- The lines that import a namespace keep keywords apart from blanks. -/
theorem keepsApart_importLines {base : List Char} (hdotted : IsDottedName base) :
    KeepsApart (importLine base ++ "\n\n".toList) := by
  have hline : KeepsApart ("using ".toList ++ (base ++ (";".toList ++ "\n\n".toList))) :=
    keepsApart_declaration hdotted (by decide) (by decide) (by rintro _ ⟨⟩; decide)
  unfold importLine
  generalize "using ".toList = word, ";".toList = mark, "\n\n".toList = gap at *
  simpa using hline

/-- **No keyword stands before that of the class**: whatever the names in front of it read like, none
of the blanks there follows the last letter of a keyword. -/
theorem keepsApart_beforeClass {imported : Option (List Char)} (hdotted : IsDottedName namespaceName)
    (hdottedImport : ∀ base ∈ imported, IsDottedName base) :
    KeepsApart (beforeClass imported namespaceName) := by
  have hdeclaration : KeepsApart (namespaceKeyword ++ ' ' :: (namespaceName ++ ';' :: classLead)) := by
    have hparts : KeepsApart ((namespaceKeyword ++ [' ']) ++ (namespaceName ++ ';' :: classLead)) :=
      keepsApart_declaration hdotted (by decide) (by decide) (by rintro _ ⟨⟩; decide)
    simpa using hparts
  cases imported with
  | none => exact hdeclaration
  | some base =>
    exact (keepsApart_importLines (hdottedImport base rfl)).append hdeclaration (by rintro _ ⟨⟩; decide)

/-- The keyword behind that text is the one of the class. -/
theorem declaresBetween_classText (hvalid : isComponentName name = true) (imported : Option (List Char))
    (namespaceName : List Char) :
    declaresBetween name.toList ((beforeClass imported namespaceName).reverse ++ [])
      (' ' :: (name.toList ++ emptyBody)) = true := by
  have hstart := head?_append_of_ne_nil (ne_nil_of_isComponentName hvalid) emptyBody
    fun c hmem => not_isBlank_of_isNamePart (isNamePart_of_mem hvalid hmem)
  have hends : startsWithName name.toList (name.toList ++ emptyBody) = true := by
    have hstops : isNamePart '\n' = false := not_isNamePart_of_ascii (by decide) (by decide)
    have hnext : emptyBody = '\n' :: emptyBody.tail := by decide
    rw [startsWithName, after?_eq_some_iff.mpr rfl, hnext]
    change (!isNamePart '\n') = true
    rw [hstops, Bool.not_false]
  have hblank : (beforeClass imported namespaceName).reverse.head? = some ' ' := by
    have hlast : classLead.getLast? = some ' ' := by decide
    simp [beforeClass, hlast]
  rw [declaresBetween, dropBlanks?_cons (by decide) hstart, List.append_nil, hblank]
  exact hends

/-- **The head of the class** is found behind the declaration and the import. -/
theorem classHead_viewModelDeclaring (hvalid : isComponentName name = true)
    (hdotted : IsDottedName namespaceName) {imported : Option (List Char)}
    (hdottedImport : ∀ base ∈ imported, IsDottedName base) :
    ClassHead.find? name.toList (importLines imported ++ viewModelDeclaring namespaceName name) =
      some ⟨beforeClass imported namespaceName, classKeyword ++ ' ' :: (name.toList ++ ['\n']),
        '\x7b' :: "\n\x7d\n".toList⟩ := by
  have hparts : importLines imported ++ viewModelDeclaring namespaceName name =
      beforeClass imported namespaceName ++ classKeyword ++ ' ' :: (name.toList ++ emptyBody) := by
    simp [viewModelDeclaring, beforeClass, classText]
  have hfound := findClassAfter?_of_declaresFirst (declaresFirst_of_keepsApart
    (keepsApart_beforeClass hdotted hdottedImport) (declaresBetween_classText hvalid imported namespaceName))
  have habsent : '\x7b' ∉ classKeyword ++ ' ' :: (name.toList ++ ['\n']) := by
    have hnameless : '\x7b' ∉ name.toList := not_mem_of_isComponentName hvalid (by decide) (by decide)
    simp only [List.mem_append, List.mem_cons, not_or]
    exact ⟨by decide, by decide, hnameless, by decide⟩
  have hopening : splitFirst? ['\x7b'] (classKeyword ++ ' ' :: (name.toList ++ emptyBody)) =
      some (classKeyword ++ ' ' :: (name.toList ++ ['\n']), "\n\x7d\n".toList) := by
    have hbody : emptyBody = ['\n', '\x7b'] ++ "\n\x7d\n".toList := by decide
    have hcut := cutsAtFirst_singleton habsent "\n\x7d\n".toList
    rw [splitFirst?_eq_some_iff, hbody]
    generalize "\n\x7d\n".toList = rest at *
    simpa using hcut
  rw [ClassHead.find?, hparts, hfound]
  simp [hopening]

/-- The blanks behind the name of a class are those that follow it. -/
theorem trailingBlanks_name (hvalid : isComponentName name = true) (front : List Char) :
    trailingBlanks (front ++ (name.toList ++ ['\n'])) = ['\n'] := by
  have hsolid : ∀ c ∈ name.toList.reverse, isBlank c = false := fun c hmem =>
    not_isBlank_of_isNamePart (isNamePart_of_mem hvalid (List.mem_reverse.mp hmem))
  have hne : name.toList.reverse ≠ [] := by
    simpa using ne_nil_of_isComponentName hvalid
  have hends := head?_append_of_ne_nil hne front.reverse hsolid
  have htaken : (['\n'] ++ (name.toList.reverse ++ front.reverse)).takeWhile isBlank = ['\n'] :=
    (takeWhile_dropWhile_append (List.forall_mem_singleton.mpr (by decide)) hends).1
  rw [trailingBlanks]
  simpa using htaken

/-- The head found there is replaced, and the body stays. -/
theorem replace_viewModelHead (hvalid : isComponentName name = true) (before newHead : List Char) :
    ClassHead.replace ⟨before, classKeyword ++ ' ' :: (name.toList ++ ['\n']), '\x7b' :: "\n\x7d\n".toList⟩
      newHead = before ++ newHead ++ emptyBody := by
  have hblanks : trailingBlanks (classKeyword ++ ' ' :: (name.toList ++ ['\n'])) = ['\n'] := by
    simpa using trailingBlanks_name hvalid (classKeyword ++ [' '])
  have hbody : emptyBody = ['\n'] ++ '\x7b' :: "\n\x7d\n".toList := rfl
  rw [ClassHead.replace, hblanks, hbody, List.append_assoc]

/-! ## Both edits -/

/-- The parts that the edits put together, written out. -/
theorem inheriting_text (imported : Option (List Char)) (namespaceName name base : List Char) :
    beforeClass imported namespaceName ++ inheritingHead name base ++ emptyBody =
      (imported.elim [] fun other => "using ".toList ++ other ++ ";\n\n".toList) ++
        "namespace ".toList ++ namespaceName ++ ";\n\npublic partial class ".toList ++
        name ++ " : ".toList ++ base ++ "\n\x7b\n\x7d\n".toList := by
  have hdeclaration : "namespace ".toList = namespaceKeyword ++ [' '] := by decide
  have hopening : ";\n\npublic partial class ".toList =
      [';'] ++ classLead ++ classKeyword ++ [' '] := by decide
  have hheading : "class ".toList = classKeyword ++ [' '] := by decide
  have hbody : "\n\x7b\n\x7d\n".toList = emptyBody := by decide
  have hclosing : ";\n\n".toList = ";".toList ++ "\n\n".toList := by decide
  unfold beforeClass inheritingHead
  -- Named, the literals are compared by name and not letter by letter.
  generalize "namespace ".toList = word, ";\n\npublic partial class ".toList = between,
    "class ".toList = keyword, "\n\x7b\n\x7d\n".toList = rest, " : ".toList = colon at *
  subst hdeclaration hopening hheading hbody
  cases imported with
  | none => simp [importLines]
  | some other =>
    unfold importLines importLine
    generalize "using ".toList = word, ";".toList = mark, "\n\n".toList = gap,
      ";\n\n".toList = ending at *
    subst hclosing
    simp

/-- What a text declares as its namespace is a dotted name. -/
theorem isDottedName_of_findAfter? {previous : Option Char} {text : List Char}
    {found : NamespaceDeclaration} (h : NamespaceDeclaration.findAfter? previous text = some found) :
    IsDottedName found.name := by
  induction text generalizing previous found with
  | nil => cases h
  | cons c rest ih =>
    rw [NamespaceDeclaration.findAfter?] at h
    split at h
    case h_1 declared hnamed =>
      obtain rfl := Option.some.inj h
      split at hnamed
      case isTrue => cases hnamed
      case isFalse =>
        obtain ⟨_, -, hblanks⟩ := Option.bind_eq_some_iff.mp hnamed
        obtain ⟨_, -, hread⟩ := Option.bind_eq_some_iff.mp hblanks
        exact isDottedName_of_readDottedName? hread
    case h_2 =>
      obtain ⟨inner, hlater, rfl⟩ := Option.map_eq_some_iff.mp h
      have hdotted : IsDottedName inner.name := ih hlater
      exact hdotted

/-- **The text of a view-model after both edits.** They succeed for every class name, every dotted
namespace and every text of a base class; the text that they leave consists of the import of the base
class's namespace, if there is one and it is another, the namespace declaration and the class with its
base class, and the import is the one that is reported. -/
theorem viewModelSource_edited (hvalid : isComponentName name = true)
    (hdotted : IsDottedName namespaceName) (file : Path) (baseText : List Char) :
    let base := BaseClass.ofText file baseText
    let imported := base.namespaceName.filter (· ≠ namespaceName)
    ∃ filled, replaceRegion (viewModelSource name).toList
        NamespaceToken.codeNamespace.startMarker.toList
        NamespaceToken.codeNamespace.endMarker.toList namespaceName = .ok filled ∧
      inheritFrom filled name.toList base.name base.namespaceName = .ok
        ⟨(imported.elim [] fun other => "using ".toList ++ other ++ ";\n\n".toList) ++
            "namespace ".toList ++ namespaceName ++ ";\n\npublic partial class ".toList ++
            name.toList ++ " : ".toList ++ base.name ++ "\n\x7b\n\x7d\n".toList,
          imported⟩ := by
  intro base imported
  refine ⟨viewModelDeclaring namespaceName name, replaceRegion_viewModelSource name namespaceName, ?_⟩
  have hdottedImport : ∀ other ∈ base.imported namespaceName, IsDottedName other := by
    intro other hmem
    have hdeclared := (Option.mem_filter_iff.mp hmem).1
    obtain ⟨found, hsearch, rfl⟩ := Option.map_eq_some_iff.mp hdeclared
    exact isDottedName_of_findAfter? hsearch
  have hedited : inheritFrom (viewModelDeclaring namespaceName name) name.toList base.name
      base.namespaceName = .ok ⟨beforeClass imported namespaceName ++
        inheritingHead name.toList base.name ++ emptyBody, imported⟩ := by
    rw [inheritFrom, addImport_viewModelDeclaring hvalid hdotted base]
    simp only [classHead_viewModelDeclaring hvalid hdotted hdottedImport, replace_viewModelHead hvalid]
    rfl
  rw [hedited, inheriting_text]

/-- The text of a view-model whose names all are keywords. -/
theorem viewModelSource_edited_keywords :
    ∃ filled, replaceRegion (viewModelSource "class").toList "namespace ".toList ";".toList
        "namespace.class".toList = .ok filled ∧
      inheritFrom filled "class".toList "namespace".toList (some "using".toList) = .ok
        ⟨"using using;\n\nnamespace namespace.class;\n\npublic partial class class : namespace\n\x7b\n\x7d\n".toList,
          some "using".toList⟩ := by
  have hvalid : isComponentName "class" = true := by decide +kernel
  have hread : readDottedName? "namespace.class".toList = some "namespace.class".toList := by
    decide +kernel
  have hdotted := isDottedName_of_readDottedName? hread
  have hbase : BaseClass.ofText ⟨"/Base.cs"⟩ "namespace using;\nclass namespace\n".toList =
      ⟨"namespace".toList, some "using".toList⟩ := by
    repeat rw [String.toList_ofList]
    decide +kernel
  obtain ⟨filled, hfills, hinherits⟩ := viewModelSource_edited hvalid hdotted ⟨"/Base.cs"⟩
    "namespace using;\nclass namespace\n".toList
  rw [hbase] at hinherits
  refine ⟨filled, hfills, hinherits.trans (congrArg Except.ok ?_)⟩
  repeat rw [String.toList_ofList]
  decide +kernel

end ComponentScaffold
