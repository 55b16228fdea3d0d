import ComponentScaffold.Proofs.Source.RegionLens
import ComponentScaffold.Proofs.Text.Bytes
import ComponentScaffold.Proofs.Text.DottedName
import ComponentScaffold.Proofs.Text.Occurrence
import ComponentScaffold.Source.BaseClass
import Mathlib.Data.List.Chain

/-! # Finding the head of a class

The search for the declaration of a class tries the occurrences of the keyword one after the other.
Two occurrences never overlap, so none is passed over.

* **`eq_append_of_classKeyword`** — an occurrence of the keyword ends before the next one begins.
* **`DeclaresFirst`** — the first declaration of a class in a text, said without searching;
  `findClassAfter?_of_declaresFirst` finds it.
* **`KeepsApart`** — a text in which no keyword is followed by a blank, so that it declares nothing
  (`declaresFirst_of_keepsApart`).
* **`ClassHead.IsFirst`** — the head of the first declaration; `ClassHead.find?_eq_some_iff` says that it is
  the one that is found.
* **`findClassAfter?_least`** — what the search comes to, by byte offsets. -/

namespace ComponentScaffold

open Text

variable {name seen text before after : List Char}

/-! ## Occurrences of the keyword -/

/-- An occurrence that starts where the first one does is that one. -/
theorem Text.CutsAtFirst.eq_of_length {needle front back : List Char}
    (hcut : CutsAtFirst needle text front back) (hparts : text = before ++ needle ++ after)
    (hsame : front.length = before.length) : front = before ∧ back = after :=
  hcut.unique ⟨hparts, fun front' back' hparts' => hsame ▸ hcut.first front' back' hparts'⟩

/-- The letters of the keyword stand in identifiers. -/
theorem isIdentifierPart_of_mem_classKeyword : ∀ c ∈ classKeyword, isIdentifierPart c = true :=
  List.all_eq_true.mp (by decide)

/-- **Occurrences of the keyword do not overlap**, because its first letter does not occur again in
it. -/
theorem eq_append_of_classKeyword {front back : List Char}
    (hsame : front ++ classKeyword ++ back = before ++ classKeyword ++ after)
    (hearlier : front.length < before.length) :
    ∃ between, before = front ++ classKeyword ++ between ∧
      back = between ++ classKeyword ++ after := by
  rw [List.append_assoc, List.append_assoc, List.append_eq_append_iff] at hsame
  rcases hsame with ⟨more, rfl, hrest⟩ | ⟨more, rfl, -⟩
  · have hne : more ≠ [] := by
      rintro rfl
      simp at hearlier
    -- Fewer than five letters would put the first letter of the keyword within the keyword.
    match more, hne, hrest with
    | [_], _, hrest => simp [classKeyword] at hrest
    | [_, _], _, hrest => simp [classKeyword] at hrest
    | [_, _, _], _, hrest => simp [classKeyword] at hrest
    | [_, _, _, _], _, hrest => simp [classKeyword] at hrest
    | c₁ :: c₂ :: c₃ :: c₄ :: c₅ :: between, _, hrest =>
      have hletters : classKeyword = [c₁, c₂, c₃, c₄, c₅] ∧ back = between ++ classKeyword ++ after := by
        simpa [classKeyword, List.cons.injEq, and_assoc] using hrest
      refine ⟨between, ?_, hletters.2⟩
      rw [hletters.1, List.append_assoc]
      rfl
  · rw [List.length_append] at hearlier
    omega

/-- **The first declaration of a class** in a text that follows another one, which is given last
character first. -/
structure DeclaresFirst (name seen text before after : List Char) : Prop where
  /-- The keyword stands between the parts of the text. -/
  parts : text = before ++ classKeyword ++ after
  /-- It is that of a declaration. -/
  declares : declaresBetween name (before.reverse ++ seen) after = true
  /-- No earlier occurrence is. -/
  first : ∀ front back, text = front ++ classKeyword ++ back →
    declaresBetween name (front.reverse ++ seen) back = true → before.length ≤ front.length

/-- What stands behind an occurrence of the keyword that declares nothing has the same first
declaration. -/
theorem DeclaresFirst.behind {front back : List Char} (h : DeclaresFirst name seen text before after)
    (hparts : text = front ++ classKeyword ++ back) (hearlier : front.length < before.length) :
    ∃ between, before = front ++ classKeyword ++ between ∧
      DeclaresFirst name (classKeyword.reverse ++ (front.reverse ++ seen)) back between after := by
  obtain ⟨between, rfl, rfl⟩ := eq_append_of_classKeyword (hparts.symm.trans h.parts) hearlier
  refine ⟨between, rfl, rfl, ?_, fun front' back' hparts' hdeclares' => ?_⟩
  · simpa using h.declares
  · have hwithin := h.first (front ++ classKeyword ++ front') back' (by rw [hparts, hparts']; simp)
      (by simpa using hdeclares')
    simpa using hwithin

/-- **The first declaration is found.** -/
theorem findClassAfter?_of_declaresFirst (h : DeclaresFirst name seen text before after) :
    findClassAfter? name seen text = some (before.reverse ++ seen, classKeyword ++ after) := by
  fun_induction findClassAfter? name seen text generalizing before with
  | case1 seen text habsent =>
    exact absurd ⟨before, after, h.parts.symm⟩ (splitFirst?_eq_none_iff.mp habsent)
  | case2 seen text front back hsplit seen' =>
    rename_i hdeclares
    have hcut := cutsAtFirst_of_splitFirst? hsplit
    -- the keyword found declares the class, so neither place comes before the other
    have hsame : front.length = before.length :=
      Nat.le_antisymm (hcut.first before after h.parts) (h.first front back hcut.parts hdeclares)
    obtain ⟨rfl, rfl⟩ := hcut.eq_of_length h.parts hsame
    rfl
  | case3 seen text front back hsplit seen' hsilent hshorter =>
    rename_i ih
    have hcut := cutsAtFirst_of_splitFirst? hsplit
    -- the keyword found declares nothing, so the declaration lies behind it
    have hearlier : front.length < before.length := by
      refine Nat.lt_of_le_of_ne (hcut.first before after h.parts) fun hsame => ?_
      obtain ⟨rfl, rfl⟩ := hcut.eq_of_length h.parts hsame
      exact hsilent h.declares
    obtain ⟨between, rfl, hbehind⟩ := h.behind hcut.parts hearlier
    rw [ih hbehind]
    simp [seen']

/-! ## Texts that declare nothing -/

/-- **A text in which no keyword is followed by a blank**: none of its blanks stands right behind the
last letter of the keyword. -/
def KeepsApart (text : List Char) : Prop :=
  text.IsChain fun c next => c = 's' → isBlank next = false

instance : DecidablePred KeepsApart := fun text =>
  inferInstanceAs (Decidable (text.IsChain fun c next => c = 's' → isBlank next = false))

/-- Texts that keep apart do so together if the second one does not start with a blank. -/
theorem KeepsApart.append {front back : List Char} (h : KeepsApart front) (h' : KeepsApart back)
    (hsolid : ∀ c ∈ back.head?, isBlank c = false) : KeepsApart (front ++ back) :=
  List.isChain_append.mpr ⟨h, h', fun _ _ next hmem _ => hsolid next hmem⟩

/-- A text without blanks keeps every keyword apart from blanks. -/
theorem keepsApart_of_not_isBlank (hsolid : ∀ c ∈ text, isBlank c = false) : KeepsApart text := by
  induction text with
  | nil => exact .nil
  | cons c rest ih =>
    refine List.isChain_cons.mpr ⟨fun next hmem _ => ?_, ih fun d hmem => hsolid d (by simp [hmem])⟩
    exact hsolid next (List.mem_cons_of_mem c (List.mem_of_mem_head? hmem))

/-- In a text that keeps apart, no blank stands behind a keyword. -/
theorem KeepsApart.solid_behind {front back : List Char} (hapart : KeepsApart (front ++ classKeyword ++ back)) :
    ∀ c ∈ back.head?, isBlank c = false := by
  intro c hnext
  rw [KeepsApart, List.append_assoc, List.isChain_append] at hapart
  exact (List.isChain_append.mp hapart.2.1).2.2 's' rfl c hnext rfl

/-- In a text that keeps apart, a keyword declares nothing, whatever follows. -/
theorem KeepsApart.not_declaresBetween {front between : List Char}
    (hapart : KeepsApart (front ++ classKeyword ++ between)) (before after : List Char) :
    declaresBetween name before (between ++ classKeyword ++ after) = false := by
  have hsolid : dropBlanks? (between ++ classKeyword ++ after) = none := by
    cases between with
    | nil => rfl
    | cons next others => simp [dropBlanks?, hapart.solid_behind next rfl]
  rw [declaresBetween, hsolid, Bool.and_false]

/-- **The first declaration behind a text that keeps apart** is the one that follows it. -/
theorem declaresFirst_of_keepsApart (hapart : KeepsApart before)
    (hdeclares : declaresBetween name (before.reverse ++ seen) after = true) :
    DeclaresFirst name seen (before ++ classKeyword ++ after) before after := by
  refine ⟨rfl, hdeclares, fun front back hparts hdeclares' => ?_⟩
  by_contra hearlier
  obtain ⟨between, rfl, rfl⟩ := eq_append_of_classKeyword hparts.symm (Nat.lt_of_not_le hearlier)
  rw [hapart.not_declaresBetween] at hdeclares'
  cases hdeclares'

/-! ## Where a class is declared

The declaration of a class is told by what stands around the keyword. The search for the head of a class finds the
first declaration if a brace opens behind it, and nothing otherwise.

* **`DeclaresClass`** — the keyword between two texts declares a class.
* **`FirstClass`** — the first declaration in a text; `findClassAfter?_eq_some_iff` says that the search comes to
  it. -/

variable {rest : List Char}

/-! ### What stands around the keyword -/

/-- A run of blanks is dropped up to the first other character. -/
theorem Text.dropBlanks?_eq_some_iff : dropBlanks? text = some rest ↔
    ∃ blanks, text = blanks ++ rest ∧ blanks ≠ [] ∧ (∀ c ∈ blanks, isBlank c = true) ∧
      ∀ c ∈ rest.head?, isBlank c = false := by
  constructor
  · intro hdropped
    cases text with
    | nil => cases hdropped
    | cons c others =>
      rw [dropBlanks?] at hdropped
      split at hdropped
      case isFalse => cases hdropped
      case isTrue hblank =>
        obtain rfl := Option.some.inj hdropped
        refine ⟨c :: others.takeWhile isBlank, ?_, by simp, ?_, fun d hfirst => ?_⟩
        · rw [List.cons_append, List.takeWhile_append_dropWhile]
        · exact List.forall_mem_cons.mpr ⟨hblank, fun d hmem => List.mem_takeWhile_imp hmem⟩
        · have hsolid := List.head?_dropWhile_not isBlank others
          rw [Option.mem_def.mp hfirst] at hsolid
          simpa using hsolid
  · rintro ⟨blanks, rfl, hne, hblank, hsolid⟩
    obtain ⟨c, others, rfl⟩ := List.exists_cons_of_ne_nil hne
    obtain ⟨hfirst, hblank⟩ := List.forall_mem_cons.mp hblank
    rw [List.cons_append, dropBlanks?, if_pos hfirst, (takeWhile_dropWhile_append hblank hsolid).2]

/-- **A name ends** before such a text: no letter, number or underscore goes on. -/
def EndsName (tail : List Char) : Prop := ∀ c ∈ tail.head?, isAlphanumeric c = false ∧ c ≠ '_'

/-- A text starts with a name if the name ends there. -/
theorem startsWithName_iff : startsWithName name text = true ↔ ∃ tail, text = name ++ tail ∧ EndsName tail := by
  unfold startsWithName
  split
  case h_1 habsent =>
    refine iff_of_false (by simp) fun ⟨tail, hparts, _⟩ => ?_
    rw [after?_eq_some_iff.mpr hparts] at habsent
    cases habsent
  case h_2 hfound => exact iff_of_true rfl ⟨[], after?_eq_some_iff.mp hfound, by simp [EndsName]⟩
  case h_3 c others hfound =>
    have hparts := after?_eq_some_iff.mp hfound
    simp only [Bool.not_eq_true', Bool.or_eq_false_iff, beq_eq_false_iff_ne]
    refine ⟨fun hends => ⟨_, hparts, by simpa [EndsName] using hends⟩, fun ⟨tail, hparts', hends⟩ => ?_⟩
    obtain rfl := List.append_cancel_left (hparts.symm.trans hparts')
    exact hends c rfl

/-- **A name follows** at the start of a text: behind blanks, and not continued. -/
def NameFollows (name text : List Char) : Prop :=
  ∃ blanks tail, text = blanks ++ name ++ tail ∧ blanks ≠ [] ∧ (∀ c ∈ blanks, isBlank c = true) ∧ EndsName tail

/-- **A class is declared** by the keyword between two texts: it stands alone, and the name follows. -/
structure DeclaresClass (name before after : List Char) : Prop where
  /-- Nothing but a blank stands right before it. -/
  alone : ∀ c ∈ before.getLast?, isBlank c = true
  /-- The name follows. -/
  named : NameFollows name after

/-- An identifier starts with no blank. -/
theorem Text.IsIdentifier.startsSolid (hidentifier : IsIdentifier name) : StartsSolid name := by
  obtain ⟨first, others, rfl⟩ := List.exists_cons_of_ne_nil hidentifier.ne_nil
  exact ⟨first, rfl, hidentifier.not_isBlank first (by simp)⟩

/-- Nor does what goes on behind it. -/
theorem Text.IsIdentifier.solid_head (hidentifier : IsIdentifier name) (rest : List Char) :
    ∀ c ∈ (name ++ rest).head?, isBlank c = false :=
  hidentifier.startsSolid.head?_append rest

/-- It is tested whether a name is declared. -/
theorem declaresBetween_iff (hsolid : StartsSolid name) :
    declaresBetween name before.reverse after = true ↔ DeclaresClass name before after := by
  have halone : before.reverse.head?.all isBlank = true ↔ ∀ c ∈ before.getLast?, isBlank c = true := by
    rw [List.head?_reverse]
    cases before.getLast? <;> simp
  rw [declaresBetween, Bool.and_eq_true, halone]
  refine ⟨fun ⟨halone, htest⟩ => ⟨halone, ?_⟩, fun ⟨halone, hnamed⟩ => ⟨halone, ?_⟩⟩
  · split at htest
    case h_1 => cases htest
    case h_2 rest hdropped =>
      obtain ⟨blanks, rfl, hne, hblank, -⟩ := dropBlanks?_eq_some_iff.mp hdropped
      obtain ⟨tail, rfl, hends⟩ := startsWithName_iff.mp htest
      exact ⟨blanks, tail, (List.append_assoc ..).symm, hne, hblank, hends⟩
  · obtain ⟨blanks, tail, rfl, hne, hblank, hends⟩ := hnamed
    have hdropped : dropBlanks? (blanks ++ name ++ tail) = some (name ++ tail) :=
      dropBlanks?_eq_some_iff.mpr ⟨blanks, List.append_assoc .., hne, hblank, hsolid.head?_append tail⟩
    rw [hdropped]
    exact startsWithName_iff.mpr ⟨tail, rfl, hends⟩

/-! ### The first declaration -/

/-- Where there is a declaration, there is a first one. -/
theorem exists_declaresFirst (hparts : text = before ++ classKeyword ++ after)
    (hdeclares : declaresBetween name (before.reverse ++ seen) after = true) :
    ∃ before after, DeclaresFirst name seen text before after := by
  -- each time an earlier one is found, the text before it is shorter
  induction hlength : before.length using Nat.strong_induction_on generalizing before after with
  | _ count ih =>
    by_cases hfirst : ∀ front back, text = front ++ classKeyword ++ back →
        declaresBetween name (front.reverse ++ seen) back = true → before.length ≤ front.length
    case pos => exact ⟨before, after, hparts, hdeclares, hfirst⟩
    case neg =>
      push Not at hfirst
      obtain ⟨front, back, hparts', hdeclares', hearlier⟩ := hfirst
      exact ih front.length (hlength ▸ hearlier) hparts' hdeclares' rfl

/-- What is found is a declaration. -/
theorem exists_of_findClassAfter? {found : List Char × List Char} (h : findClassAfter? name seen text = some found) :
    ∃ before after, text = before ++ classKeyword ++ after ∧
      declaresBetween name (before.reverse ++ seen) after = true := by
  fun_induction findClassAfter? name seen text with
  | case1 => cases h
  | case2 seen text front back hsplit seen' =>
    rename_i hdeclares
    exact ⟨front, back, (cutsAtFirst_of_splitFirst? hsplit).parts, hdeclares⟩
  | case3 seen text front back hsplit seen' hsilent hshorter =>
    rename_i ih
    obtain ⟨before, after, rfl, hdeclares⟩ := ih h
    refine ⟨front ++ classKeyword ++ before, after, ?_, by simpa [seen'] using hdeclares⟩
    rw [(cutsAtFirst_of_splitFirst? hsplit).parts]
    simp

/-- **The search comes to the first declaration**, and to nothing else. -/
theorem findClassAfter?_eq_some_iff {front declaration : List Char} :
    findClassAfter? name seen text = some (front, declaration) ↔
      ∃ before after, DeclaresFirst name seen text before after ∧ front = before.reverse ++ seen ∧
        declaration = classKeyword ++ after := by
  constructor
  · intro hfound
    obtain ⟨before, after, hparts, hdeclares⟩ := exists_of_findClassAfter? hfound
    obtain ⟨before, after, hfirst⟩ := exists_declaresFirst hparts hdeclares
    rw [findClassAfter?_of_declaresFirst hfirst] at hfound
    obtain ⟨rfl, rfl⟩ := Prod.mk.inj (Option.some.inj hfound)
    exact ⟨before, after, hfirst, rfl, rfl⟩
  · rintro ⟨before, after, hfirst, rfl, rfl⟩
    exact findClassAfter?_of_declaresFirst hfirst

/-- **The first declaration of a class** in a text, without searching. -/
structure FirstClass (name text before after : List Char) : Prop where
  /-- The keyword stands between the parts of the text. -/
  parts : text = before ++ classKeyword ++ after
  /-- It declares the class. -/
  declares : DeclaresClass name before after
  /-- No earlier one does. -/
  first : ∀ front back, text = front ++ classKeyword ++ back → DeclaresClass name front back →
    before.length ≤ front.length

/-- It is the one that the search comes to. -/
theorem declaresFirst_iff (hsolid : StartsSolid name) :
    DeclaresFirst name [] text before after ↔ FirstClass name text before after := by
  have hbetween (front back : List Char) : declaresBetween name (front.reverse ++ []) back = true ↔
      DeclaresClass name front back := by
    rw [List.append_nil, declaresBetween_iff hsolid]
  constructor
  · rintro ⟨hparts, hdeclares, hfirst⟩
    exact ⟨hparts, (hbetween _ _).mp hdeclares,
      fun _ _ hparts hdeclares => hfirst _ _ hparts ((hbetween _ _).mpr hdeclares)⟩
  · rintro ⟨hparts, hdeclares, hfirst⟩
    exact ⟨hparts, (hbetween _ _).mpr hdeclares,
      fun _ _ hparts hdeclares => hfirst _ _ hparts ((hbetween _ _).mp hdeclares)⟩

/-! ### The head of a class -/

/-- A character does not stand before its first occurrence. -/
theorem Text.CutsAtFirst.notMem {c : Char} (hcut : CutsAtFirst [c] text before after) : c ∉ before := by
  intro hmem
  obtain ⟨front, back, rfl⟩ := List.append_of_mem hmem
  have hearlier := hcut.first front (back ++ [c] ++ after) (by rw [hcut.parts]; simp)
  rw [List.length_append, List.length_cons] at hearlier
  omega

namespace ClassHead

/-- **The head of the first declaration** of a class: it goes from the keyword up to the next brace. -/
structure IsFirst (name text : List Char) (cut : ClassHead) : Prop where
  /-- The keyword at its start is that of the first declaration. -/
  starts : ∃ after, FirstClass name text cut.before after ∧ cut.head ++ cut.body = classKeyword ++ after
  /-- A brace stands behind it. -/
  opens : cut.body.head? = some '{'
  /-- No brace stands in it. -/
  unopened : '{' ∉ cut.head

/-- The parts make up the text. -/
theorem IsFirst.parts {cut : ClassHead} (h : cut.IsFirst name text) :
    text = cut.before ++ cut.head ++ cut.body := by
  obtain ⟨after, hfirst, hhead⟩ := h.starts
  rw [hfirst.parts, List.append_assoc, List.append_assoc, hhead]

/-- The first declaration has a head if a brace stands somewhere behind it. -/
theorem exists_isFirst (hfirst : FirstClass name text before after) (hbrace : '{' ∈ after) :
    ∃ cut : ClassHead, cut.IsFirst name text := by
  obtain ⟨inner, inside, rfl, hunopened⟩ := List.eq_append_cons_of_mem hbrace
  refine ⟨⟨before, classKeyword ++ inner, '{' :: inside⟩, ⟨_, hfirst, List.append_assoc ..⟩, rfl, ?_⟩
  rw [List.mem_append, not_or]
  exact ⟨by decide, hunopened⟩

/-- **The head that is found** is that of the first declaration. -/
theorem find?_eq_some_iff (hidentifier : IsIdentifier name) {cut : ClassHead} :
    find? name text = some cut ↔ cut.IsFirst name text := by
  simp only [find?, Option.bind_eq_bind, Option.bind_eq_some_iff, Prod.exists, Option.pure_def,
    findClassAfter?_eq_some_iff, splitFirst?_eq_some_iff, declaresFirst_iff hidentifier.startsSolid]
  constructor
  · rintro ⟨_, _, ⟨before, after, hfirst, rfl, rfl⟩, head, inside, hcut, hsame⟩
    obtain rfl := Option.some.inj hsame
    refine ⟨⟨after, ?_, by simpa using hcut.parts.symm⟩, rfl, hcut.notMem⟩
    rw [List.append_nil, List.reverse_reverse]
    exact hfirst
  · rintro ⟨⟨after, hfirst, hhead⟩, hopens, hunopened⟩
    obtain ⟨inside, hbody⟩ := List.head?_eq_some_iff.mp hopens
    refine ⟨_, _, ⟨cut.before, after, hfirst, rfl, rfl⟩, cut.head, inside, ?_, ?_⟩
    · rw [← hhead, hbody]
      simpa using cutsAtFirst_singleton hunopened inside
    · simp [← hbody]

end ClassHead

/-! ## By byte offsets

The search is one over byte offsets: the text is cut where the search goes on, in front of the keyword and behind it.
All these offsets are character boundaries. -/

/-- Behind an occurrence of the keyword there is less left of a text. -/
theorem size_sub_lt_of_splitFirst? {whole read left : String} {start : Nat}
    (hcut : cutAt whole start = .ok (read, left))
    (hsplit : splitFirst? classKeyword left.toList = some (before, after)) :
    whole.utf8ByteSize - (start + utf8Size before + utf8Size classKeyword) < whole.utf8ByteSize - start := by
  obtain ⟨rfl, rfl⟩ := cutAt_eq_ok_iff.mp hcut
  have hparts := congrArg utf8Size (append_of_splitFirst? hsplit)
  rw [utf8Size_eq_utf8ByteSize left.toList, String.ofList_toList, utf8Size_append, utf8Size_append] at hparts
  have hpositive : 0 < utf8Size classKeyword := by decide
  rw [String.utf8ByteSize_append]
  omega

/-- **The search by byte offsets**, from one on: the offset of the keyword that declares a class. The search is refused
with the first offset that is no character boundary. -/
def classOffsetFrom (name : List Char) (text : String) (start : Nat) : Except Nat (Option Nat) :=
  match hcut : cutAt text start with
  | .error within => .error within
  | .ok (_, left) =>
    match hsplit : splitFirst? classKeyword left.toList with
    | none => .ok none
    | some (passed, _) => do
      have := size_sub_lt_of_splitFirst? hcut hsplit
      let found := start + utf8Size passed
      let next := found + utf8Size classKeyword
      let (before, _) ← cutAt text found
      let (_, after) ← cutAt text next
      if declaresBetween name before.toList.reverse after.toList then return some found
      else classOffsetFrom name text next
termination_by text.utf8ByteSize - start

/-- Where no keyword is left, the search ends. -/
theorem classOffsetFrom_of_absent (front : List Char) (habsent : splitFirst? classKeyword text = none) :
    classOffsetFrom name (String.ofList (front ++ text)) (utf8Size front) = .ok none := by
  have hstart := cutAt_utf8Size front text
  rw [classOffsetFrom]
  split
  case h_1 hcut => cases hstart.symm.trans hcut
  case h_2 read left hcut =>
    obtain ⟨rfl, rfl⟩ := Prod.mk.inj (Except.ok.inj (hstart.symm.trans hcut))
    split
    case h_1 => rfl
    case h_2 hsplit =>
      rw [String.toList_ofList, habsent] at hsplit
      cases hsplit

/-- **A step of the search** cuts the text around the next keyword, where it ends or goes on. -/
theorem classOffsetFrom_of_split (front : List Char) (hsplit : splitFirst? classKeyword text = some (before, after)) :
    classOffsetFrom name (String.ofList (front ++ text)) (utf8Size front) =
      if declaresBetween name (front ++ before).reverse after then .ok (some (utf8Size (front ++ before)))
      else classOffsetFrom name (String.ofList (front ++ text)) (utf8Size (front ++ before ++ classKeyword)) := by
  have hstart := cutAt_utf8Size front text
  have hparts := append_of_splitFirst? hsplit
  have hfound : cutAt (String.ofList (front ++ text)) (utf8Size front + utf8Size before) =
      .ok (String.ofList (front ++ before), String.ofList (classKeyword ++ after)) := by
    rw [← utf8Size_append, ← cutAt_utf8Size, hparts]
    simp only [List.append_assoc]
  have hnext : cutAt (String.ofList (front ++ text)) (utf8Size front + utf8Size before + utf8Size classKeyword) =
      .ok (String.ofList (front ++ before ++ classKeyword), String.ofList after) := by
    rw [← utf8Size_append, ← utf8Size_append, ← cutAt_utf8Size, hparts]
    simp only [List.append_assoc]
  rw [classOffsetFrom]
  split
  case h_1 hcut => cases hstart.symm.trans hcut
  case h_2 read left hcut =>
    obtain ⟨rfl, rfl⟩ := Prod.mk.inj (Except.ok.inj (hstart.symm.trans hcut))
    split
    case h_1 habsent =>
      rw [String.toList_ofList, hsplit] at habsent
      cases habsent
    case h_2 hagain =>
      rw [String.toList_ofList, hsplit] at hagain
      obtain ⟨rfl, rfl⟩ := Prod.mk.inj (Option.some.inj hagain)
      simp only [hfound, hnext, bind, Except.bind, String.toList_ofList, utf8Size_append]
      rfl

/-- The byte offset at which the search comes to a declaration. -/
def classOffset? (name text : List Char) : Option Nat :=
  (findClassAfter? name [] text).map fun (before, _) => utf8Size before

/-- **The search by byte offsets is never refused**, and comes to the same declaration. -/
theorem classOffsetFrom_eq (name seen text : List Char) :
    classOffsetFrom name (String.ofList (seen.reverse ++ text)) (utf8Size seen.reverse) =
      .ok ((findClassAfter? name seen text).map fun (before, _) => utf8Size before) := by
  fun_induction findClassAfter? name seen text with
  | case1 seen text habsent => exact classOffsetFrom_of_absent seen.reverse habsent
  | case2 seen text before after hsplit seen' =>
    rename_i hdeclares
    have hsame : seen.reverse ++ before = seen'.reverse := by simp [seen']
    rw [classOffsetFrom_of_split seen.reverse hsplit, hsame, List.reverse_reverse, if_pos hdeclares, Option.map_some,
      utf8Size_reverse]
  | case3 seen text before after hsplit seen' hsilent hshorter =>
    rename_i ih
    have hsame : seen.reverse ++ before = seen'.reverse := by simp [seen']
    have hwhole : seen.reverse ++ text = (classKeyword.reverse ++ seen').reverse ++ after := by
      rw [append_of_splitFirst? hsplit]
      simp [seen']
    rw [classOffsetFrom_of_split seen.reverse hsplit, hsame, List.reverse_reverse, if_neg hsilent, hwhole, ← ih]
    simp

variable {offset : Nat}

/-- **The declaration of a class stands** at a byte offset: the keyword is there, with nothing but a blank right before
it, and behind it the blanks up to the next other character, and then the name, which does not go on. -/
def ClassStandsAt (name text : List Char) (offset : Nat) : Prop :=
  ∃ before blanks tail, text = before ++ classKeyword ++ blanks ++ name ++ tail ∧ utf8Size before = offset ∧
    (∀ c ∈ before.getLast?, isBlank c = true) ∧ blanks ≠ [] ∧ (∀ c ∈ blanks, isBlank c = true) ∧
    (∀ c ∈ (name ++ tail).head?, isBlank c = false) ∧ EndsName tail

/-- It stands where the keyword declares the class. -/
theorem classStandsAt_iff (hsolid : StartsSolid name) : ClassStandsAt name text offset ↔
    ∃ before after, text = before ++ classKeyword ++ after ∧ utf8Size before = offset ∧
      DeclaresClass name before after := by
  constructor
  · rintro ⟨before, blanks, tail, rfl, hsize, halone, hne, hblank, -, hends⟩
    exact ⟨before, blanks ++ name ++ tail, by simp, hsize, halone, blanks, tail, rfl, hne, hblank, hends⟩
  · rintro ⟨before, after, rfl, hsize, halone, blanks, tail, rfl, hne, hblank, hends⟩
    exact ⟨before, blanks, tail, by simp, hsize, halone, hne, hblank, hsolid.head?_append tail, hends⟩

/-- Of two occurrences of the keyword, the one behind fewer characters is behind fewer bytes. -/
theorem utf8Size_le_iff_of_classKeyword {front back : List Char}
    (hsame : before ++ classKeyword ++ after = front ++ classKeyword ++ back) :
    utf8Size before ≤ utf8Size front ↔ before.length ≤ front.length := by
  rw [List.append_assoc, List.append_assoc] at hsame
  exact utf8Size_le_iff hsame

/-- No declaration stands before the first one. -/
theorem FirstClass.offset_le (hfirst : FirstClass name text before after) (hsolid : StartsSolid name)
    (hstands : ClassStandsAt name text offset) : utf8Size before ≤ offset := by
  obtain ⟨front, back, hparts, rfl, hdeclares⟩ := (classStandsAt_iff hsolid).mp hstands
  exact (utf8Size_le_iff_of_classKeyword (hfirst.parts.symm.trans hparts)).mpr
    (hfirst.first front back hparts hdeclares)

/-- A declaration that no other one stands before is the first one. -/
theorem exists_firstClass (hsolid : StartsSolid name) (hstands : ClassStandsAt name text offset)
    (hleast : ∀ other, ClassStandsAt name text other → offset ≤ other) :
    ∃ before after, FirstClass name text before after ∧ utf8Size before = offset := by
  obtain ⟨before, after, hparts, rfl, hdeclares⟩ := (classStandsAt_iff hsolid).mp hstands
  refine ⟨before, after, ⟨hparts, hdeclares, fun front back hparts' hdeclares' => ?_⟩, rfl⟩
  have hle := hleast _ ((classStandsAt_iff hsolid).mpr ⟨front, back, hparts', rfl, hdeclares'⟩)
  exact (utf8Size_le_iff_of_classKeyword (hparts.symm.trans hparts')).mp hle

/-- The search comes to the byte offset of the first declaration. -/
theorem classOffset?_eq_some_iff (hsolid : StartsSolid name) : classOffset? name text = some offset ↔
    ∃ before after, FirstClass name text before after ∧ utf8Size before = offset := by
  simp only [classOffset?, Option.map_eq_some_iff, Prod.exists, findClassAfter?_eq_some_iff, declaresFirst_iff hsolid]
  constructor
  · rintro ⟨_, _, ⟨before, after, hfirst, rfl, rfl⟩, rfl⟩
    exact ⟨before, after, hfirst, by simp⟩
  · rintro ⟨before, after, hfirst, rfl⟩
    exact ⟨_, _, ⟨before, after, hfirst, rfl, rfl⟩, by simp⟩

/-- The search comes to some offset if the declaration of the class stands anywhere. -/
theorem isSome_classOffset? (hsolid : StartsSolid name) (hstands : ClassStandsAt name text offset) :
    (classOffset? name text).isSome = true := by
  obtain ⟨before, after, hparts, -, hdeclares⟩ := (classStandsAt_iff hsolid).mp hstands
  have hdeclares' : declaresBetween name (before.reverse ++ []) after = true := by
    rwa [List.append_nil, declaresBetween_iff hsolid]
  obtain ⟨before, after, hfirst⟩ := exists_declaresFirst hparts hdeclares'
  have hfound := (classOffset?_eq_some_iff hsolid).mpr ⟨before, after, (declaresFirst_iff hsolid).mp hfirst, rfl⟩
  exact Option.isSome_of_mem hfound

/-- **The first declaration of a class, by byte offsets.** For a name that starts with no blank, every offset at which
the search cuts the text is a character boundary, and it comes to the least offset at which the declaration of the class
stands, however often the keyword occurs elsewhere; if there is no such offset, it comes to nothing. -/
theorem findClassAfter?_least (hsolid : StartsSolid name) (text : List Char) :
    classOffsetFrom name (String.ofList text) 0 = .ok (classOffset? name text) ∧
    (∀ offset, classOffset? name text = some offset ↔
      ClassStandsAt name text offset ∧ ∀ other, ClassStandsAt name text other → offset ≤ other) ∧
    (classOffset? name text = none ↔ ∀ offset, ¬ClassStandsAt name text offset) := by
  refine ⟨classOffsetFrom_eq name [] text, fun offset => ⟨fun hfound => ?_, fun ⟨hstands, hleast⟩ => ?_⟩, ?_, ?_⟩
  · obtain ⟨before, after, hfirst, rfl⟩ := (classOffset?_eq_some_iff hsolid).mp hfound
    refine ⟨(classStandsAt_iff hsolid).mpr ⟨before, after, hfirst.parts, rfl, hfirst.declares⟩, fun _ => ?_⟩
    exact hfirst.offset_le hsolid
  · exact (classOffset?_eq_some_iff hsolid).mpr (exists_firstClass hsolid hstands hleast)
  · intro habsent offset hstands
    have hfound := isSome_classOffset? hsolid hstands
    rw [habsent] at hfound
    cases hfound
  · intro hnowhere
    refine Option.eq_none_iff_forall_ne_some.mpr fun offset hfound => hnowhere offset ?_
    obtain ⟨before, after, hfirst, rfl⟩ := (classOffset?_eq_some_iff hsolid).mp hfound
    exact (classStandsAt_iff hsolid).mpr ⟨before, after, hfirst.parts, rfl, hfirst.declares⟩

/-- A name that holds the keyword, behind occurrences that declare another class or are no whole words. -/
theorem findClassAfter?_least_classic :
    StartsSolid "classic".toList ∧
      classOffsetFrom "classic".toList "é class classical class\tclassic" 0 = .ok (some 19) := by
  have hsolid : StartsSolid "classic".toList := ⟨'c', by decide, by decide⟩
  have hfound := (findClassAfter?_least hsolid "é class classical class\tclassic".toList).1
  refine ⟨hsolid, ?_⟩
  rw [String.ofList_toList] at hfound
  rw [hfound]
  decide +kernel

end ComponentScaffold
