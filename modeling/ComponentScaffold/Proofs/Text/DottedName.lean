import Mathlib.Data.List.TakeWhile
import ComponentScaffold.Text.Identifier

/-! # Dotted names

Identifiers and the dotted names made of them are said without reading; the readers are shown to
return them.

* **`Text.IsIdentifier`**, **`Text.IsDottedName`** — the names.
* **`Text.EndsDotted`** — where a dotted name ends.
* **`Text.readDottedName?_eq_some_iff`** — what is read is a dotted name that ends there; such a name is read
  whole.
* **`Text.longestDottedName_iff`** — no dotted name at the start of a text is longer than the one that ends there. -/

namespace ComponentScaffold.Text

/-- **An ASCII identifier.** -/
def IsIdentifier : List Char → Prop
  | [] => False
  | c :: rest => isIdentifierStart c = true ∧ ∀ d ∈ rest, isIdentifierPart d = true

/-- **Identifiers joined by single dots.** -/
inductive IsDottedName : List Char → Prop
  /-- One identifier. -/
  | single {name : List Char} : IsIdentifier name → IsDottedName name
  /-- An identifier in front of a dotted name. -/
  | dot {name others : List Char} :
    IsIdentifier name → IsDottedName others → IsDottedName (name ++ '.' :: others)

variable {c : Char} {name rest text : List Char}

/-! ## Characters -/

/-- What can start an identifier can stand in one. -/
theorem isIdentifierPart_of_isIdentifierStart (h : isIdentifierStart c = true) :
    isIdentifierPart c = true := by
  simp only [isIdentifierStart, isIdentifierPart, Char.isAlphanum, Bool.or_eq_true] at h ⊢
  exact h.imp_left Or.inl

/-- **What can stand in an identifier**, by its code. -/
theorem isIdentifierPart_iff : isIdentifierPart c = true ↔
    0x41 ≤ c.toNat ∧ c.toNat ≤ 0x5A ∨ 0x61 ≤ c.toNat ∧ c.toNat ≤ 0x7A ∨
      0x30 ≤ c.toNat ∧ c.toNat ≤ 0x39 ∨ c = '_' := by
  have hcodes : isIdentifierPart c = (decide ('A'.val ≤ c.val ∧ c.val ≤ 'Z'.val) ||
      decide ('a'.val ≤ c.val) && decide (c.val ≤ 'z'.val) || decide ('0'.val ≤ c.val) && decide (c.val ≤ '9'.val) ||
      c == '_') := rfl
  simp only [hcodes, Bool.or_eq_true, Bool.and_eq_true, decide_eq_true_eq, beq_iff_eq, or_assoc]
  exact Iff.rfl

/-- What can stand in an identifier lies between the first digit and the last small letter. -/
theorem isIdentifierPart_bounds (h : isIdentifierPart c = true) : 0x30 ≤ c.toNat ∧ c.toNat ≤ 0x7A := by
  rcases isIdentifierPart_iff.mp h with hupper | hlower | hdigit | rfl
  · omega
  · omega
  · omega
  · decide

/-- What can stand in an identifier is no blank. -/
theorem not_isBlank_of_isIdentifierPart (h : isIdentifierPart c = true) : isBlank c = false := by
  have hbounds := isIdentifierPart_bounds h
  rw [Bool.eq_false_iff]
  intro hblank
  obtain ⟨range, hmem, hlow, hhigh⟩ := CodeRanges.contains_iff.mp hblank
  have hapart : ∀ range ∈ blankRanges, range.2 < 0x30 ∨ 0x7A < range.1 := by decide
  have houtside := hapart range hmem
  omega

/-- The characters of an identifier can all stand in one. -/
theorem IsIdentifier.isIdentifierPart (h : IsIdentifier name) :
    ∀ c ∈ name, isIdentifierPart c = true := by
  cases name with
  | nil => exact fun c hmem => absurd hmem List.not_mem_nil
  | cons first others =>
    intro c hmem
    rcases List.mem_cons.mp hmem with rfl | hlater
    · exact isIdentifierPart_of_isIdentifierStart h.1
    · exact h.2 c hlater

/-- An identifier is not empty. -/
theorem IsIdentifier.ne_nil (h : IsIdentifier name) : name ≠ [] := by
  rintro rfl
  exact h

/-- An identifier holds no blanks. -/
theorem IsIdentifier.not_isBlank (h : IsIdentifier name) : ∀ c ∈ name, isBlank c = false :=
  fun c hmem => not_isBlank_of_isIdentifierPart (h.isIdentifierPart c hmem)

/-- A dotted name is not empty. -/
theorem IsDottedName.ne_nil (h : IsDottedName name) : name ≠ [] := by
  cases h with
  | single hidentifier => exact hidentifier.ne_nil
  | dot hidentifier _ => exact List.append_ne_nil_of_left_ne_nil hidentifier.ne_nil _

/-- A text that goes on behind another one starts as that one does. -/
theorem head?_append_of_ne_nil {front : List Char} (hne : front ≠ []) (back : List Char)
    {p : Char → Prop} (hall : ∀ c ∈ front, p c) : ∀ c ∈ (front ++ back).head?, p c := by
  obtain ⟨first, others, rfl⟩ := List.exists_cons_of_ne_nil hne
  intro c hmem
  obtain rfl : first = c := Option.some_inj.mp hmem
  exact hall first (by simp)

/-- The characters of a dotted name can stand in an identifier, or are dots. -/
theorem IsDottedName.isIdentifierPart_or_dot (h : IsDottedName name) :
    ∀ c ∈ name, isIdentifierPart c = true ∨ c = '.' := by
  induction h with
  | single hidentifier => exact fun c hmem => .inl (hidentifier.isIdentifierPart c hmem)
  | dot hidentifier _ ih =>
    intro c hmem
    rcases List.mem_append.mp hmem with hfirst | hlater
    · exact .inl (hidentifier.isIdentifierPart c hfirst)
    · exact (List.mem_cons.mp hlater).elim .inr (ih c)

/-- A dotted name holds no blanks. -/
theorem IsDottedName.not_isBlank (h : IsDottedName name) : ∀ c ∈ name, isBlank c = false := by
  intro c hmem
  rcases h.isIdentifierPart_or_dot c hmem with hpart | rfl
  · exact not_isBlank_of_isIdentifierPart hpart
  · decide

/-- A dotted name starts as an identifier does. -/
theorem IsDottedName.exists_cons (hdotted : IsDottedName name) :
    ∃ c others, name = c :: others ∧ isIdentifierStart c = true := by
  cases hdotted with
  | single hidentifier =>
    obtain ⟨c, others, rfl⟩ := List.exists_cons_of_ne_nil hidentifier.ne_nil
    exact ⟨c, others, rfl, hidentifier.1⟩
  | dot hidentifier _ =>
    obtain ⟨c, others, rfl⟩ := List.exists_cons_of_ne_nil hidentifier.ne_nil
    exact ⟨c, _, rfl, hidentifier.1⟩

/-- A character that cannot stand in an identifier and is no dot is not in a dotted name. -/
theorem IsDottedName.not_mem (h : IsDottedName name) (hpart : isIdentifierPart c = false)
    (hdot : c ≠ '.') : c ∉ name := by
  intro hmem
  rcases h.isIdentifierPart_or_dot c hmem with hholds | hsame
  · rw [hpart] at hholds
    exact absurd hholds (by decide)
  · exact hdot hsame

/-! ## Reading an identifier -/

/-- A run of characters ends where the text does not go on with such a character. -/
theorem takeWhile_dropWhile_append {p : Char → Bool} {run : List Char} (hinside : ∀ c ∈ run, p c = true)
    (houtside : ∀ c ∈ rest.head?, p c = false) :
    (run ++ rest).takeWhile p = run ∧ (run ++ rest).dropWhile p = rest := by
  rw [List.takeWhile_append_of_pos hinside, List.dropWhile_append_of_pos hinside]
  cases rest with
  | nil => simp
  | cons c others =>
    have hstops : p c = false := houtside c (by simp)
    simp [hstops]

/-- **An identifier is read whole** if the text does not continue it. -/
theorem readIdentifier?_append (hidentifier : IsIdentifier name)
    (hends : ∀ c ∈ rest.head?, isIdentifierPart c = false) :
    readIdentifier? (name ++ rest) = some (name, rest) := by
  cases name with
  | nil => exact absurd rfl hidentifier.ne_nil
  | cons first others =>
    obtain ⟨htaken, hdropped⟩ := takeWhile_dropWhile_append hidentifier.2 hends
    rw [List.cons_append, readIdentifier?, if_pos hidentifier.1, htaken, hdropped]

/-- **What is read** is the identifier at the start of a text that is not continued. -/
theorem readIdentifier?_eq_some_iff : readIdentifier? text = some (name, rest) ↔
    IsIdentifier name ∧ text = name ++ rest ∧ ∀ c ∈ rest.head?, isIdentifierPart c = false := by
  constructor
  · intro h
    cases text with
    | nil => cases h
    | cons first others =>
      rw [readIdentifier?] at h
      split at h
      case isTrue hstart =>
        obtain ⟨rfl, rfl⟩ := Prod.mk.inj (Option.some.inj h)
        refine ⟨⟨hstart, fun d hmem => List.mem_takeWhile_imp hmem⟩, ?_, fun c hmem => ?_⟩
        · rw [List.cons_append, List.takeWhile_append_dropWhile]
        · have hstops := List.head?_dropWhile_not isIdentifierPart others
          rw [Option.mem_def.mp hmem] at hstops
          simpa using hstops
      case isFalse => cases h
  · rintro ⟨hidentifier, rfl, hends⟩
    exact readIdentifier?_append hidentifier hends

/-- What is read as an identifier is one. -/
theorem isIdentifier_of_readIdentifier? (h : readIdentifier? text = some (name, rest)) : IsIdentifier name :=
  (readIdentifier?_eq_some_iff.mp h).1

/-! ## Reading a dotted name -/

/-- **A dotted name ends** before such a text: its last identifier does not go on, and no other one follows behind a
dot. -/
structure EndsDotted (tail : List Char) : Prop where
  /-- The identifier does not go on. -/
  stops : ∀ c ∈ tail.head?, isIdentifierPart c = false
  /-- No identifier follows behind a dot. -/
  last : ∀ others, tail = '.' :: others → ∀ c ∈ others.head?, isIdentifierStart c = false

/-- A dotted name ends before a character that is no dot and does not stand in an identifier. -/
theorem endsDotted_of_ne_dot (hends : ∀ c ∈ rest.head?, isIdentifierPart c = false ∧ c ≠ '.') : EndsDotted rest := by
  refine ⟨fun c hmem => (hends c hmem).1, ?_⟩
  rintro others rfl
  exact absurd rfl (hends '.' rfl).2

/-- What a text does not continue is the whole dotted name at its start. -/
theorem readDottedTail_eq_nil (hends : EndsDotted rest) : readDottedTail rest = [] := by
  fun_cases readDottedTail rest with
  | case1 others name _ hread =>
    -- an identifier would follow behind the dot
    cases others with
    | nil => cases hread
    | cons c others =>
      rw [readIdentifier?, if_neg (Bool.eq_false_iff.mp (hends.last _ rfl c rfl))] at hread
      cases hread
  | case2 | case3 => rfl

/-- An identifier behind a dot is read, and then what goes on behind it. -/
theorem readDottedTail_dot (hidentifier : IsIdentifier name)
    (hends : ∀ c ∈ rest.head?, isIdentifierPart c = false) :
    readDottedTail ('.' :: (name ++ rest)) = '.' :: (name ++ readDottedTail rest) := by
  have hreads := readIdentifier?_append hidentifier hends
  rw [readDottedTail]
  split
  case h_1 hread =>
    rw [hreads] at hread
    obtain ⟨rfl, rfl⟩ := Prod.mk.inj (Option.some.inj hread)
    rfl
  case h_2 hread =>
    rw [hreads] at hread
    cases hread

/-- A dot ends an identifier. -/
theorem dot_ends (text : List Char) : ∀ c ∈ ('.' :: text).head?, isIdentifierPart c = false := by
  simp [isIdentifierPart]

/-- The dotted name behind a dot is read whole if it ends there. -/
theorem readDottedTail_append (hdotted : IsDottedName name) (hends : EndsDotted rest) :
    readDottedTail ('.' :: (name ++ rest)) = '.' :: name := by
  induction hdotted with
  | single hidentifier =>
    rw [readDottedTail_dot hidentifier hends.stops, readDottedTail_eq_nil hends, List.append_nil]
  | dot hidentifier _ ih =>
    rw [List.append_assoc, List.cons_append, readDottedTail_dot hidentifier (dot_ends _), ih]

/-- An identifier is read, and then what goes on behind it. -/
theorem readDottedName?_identifier (hidentifier : IsIdentifier name)
    (hends : ∀ c ∈ rest.head?, isIdentifierPart c = false) :
    readDottedName? (name ++ rest) = some (name ++ readDottedTail rest) := by
  rw [readDottedName?, readIdentifier?_append hidentifier hends]
  rfl

/-- **A dotted name is read whole** if it ends there. -/
theorem readDottedName?_append (hdotted : IsDottedName name) (hends : EndsDotted rest) :
    readDottedName? (name ++ rest) = some name := by
  cases hdotted with
  | single hidentifier =>
    rw [readDottedName?_identifier hidentifier hends.stops, readDottedTail_eq_nil hends, List.append_nil]
  | dot hidentifier hdotted =>
    rw [List.append_assoc, List.cons_append, readDottedName?_identifier hidentifier (dot_ends _),
      readDottedTail_append hdotted hends]

/-- What is read behind an identifier makes a dotted name with it. -/
theorem isDottedName_append_readDottedTail (hidentifier : IsIdentifier name) (text : List Char) :
    IsDottedName (name ++ readDottedTail text) := by
  fun_induction readDottedTail text generalizing name with
  | case1 text next rest hread _ ih =>
    exact .dot hidentifier (ih (isIdentifier_of_readIdentifier? hread))
  | case2 | case3 =>
    rw [List.append_nil]
    exact .single hidentifier

/-- What is read behind an identifier is followed by a text before which the name ends. -/
theorem exists_readDottedTail (hends : ∀ c ∈ text.head?, isIdentifierPart c = false) :
    ∃ tail, text = readDottedTail text ++ tail ∧ EndsDotted tail := by
  fun_induction readDottedTail text with
  | case1 others name rest hread _ ih =>
    obtain ⟨-, hparts, hends'⟩ := readIdentifier?_eq_some_iff.mp hread
    obtain ⟨tail, hwhole, hended⟩ := ih hends'
    refine ⟨tail, ?_, hended⟩
    rw [hparts, List.cons_append, List.cons_append, List.append_assoc, ← hwhole]
  | case2 others habsent =>
    refine ⟨'.' :: others, rfl, hends, ?_⟩
    -- an identifier behind the dot would have been read
    rintro _ ⟨⟩ c hfirst
    obtain ⟨more, rfl⟩ := List.head?_eq_some_iff.mp hfirst
    by_contra hstart
    rw [readIdentifier?, if_pos ((Bool.not_eq_false _).mp hstart)] at habsent
    cases habsent
  | case3 text hundotted =>
    refine ⟨text, rfl, hends, ?_⟩
    rintro others rfl
    exact absurd rfl (hundotted others)

/-- **What is read** is the dotted name at the start of a text that ends there. -/
theorem readDottedName?_eq_some_iff : readDottedName? text = some name ↔
    IsDottedName name ∧ ∃ tail, text = name ++ tail ∧ EndsDotted tail := by
  constructor
  · intro h
    obtain ⟨⟨first, rest⟩, hread, rfl⟩ := Option.map_eq_some_iff.1 h
    obtain ⟨hidentifier, rfl, hends⟩ := readIdentifier?_eq_some_iff.mp hread
    obtain ⟨tail, hwhole, hended⟩ := exists_readDottedTail hends
    refine ⟨isDottedName_append_readDottedTail hidentifier rest, tail, ?_, hended⟩
    rw [List.append_assoc, ← hwhole]
  · rintro ⟨hdotted, tail, rfl, hends⟩
    exact readDottedName?_append hdotted hends

/-- **What is read is a dotted name.** -/
theorem isDottedName_of_readDottedName? (h : readDottedName? text = some name) : IsDottedName name :=
  (readDottedName?_eq_some_iff.mp h).1

/-! ## The longest dotted name -/

variable {others front back : List Char}

/-- **The longest dotted name** at the start of a text. -/
structure LongestDottedName (name text : List Char) : Prop where
  /-- It is a dotted name. -/
  dotted : IsDottedName name
  /-- It stands at the start. -/
  starts : name <+: text
  /-- None that does is longer. -/
  longest : ∀ other, IsDottedName other → other <+: text → other.length ≤ name.length

/-- An identifier goes on with what can stand in one. -/
theorem IsIdentifier.concat (hidentifier : IsIdentifier name) (hpart : Text.isIdentifierPart c = true) :
    IsIdentifier (name ++ [c]) := by
  cases name with
  | nil => exact hidentifier.elim
  | cons d letters => exact ⟨hidentifier.1, List.forall_mem_append.mpr ⟨hidentifier.2, by simpa using hpart⟩⟩

/-- A dotted name goes on as its last identifier does. -/
theorem IsDottedName.concat (hdotted : IsDottedName name) (hpart : isIdentifierPart c = true) :
    IsDottedName (name ++ [c]) := by
  induction hdotted with
  | single hidentifier => exact .single (hidentifier.concat hpart)
  | dot hidentifier _ ih =>
    rw [List.append_assoc, List.cons_append]
    exact .dot hidentifier ih

/-- Two dotted names with a dot between them are one. -/
theorem IsDottedName.append_dot (hdotted : IsDottedName name) (hdotted' : IsDottedName others) :
    IsDottedName (name ++ '.' :: others) := by
  induction hdotted with
  | single hidentifier => exact .dot hidentifier hdotted'
  | dot hidentifier _ ih =>
    rw [List.append_assoc, List.cons_append]
    exact .dot hidentifier ih

/-- No dot stands in an identifier. -/
theorem IsIdentifier.dot_notMem (hidentifier : IsIdentifier name) : '.' ∉ name := by
  intro hmem
  have hpart := hidentifier.isIdentifierPart '.' hmem
  revert hpart
  decide

/-- **Behind each dot** of a dotted name an identifier starts. -/
theorem IsDottedName.exists_behind_dot (hdotted : IsDottedName text) (hparts : text = front ++ '.' :: back) :
    ∃ c ∈ back.head?, isIdentifierStart c = true := by
  induction hdotted generalizing front with
  | single hidentifier => exact absurd (by rw [hparts]; simp) hidentifier.dot_notMem
  | @dot name others hidentifier hdotted ih =>
    -- the dot stands behind the first name or in what follows, and not within a name
    rcases List.append_eq_append_iff.mp hparts with ⟨more, rfl, hbehind⟩ | ⟨more, rfl, hbehind⟩
    · cases more with
      | nil =>
        obtain rfl := (List.cons.inj hbehind).2
        obtain ⟨c, letters, rfl, hstart⟩ := hdotted.exists_cons
        exact ⟨c, rfl, hstart⟩
      | cons d more => exact ih (List.cons.inj hbehind).2
    · cases more with
      | nil =>
        obtain rfl := (List.cons.inj hbehind).2
        obtain ⟨c, letters, rfl, hstart⟩ := hdotted.exists_cons
        exact ⟨c, rfl, hstart⟩
      | cons d more =>
        obtain rfl := (List.cons.inj hbehind).1
        exact absurd (by simp) hidentifier.dot_notMem

/-- **The longest dotted name** is the one that ends there. -/
theorem longestDottedName_iff :
    LongestDottedName name text ↔ IsDottedName name ∧ ∃ tail, text = name ++ tail ∧ EndsDotted tail := by
  constructor
  · rintro ⟨hdotted, ⟨tail, rfl⟩, hlongest⟩
    have hnone_longer {more : List Char} (hne : more ≠ []) (hstarts : more <+: tail) :
        ¬IsDottedName (name ++ more) := by
      intro hlonger
      have hle := hlongest _ hlonger ((List.prefix_append_right_inj name).mpr hstarts)
      have hpositive := List.length_pos_iff.mpr hne
      rw [List.length_append] at hle
      omega
    refine ⟨hdotted, tail, rfl, fun c hfirst => ?_, ?_⟩
    · obtain ⟨others, rfl⟩ := List.head?_eq_some_iff.mp hfirst
      by_contra hpart
      exact hnone_longer (by simp) (List.prefix_append [c] others) (hdotted.concat ((Bool.not_eq_false _).mp hpart))
    · rintro others rfl c hfirst
      obtain ⟨more, rfl⟩ := List.head?_eq_some_iff.mp hfirst
      by_contra hstart
      have hletter : IsDottedName [c] := .single ⟨(Bool.not_eq_false _).mp hstart, by simp⟩
      exact hnone_longer (by simp) (List.prefix_append ['.', c] more) (hdotted.append_dot hletter)
  · rintro ⟨hdotted, tail, rfl, hends⟩
    refine ⟨hdotted, List.prefix_append name tail, fun other hdotted' hstarts => ?_⟩
    by_contra hlonger
    obtain ⟨more, rfl⟩ : name <+: other :=
      List.prefix_of_prefix_length_le (List.prefix_append name tail) hstarts (by omega)
    rw [List.prefix_append_right_inj] at hstarts
    -- What a longer one goes on with is a dot, and an identifier behind it.
    cases more with
    | nil => simp at hlonger
    | cons c more =>
      obtain ⟨behind, rfl⟩ := hstarts
      rcases hdotted'.isIdentifierPart_or_dot c (by simp) with hpart | rfl
      · rw [hends.stops c rfl] at hpart
        cases hpart
      · obtain ⟨d, hfirst, hstart⟩ := hdotted'.exists_behind_dot rfl
        obtain ⟨letters, rfl⟩ := List.head?_eq_some_iff.mp hfirst
        rw [hends.last _ rfl d rfl] at hstart
        cases hstart

/-- **A dot ends the longest dotted name** where no identifier starts behind it. -/
theorem longestDottedName_dot_iff : LongestDottedName name (name ++ '.' :: rest) ↔
    IsDottedName name ∧ ∀ c ∈ rest.head?, isIdentifierStart c = false := by
  rw [longestDottedName_iff]
  refine and_congr_right fun _ => ⟨?_, fun hlast => ⟨_, rfl, dot_ends rest, ?_⟩⟩
  · rintro ⟨tail, hparts, hends⟩
    exact hends.last rest (List.append_cancel_left hparts).symm
  · rintro others hsame
    obtain rfl := (List.cons.inj hsame).2
    exact hlast

/-- A dotted name starts with an identifier. -/
theorem IsDottedName.exists_identifier (hdotted : IsDottedName name) :
    ∃ identifier, IsIdentifier identifier ∧ identifier <+: name := by
  cases hdotted with
  | single hidentifier => exact ⟨name, hidentifier, List.prefix_rfl⟩
  | dot hidentifier _ => exact ⟨_, hidentifier, List.prefix_append _ _⟩

/-- Where an identifier stands, there is a longest dotted name. -/
theorem exists_longestDottedName (hidentifier : IsIdentifier name) (hstarts : name <+: text) :
    ∃ longest, LongestDottedName longest text := by
  obtain ⟨tail, rfl⟩ := hstarts
  obtain ⟨c, letters, rfl⟩ := List.exists_cons_of_ne_nil hidentifier.ne_nil
  cases hread : readDottedName? (c :: letters ++ tail) with
  | none =>
    rw [readDottedName?, List.cons_append, readIdentifier?, if_pos hidentifier.1] at hread
    cases hread
  | some longest => exact ⟨longest, longestDottedName_iff.mpr (readDottedName?_eq_some_iff.mp hread)⟩

end ComponentScaffold.Text
