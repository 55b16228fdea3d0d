import ComponentScaffold.Proofs.Text.Occurrence
import ComponentScaffold.Text.Lowercase

/-! # Searching in lower case

The lower case of an ASCII character is one ASCII character. That of any other one can be ASCII, too, but only
`i` or `k`, and can have several characters. What holds neither of the two letters is therefore found in the lower
case of a text exactly where it stands in the text, but for the case of ASCII letters.

* **`Text.LowersTo`** — what a text may be lowered to, with either form of a small sigma.
* **`Text.HoldsFolded`** — an occurrence up to the case of ASCII letters.
* **`Text.Blurs.infix_iff`** — what is found in a picture of a text that is blurred outside ASCII, and so in whatever
  it may be lowered to. -/

namespace ComponentScaffold.Text

/-! ## The lower case of a character -/

/-- **The steady characters**: those of ASCII that are their own lower case, and not that of a character outside
ASCII. -/
def IsSteady (c : Char) : Prop := c.toNat < 0x80 ∧ c.toLower = c ∧ c ≠ 'i' ∧ c ≠ 'k'

instance (c : Char) : Decidable (IsSteady c) := inferInstanceAs (Decidable (_ ∧ _))

/-- What is not of ASCII is not steady. -/
theorem not_isSteady_of_foreign {c : Char} (hforeign : 0x80 ≤ c.toNat) : ¬IsSteady c :=
  fun hsteady => absurd hsteady.1 (Nat.not_lt.mpr hforeign)

/-- **A run keeps ASCII apart**: it lies in ASCII, it is the one character that leads to `k`, or it leads to
characters outside ASCII. -/
def CaseRun.keepsAscii (run : CaseRun) : Bool :=
  Nat.blt run.last 0x80 || run.first == run.last && run.first + run.shift == 'k'.toNat ||
    decide (0x80 ≤ run.first + run.shift ∧ run.last + run.shift < 0xD800) ||
    decide (0xE000 ≤ run.first + run.shift ∧ run.last + run.shift < 0x110000)

/-- All runs keep it apart. -/
theorem caseRuns_keepAscii : caseRuns.all CaseRun.keepsAscii = true := by decide +kernel

/-- A code point of characters is that of the character it stands for. -/
theorem toNat_ofNat {n : Nat} (hvalid : n < 0xD800 ∨ 0xE000 ≤ n ∧ n < 0x110000) : (Char.ofNat n).toNat = n := by
  have hchar : n.isValidChar := by
    rw [Nat.isValidChar]
    omega
  rw [Char.ofNat, dif_pos hchar]
  rfl

/-- The lower case of a character has a character. -/
theorem lowerChar_ne_nil (c : Char) : lowerChar c ≠ [] := by
  rw [lowerChar]
  split
  · simp
  · split <;> simp

/-- **In ASCII, the lower case of a character** is one character. -/
theorem lowerChar_of_ascii {c : Char} (hascii : c.toNat < 0x80) : lowerChar c = [c.toLower] := by
  have htable : ∀ n : Fin 0x80, lowerChar (Char.ofNat n) = [(Char.ofNat n).toLower] := by decide +kernel
  simpa using htable ⟨c.toNat, hascii⟩

/-- Outside ASCII, no character has another one for its lower case there. -/
theorem toLower_of_foreign {c : Char} (hforeign : 0x80 ≤ c.toNat) : c.toLower = c := by
  have hnoCapital : ¬(c.val ≥ 'A'.val ∧ c.val ≤ 'Z'.val) := by
    rintro ⟨-, hhigh⟩
    have hbound : c.toNat ≤ 'Z'.toNat := hhigh
    have hcapital : 'Z'.toNat = 0x5A := rfl
    omega
  exact dif_neg hnoCapital

/-- **Outside ASCII, the lower case of a character** holds no steady one. -/
theorem not_isSteady_of_mem_lowerChar {c d : Char} (hforeign : 0x80 ≤ c.toNat) (hmem : d ∈ lowerChar c) :
    ¬IsSteady d := by
  rintro ⟨hascii, -, hnot_i, hnot_k⟩
  rw [lowerChar] at hmem
  split at hmem
  case isTrue =>
    obtain rfl | rfl : d = 'i' ∨ d = '\u0307' := by simpa using hmem
    · exact hnot_i rfl
    · revert hascii
      decide
  case isFalse =>
    cases hfound : caseRuns.find? (·.contains c.toNat) with
    | none =>
      obtain rfl : d = c := by simpa [hfound] using hmem
      exact Nat.not_lt.mpr hforeign hascii
    | some run =>
      obtain rfl : d = Char.ofNat (c.toNat + run.shift).toNat := by simpa [hfound] using hmem
      have hkeeps := List.all_eq_true.mp caseRuns_keepAscii run (List.mem_of_find?_eq_some hfound)
      have hwithin := List.find?_some hfound
      simp only [CaseRun.contains, Bool.and_eq_true, decide_eq_true_eq] at hwithin
      obtain ⟨⟨hlow, hhigh⟩, -⟩ := hwithin
      simp only [CaseRun.keepsAscii, Bool.or_eq_true, Bool.and_eq_true, Nat.blt_eq, beq_iff_eq,
        decide_eq_true_eq] at hkeeps
      -- a run outside ASCII stays outside, but for the one character that leads to `k`
      obtain ((hinAscii | ⟨halone, hleadsToK⟩) | hinside) | hinside := hkeeps
      · omega
      · have honly : (c.toNat + run.shift).toNat = 'k'.toNat := by omega
        rw [honly] at hnot_k
        exact hnot_k rfl
      · rw [toNat_ofNat (by omega)] at hascii
        omega
      · rw [toNat_ofNat (by omega)] at hascii
        omega

/-! ## What a text may be lowered to -/

/-- **What a text may be lowered to**: each character to its lower case, and a capital sigma, where it ends a
word, to the final form of the small one. -/
inductive LowersTo : List Char → List Char → Prop
  | nil : LowersTo [] []
  /-- A character is replaced by its lower case. -/
  | cons {text lowered : List Char} (c : Char) : LowersTo text lowered →
    LowersTo (c :: text) (lowerChar c ++ lowered)
  /-- A capital sigma is replaced by the final form of the small one. -/
  | finalSigma {text lowered : List Char} : LowersTo text lowered → LowersTo ('Σ' :: text) ('ς' :: lowered)

/-- The lower case of a text is one of them. -/
theorem lowersTo_lower (text : List Char) : LowersTo text (lower text) := by
  induction text with
  | nil => exact .nil
  | cons c text ih => exact .cons c ih

/-! ## Occurrences up to the case of ASCII letters -/

/-- **A text occurs in another one up to the case of ASCII letters.** -/
def HoldsFolded (needle text : List Char) : Prop :=
  ∃ part, part <:+: text ∧ needle.map Char.toLower = part.map Char.toLower

/-- It does if it occurs once both are in small letters. -/
theorem holdsFolded_iff {needle text : List Char} :
    HoldsFolded needle text ↔ needle.map Char.toLower <:+: text.map Char.toLower :=
  List.infix_map_iff.symm

instance (needle text : List Char) : Decidable (HoldsFolded needle text) :=
  decidable_of_iff _ holdsFolded_iff.symm

/-- What holds no line break does not run over one. -/
theorem holdsFolded_append_newline_iff {needle front back : List Char} (honeLine : '\n' ∉ needle.map Char.toLower) :
    HoldsFolded needle (front ++ '\n' :: back) ↔ HoldsFolded needle front ∨ HoldsFolded needle back := by
  have hline : '\n'.toLower = '\n' := by decide
  simp only [holdsFolded_iff, List.map_append, List.map_cons, hline]
  rw [infix_append_iff_of_head (by simpa using honeLine), ← List.singleton_append,
    infix_append_iff_of_first (by
      rintro c hfirst hmem
      obtain rfl := List.mem_singleton.mp hmem
      exact honeLine (List.mem_of_head? hfirst))]

/-! ## Pictures of a text -/

/-- **A picture of a text that is blurred outside ASCII**: an ASCII character is seen in small letters, and
instead of any other one there is something without steady characters. -/
inductive Blurs : List Char → List Char → Prop
  | nil : Blurs [] []
  /-- A character of ASCII is seen. -/
  | ascii {c : Char} {text image : List Char} : c.toNat < 0x80 → Blurs text image →
    Blurs (c :: text) (c.toLower :: image)
  /-- Any other one is blurred. -/
  | foreign {c d : Char} {text image : List Char} (blur : List Char) : 0x80 ≤ c.toNat →
    (∀ b ∈ d :: blur, ¬IsSteady b) → Blurs text image → Blurs (c :: text) (d :: blur ++ image)

/-- **What a text may be lowered to is a picture of it.** -/
theorem LowersTo.blurs {text lowered : List Char} (hlowers : LowersTo text lowered) : Blurs text lowered := by
  induction hlowers with
  | nil => exact .nil
  | finalSigma _ ih => exact .foreign [] (by decide) (List.forall_mem_singleton.mpr (by decide)) ih
  | @cons text lowered c _ ih =>
    by_cases hascii : c.toNat < 0x80
    case pos =>
      rw [lowerChar_of_ascii hascii]
      exact .ascii hascii ih
    case neg =>
      have hforeign : 0x80 ≤ c.toNat := Nat.not_lt.mp hascii
      have hblurred (b : Char) (hmem : b ∈ lowerChar c) : ¬IsSteady b := not_isSteady_of_mem_lowerChar hforeign hmem
      cases himage : lowerChar c with
      | nil => exact absurd himage (lowerChar_ne_nil c)
      | cons d blur =>
        rw [himage] at hblurred
        exact .foreign blur hforeign hblurred ih

/-- A character, but for one outside ASCII only that there is one. -/
def masked (c : Char) : Char := if c.toNat < 0x80 then c else '\uFFFD'

/-- With the characters outside ASCII masked, a text has a picture of its own. -/
theorem blurs_map_masked (text : List Char) : Blurs text ((text.map masked).map Char.toLower) := by
  induction text with
  | nil => exact .nil
  | cons c text ih =>
    rw [List.map_cons, List.map_cons, masked]
    split
    case isTrue hascii => exact .ascii hascii ih
    case isFalse hforeign => exact .foreign [] (Nat.not_lt.mp hforeign) (List.forall_mem_singleton.mpr (by decide)) ih

section

variable {needle text image : List Char}

/-- Steady characters are in small letters. -/
theorem map_toLower_of_steady (hsteady : ∀ c ∈ needle, IsSteady c) : needle.map Char.toLower = needle :=
  (List.map_congr_left fun c hmem => (hsteady c hmem).2.1).trans (List.map_id needle)

/-- What a picture starts with, the text does. -/
theorem Blurs.prefix_iff (hblurs : Blurs text image) (hsteady : ∀ c ∈ needle, IsSteady c) :
    needle <+: image ↔ needle <+: text.map Char.toLower := by
  induction hblurs generalizing needle with
  | nil => rfl
  | ascii _ _ ih =>
    cases needle with
    | nil => simp
    | cons n needle =>
      rw [List.map_cons, List.cons_prefix_cons, List.cons_prefix_cons, ih (List.forall_mem_cons.mp hsteady).2]
  | @foreign c d text image blur hforeign hblurred _ _ =>
    cases needle with
    | nil => simp
    | cons n needle =>
      have hn := hsteady n List.mem_cons_self
      have hnotSeen : n ≠ d := fun hsame => hblurred d List.mem_cons_self (hsame ▸ hn)
      have hnotThere : n ≠ c := fun hsame => not_isSteady_of_foreign hforeign (hsame ▸ hn)
      rw [List.map_cons, toLower_of_foreign hforeign, List.cons_append, List.cons_prefix_cons, List.cons_prefix_cons]
      simp [hnotSeen, hnotThere]

/-- What is found in a picture is found in the text in small letters. -/
theorem Blurs.infix_map_iff (hblurs : Blurs text image) (hsteady : ∀ c ∈ needle, IsSteady c) :
    needle <:+: image ↔ needle <:+: text.map Char.toLower := by
  induction hblurs with
  | nil => rfl
  | ascii hascii hbehind ih =>
    rw [List.infix_cons_iff, ih, (Blurs.ascii hascii hbehind).prefix_iff hsteady, List.map_cons, List.infix_cons_iff]
  | @foreign c d text image blur hforeign hblurred _ ih =>
    have hnotSeen : ∀ n ∈ needle.head?, n ∉ d :: blur := fun n hfirst hmem =>
      hblurred n hmem (hsteady n (List.mem_of_head? hfirst))
    have hnotThere : ∀ n ∈ needle.head?, n ∉ [c] := fun n hfirst hmem =>
      not_isSteady_of_foreign hforeign (List.mem_singleton.mp hmem ▸ hsteady n (List.mem_of_head? hfirst))
    rw [infix_append_iff_of_first hnotSeen, ih, List.map_cons, toLower_of_foreign hforeign, ← List.singleton_append,
      infix_append_iff_of_first hnotThere]

/-- **What is found in a picture of a text** is what the text holds up to the case of ASCII letters: nothing
blurred adds to it or takes from it. -/
theorem Blurs.infix_iff (hblurs : Blurs text image) (hsteady : ∀ c ∈ needle, IsSteady c) :
    needle <:+: image ↔ HoldsFolded needle text := by
  rw [hblurs.infix_map_iff hsteady, holdsFolded_iff, map_toLower_of_steady hsteady]

/-- Masking what is outside ASCII neither adds to what a text holds nor takes from it. -/
theorem holdsFolded_map_masked_iff (hsteady : ∀ c ∈ needle, IsSteady c) :
    HoldsFolded needle (text.map masked) ↔ HoldsFolded needle text := by
  rw [holdsFolded_iff, map_toLower_of_steady hsteady, (blurs_map_masked text).infix_iff hsteady]

end

end ComponentScaffold.Text
