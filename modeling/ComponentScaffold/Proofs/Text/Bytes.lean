import ComponentScaffold.Text.Search

/-! # Texts as bytes

A text and the bytes it is written with determine each other, and texts are ordered as their bytes are.

* **`Text.fromUTF8?_eq_some_iff`** — bytes that are read as a text are those that the text is written with.
* **`Text.isValid_utf8Size`** — the bytes of a front of a text end at a character boundary.
* **`Text.cutAt`** — a text is cut at a byte offset if that is a character boundary.
* **`Text.bytes_lt_iff`** — one order is the other. -/

namespace ComponentScaffold.Text

/-- Bytes are read as a text exactly when the text is written with them. -/
theorem fromUTF8?_eq_some_iff {bytes : ByteArray} {text : String} :
    String.fromUTF8? bytes = some text ↔ bytes = text.toUTF8 := by
  unfold String.fromUTF8?
  split
  case isTrue hvalid =>
    rw [Option.some.injEq]
    constructor
    · rintro rfl
      rfl
    · rintro rfl
      rfl
  case isFalse hinvalid =>
    simp only [reduceCtorEq, false_iff]
    rintro rfl
    exact hinvalid text.isValidUTF8

/-- A text that is written is read again. -/
@[simp] theorem fromUTF8?_toUTF8 (text : String) : String.fromUTF8? text.toUTF8 = some text :=
  fromUTF8?_eq_some_iff.2 rfl

/-! ## Byte offsets -/

/-- The bytes of characters are as many as those of the text that they make up. -/
theorem utf8Size_eq_utf8ByteSize (text : List Char) :
    utf8Size text = (String.ofList text).utf8ByteSize := by
  induction text with
  | nil => simp
  | cons c rest ih =>
    rw [utf8Size_cons, ih, String.ofList_cons, String.utf8ByteSize_append,
      String.utf8ByteSize_singleton]

/-- No bytes are those of no characters. -/
theorem utf8Size_eq_zero_iff {text : List Char} : utf8Size text = 0 ↔ text = [] := by
  cases text with
  | nil => simp
  | cons c rest =>
    have hpositive := c.utf8Size_pos
    simp only [utf8Size_cons, reduceCtorEq, iff_false]
    omega

/-- The order of characters does not matter for their bytes. -/
@[simp] theorem utf8Size_reverse (text : List Char) : utf8Size text.reverse = utf8Size text := by
  induction text with
  | nil => rfl
  | cons c rest ih => simp [ih, Nat.add_comm]

/-- **Of two fronts of one text** the one with fewer characters has fewer bytes. -/
theorem utf8Size_le_iff {front back front' back' : List Char} (hparts : front ++ back = front' ++ back') :
    utf8Size front ≤ utf8Size front' ↔ front.length ≤ front'.length := by
  rcases List.append_eq_append_iff.mp hparts with ⟨more, rfl, -⟩ | ⟨more, rfl, -⟩
  · simp
  · have hempty : utf8Size more ≤ 0 ↔ more.length ≤ 0 := by
      rw [Nat.le_zero, Nat.le_zero, utf8Size_eq_zero_iff, List.length_eq_zero_iff]
    rw [utf8Size_append, List.length_append]
    omega

/-- **A front of a text ends at a character boundary.** -/
theorem isValid_utf8Size (front back : List Char) :
    String.Pos.Raw.IsValid (String.ofList (front ++ back)) ⟨utf8Size front⟩ := by
  rw [String.Pos.Raw.isValid_iff_exists_append]
  refine ⟨String.ofList front, String.ofList back, String.ofList_append, ?_⟩
  rw [utf8Size_eq_utf8ByteSize]
  rfl

/-! ## Cutting at a byte offset -/

/-- **A text cut at a byte offset.** An offset that is no character boundary is refused. -/
def cutAt (text : String) (offset : Nat) : Except Nat (String × String) :=
  if hboundary : String.Pos.Raw.IsValid text ⟨offset⟩ then
    .ok ((text.sliceTo ⟨⟨offset⟩, hboundary⟩).copy, (text.sliceFrom ⟨⟨offset⟩, hboundary⟩).copy)
  else .error offset

variable {text front back : String} {offset : Nat}

/-- A text is cut into parts that make it up, where the first one ends. -/
theorem cutAt_eq_ok_iff :
    cutAt text offset = .ok (front, back) ↔ text = front ++ back ∧ front.utf8ByteSize = offset := by
  unfold cutAt
  split
  case isTrue hboundary =>
    have hcut := String.Pos.splits (⟨⟨offset⟩, hboundary⟩ : text.Pos)
    rw [Except.ok.injEq, Prod.mk.injEq]
    constructor
    · rintro ⟨rfl, rfl⟩
      exact ⟨hcut.eq_append, congrArg String.Pos.Raw.byteIdx hcut.offset_eq_rawEndPos.symm⟩
    · rintro ⟨hparts, hsize⟩
      exact hcut.eq ⟨hparts, congrArg String.Pos.Raw.mk hsize.symm⟩
  case isFalse hwithin =>
    refine iff_of_false (by simp) fun ⟨hparts, hsize⟩ => hwithin ?_
    rw [String.Pos.Raw.isValid_iff_exists_append]
    exact ⟨front, back, hparts, congrArg String.Pos.Raw.mk hsize.symm⟩

/-- Characters are cut where the bytes of the first ones end. -/
theorem cutAt_utf8Size (front back : List Char) :
    cutAt (String.ofList (front ++ back)) (utf8Size front) = .ok (String.ofList front, String.ofList back) :=
  cutAt_eq_ok_iff.mpr ⟨String.ofList_append, (utf8Size_eq_utf8ByteSize front).symm⟩

/-! ## The order of bytes

Texts are compared character by character, which is the same as byte by byte: of two characters the one of the
smaller code has the smaller encoding, and no encoding starts another one. -/

/-- The bytes of a text. -/
def bytes (text : String) : List UInt8 := text.toUTF8.data.toList

/-- **The bytes of a code**, by their number. All but the first hold six bits. -/
inductive Encodes (code : Nat) : List UInt8 → Prop
  /-- A single byte. -/
  | one : code ≤ 0x7f → Encodes code [.ofNat code]
  /-- Two bytes. -/
  | two (a b : Nat) : code = 64 * a + b → b < 64 → 0x7f < code → code ≤ 0x7ff →
    Encodes code [.ofNat (a + 0xc0), .ofNat (b + 0x80)]
  /-- Three bytes. -/
  | three (a b c : Nat) : code = 4096 * a + 64 * b + c → b < 64 → c < 64 → 0x7ff < code → code ≤ 0xffff →
    Encodes code [.ofNat (a + 0xe0), .ofNat (b + 0x80), .ofNat (c + 0x80)]
  /-- Four bytes. -/
  | four (a b c d : Nat) : code = 262144 * a + 4096 * b + 64 * c + d → b < 64 → c < 64 → d < 64 →
    0xffff < code → code < 0x110000 →
    Encodes code [.ofNat (a + 0xf0), .ofNat (b + 0x80), .ofNat (c + 0x80), .ofNat (d + 0x80)]

/-- The encoding of a character is that of its code. -/
theorem encodes_utf8EncodeChar (c : Char) : Encodes c.val.toNat (String.utf8EncodeChar c) := by
  have hcode : c.val.toNat < 0x110000 := by
    rcases c.valid with hlow | hhigh
    · exact Nat.lt_trans hlow (by decide)
    · exact hhigh.2
  have hsix (n : Nat) : n % 64 < 64 := Nat.mod_lt _ (by decide)
  fun_cases String.utf8EncodeChar c
  case case1 hone => exact .one hone
  case case2 hone htwo => exact .two _ _ (by omega) (hsix _) (Nat.lt_of_not_le hone) htwo
  case case3 _ htwo hthree =>
    exact .three _ _ _ (by omega) (hsix _) (hsix _) (Nat.lt_of_not_le htwo) hthree
  case case4 _ _ hthree =>
    exact .four _ _ _ _ (by omega) (hsix _) (hsix _) (hsix _) (Nat.lt_of_not_le hthree) hcode

/-- Of two codes the smaller has the smaller bytes, whatever follows. -/
theorem Encodes.append_lt {code other : Nat} {front front' : List UInt8} (h : Encodes code front)
    (h' : Encodes other front') (hlt : code < other) (back back' : List UInt8) :
    front ++ back < front' ++ back' := by
  cases h <;> cases h' <;>
    simp only [List.cons_append, List.nil_append, List.cons_lt_cons_iff, UInt8.lt_iff_toNat_lt,
      ← UInt8.toNat_inj, UInt8.toNat_ofNat'] <;>
    omega

/-- The bytes of a text are those of its characters. -/
theorem bytes_eq_flatMap (text : String) : bytes text = text.toList.flatMap String.utf8EncodeChar := by
  rw [bytes, String.toUTF8_eq_toByteArray, ← String.utf8Encode_toList, List.utf8Encode]
  exact List.toList_data_toByteArray

/-- The bytes of characters are compared like the characters. -/
theorem flatMap_utf8EncodeChar_lt {front back : List Char} (h : front < back) :
    front.flatMap String.utf8EncodeChar < back.flatMap String.utf8EncodeChar := by
  induction h with
  | @nil c _ =>
    rw [List.flatMap_nil, List.flatMap_cons]
    cases hbytes : String.utf8EncodeChar c with
    | nil => exact absurd hbytes (List.ne_nil_of_length_pos (by simp [Char.utf8Size_pos]))
    | cons => exact .nil
  | @cons c _ _ _ ih =>
    rw [List.flatMap_cons, List.flatMap_cons]
    exact List.append_left_lt ih
  | @rel c _ d _ hlt =>
    rw [List.flatMap_cons, List.flatMap_cons]
    exact (encodes_utf8EncodeChar c).append_lt (encodes_utf8EncodeChar d) hlt _ _

/-- **Texts are ordered like their bytes.** -/
theorem bytes_lt_iff {text other : String} : bytes text < bytes other ↔ text < other := by
  have hmono {text other : String} (h : text < other) : bytes text < bytes other := by
    rw [bytes_eq_flatMap, bytes_eq_flatMap]
    exact flatMap_utf8EncodeChar_lt h
  refine ⟨fun h => ?_, hmono⟩
  rcases Decidable.em (text < other) with hlt | hle
  · exact hlt
  rcases Decidable.em (other < text) with hgt | hge
  · exact absurd (hmono hgt) (List.lt_asymm h)
  · obtain rfl := String.le_antisymm hle hge
    exact absurd h (List.lt_irrefl _)

end ComponentScaffold.Text
