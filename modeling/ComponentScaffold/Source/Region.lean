import ComponentScaffold.Failure
import ComponentScaffold.Text.Search

/-! # Regions between markers

A region of a text lies between the first occurrence of a start marker and the next occurrence of an
end marker.

* **`Region.locate`** — the region, as a cut of the text in three; `Region.text_of_locate` says that
  the parts make up the text.
* **`Region.replace`** — the text with another content of the region. -/

namespace ComponentScaffold

open Text

/-- **A text cut at a region.** -/
structure Region where
  /-- The text up to the region, the start marker included. -/
  before : List Char
  /-- What the region holds. -/
  content : List Char
  /-- The text from the end marker on. -/
  after : List Char
deriving DecidableEq, Repr

namespace Region

/-- The whole text that is cut. -/
def text (region : Region) : List Char := region.before ++ region.content ++ region.after

/-- The text with another content of the region. -/
def replace (region : Region) (content : List Char) : List Char :=
  region.before ++ content ++ region.after

/-- The number of bytes before the region. -/
def startOffset (region : Region) : Nat := utf8Size region.before

/-- The number of bytes up to the end of the region. -/
def endOffset (region : Region) : Nat := region.startOffset + utf8Size region.content

/-- **The region between two markers.** It fails with the marker that is missing. -/
def locate (text startMarker endMarker : List Char) : Except Failure Region :=
  match splitFirst? startMarker text with
  | none => .error (.markerNotFound (String.ofList startMarker))
  | some (before, rest) =>
    match splitFirst? endMarker rest with
    | none => .error (.markerNotFound (String.ofList endMarker))
    | some (content, after) => .ok ⟨before ++ startMarker, content, endMarker ++ after⟩

/-- The parts of a located region make up the text. -/
theorem text_of_locate {text startMarker endMarker : List Char} {region : Region}
    (h : locate text startMarker endMarker = .ok region) : region.text = text := by
  unfold locate at h
  split at h
  case h_1 => simp at h
  case h_2 before rest hstart =>
    split at h
    case h_1 => simp at h
    case h_2 content after hend =>
      obtain rfl := Except.ok.inj h
      rw [append_of_splitFirst? hstart, append_of_splitFirst? hend]
      simp [Region.text]

/-- Putting back what a region holds gives the text. -/
@[simp] theorem replace_content (region : Region) : region.replace region.content = region.text := rfl

end Region

/-- A text with another content of the region between two markers. -/
def replaceRegion (text startMarker endMarker content : List Char) : Except Failure (List Char) :=
  (Region.locate text startMarker endMarker).map (·.replace content)

end ComponentScaffold
