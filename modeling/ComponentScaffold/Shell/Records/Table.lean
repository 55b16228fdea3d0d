import Std.Data.HashMap
import ComponentScaffold.Shell.Records.Value

/-! # Tables

A table holds values by names. The names are gone through in the order of the lists that they are kept in: a list
for each value that a few bits of a mark of the name can have, with the name last looked for at its start.
Names that are whole numbers are first kept in lists of their own, by the low bits of the number.

* **`Records.Table`** — a table.
* **`Table.look`**, **`Table.put`**, **`Table.erase`** — what it holds, and changes of it.
* **`Table.names`** — its names in order. -/

namespace ComponentScaffold

namespace Shell

namespace Records

/-- **The mark of a name**: each byte is put into it, and what is there is multiplied. -/
def nameMark (name : Octets) : Nat :=
  name.foldl (fun mark c => (Nat.xor mark c.toNat * 16777619) % Nat.pow 2 32) 2166136261

/-- Values are kept by the characters of their names. -/
instance : Hashable Octets := @instHashableList Char instHashableChar

/-- A name of an entry. -/
inductive Key
  /-- A text. -/
  | text (name : Octets)
  /-- A whole number. -/
  | number (n : Int)

/-- The text of a key. -/
def Key.name : Key → Octets
  | .text name => name
  | .number n => intText n

/-- The lists of a table. -/
inductive Lists
  /-- There are none yet. -/
  | empty
  /-- The names are the numbers from one to the size of the table. -/
  | row
  /-- Lists of names, if names have been asked for, and of numbers. -/
  | lists (texts : Option (Array (List Octets))) (numbers : Array (List Int))

/-- **A table.** -/
structure Table where
  /-- The values by their names. -/
  cells : Std.HashMap Octets Value
  /-- The lists of names. -/
  lists : Lists

namespace Table

/-- A table without entries. -/
def empty : Table := ⟨{}, .empty⟩

/-- How many lists there are at first. -/
def startLists : Nat := 64

/-- How many names there are for each list at most. -/
def maxPerList : Nat := 2

/-- A list with an element in front, wherever else it stood. -/
def inFront {α : Type} [BEq α] (item : α) (items : List α) : List α :=
  item :: items.filter fun other => !(other == item)

/-- The place of a number among so many lists. -/
def numberPlace (lists : Nat) (n : Int) : Nat := (n % (lists : Int)).toNat

/-- The place of a name among so many lists. -/
def textPlace (lists : Nat) (name : Octets) : Nat := nameMark name % lists

/-- The lists of numbers of a row. -/
def rowNumbers (size : Nat) : Array (List Int) :=
  let lists := (List.range 32).foldl
    (fun lists _ => if lists * maxPerList < size then 2 * lists else lists) startLists
  (List.range size).foldl (fun numbers i =>
    numbers.modify ((i + 1) % lists) fun held => ((i + 1 : Nat) : Int) :: held)
    (Array.replicate lists [])

/-- Lists twice as many, between which the elements of each are shared out by the place that is theirs. -/
def doubled {α : Type} (place : Nat → α → Nat) (lists : Array (List α)) : Array (List α) :=
  let count := 2 * lists.size
  let part (start : Nat) : List (List α) := lists.toList.zipIdx.map fun (held, i) =>
    held.filter fun item => place count item = i + start
  (part 0 ++ part lists.size).toArray

/-- The lists of a table that is no row. -/
def spread (table : Table) : Option (Array (List Octets)) × Array (List Int) :=
  match table.lists with
  | .empty => (none, Array.replicate startLists [])
  | .row => (none, rowNumbers table.cells.size)
  | .lists texts numbers => (texts, numbers)

/-- The lists of names: if there were none, they get the numbers in the order of their lists. -/
def withTexts (texts : Option (Array (List Octets))) (numbers : Array (List Int)) :
    Array (List Octets) :=
  match texts with
  | some texts => texts
  | none =>
    numbers.toList.flatten.foldl (fun texts n =>
      let name := intText n
      texts.modify (textPlace texts.size name) (name :: ·))
      (Array.replicate numbers.size [])

/-- The lists with room for another entry. -/
def withRoom (size : Nat) (texts : Option (Array (List Octets))) (numbers : Array (List Int)) :
    Option (Array (List Octets)) × Array (List Int) :=
  if numbers.size * maxPerList < size then
    (texts.map (doubled textPlace), doubled numberPlace numbers)
  else (texts, numbers)

/-- The lists once a name has been looked for, which is new in a table of a size, or not. -/
def touched (table : Table) (isNew : Bool) (key : Key) : Lists :=
  let size := table.cells.size + 1
  match table.lists, key with
  | .row, .number _ =>
    if isNew then
      let (texts, numbers) := table.spread
      put size texts numbers
    else .row
  | _, _ =>
    let (texts, numbers) := table.spread
    put size texts numbers
where
  /-- The lists with the key in front of its own. -/
  put (size : Nat) (texts : Option (Array (List Octets))) (numbers : Array (List Int)) : Lists :=
    match key with
    | .text name =>
      let (texts, numbers) := if isNew then withRoom size (some (withTexts texts numbers)) numbers
        else (some (withTexts texts numbers), numbers)
      .lists (texts.map fun texts => texts.modify (textPlace texts.size name) (inFront name)) numbers
    | .number n =>
      let isListed := numbers[numberPlace numbers.size n]?.any (·.contains n)
      let (texts, numbers) := if isNew then withRoom size texts numbers else (texts, numbers)
      let name := intText n
      let texts := if isListed then texts
        else texts.map fun texts => texts.modify (textPlace texts.size name) (inFront name)
      .lists texts (numbers.modify (numberPlace numbers.size n) (inFront n))

/-- Whether a table has an entry of a name. -/
def has (table : Table) (key : Key) : Bool := table.cells.contains key.name

/-- A table in which a name has been looked for. -/
def afterLook (table : Table) (key : Key) : Table :=
  if table.has key then { table with lists := table.touched false key }
  else match table.lists, key with
    | .empty, _ | _, .number _ => table
    | _, .text _ =>
      let (texts, numbers) := table.spread
      { table with lists := .lists (some (withTexts texts numbers)) numbers }

/-- **The value of a name**, and the table with an entry for it. -/
def look (table : Table) (key : Key) : Value × Table :=
  match table.cells[key.name]? with
  | some value => (value, table.afterLook key)
  | none => (.none, ⟨table.cells.insert key.name .none, table.touched true key⟩)

/-- **A table with a value for a name.** -/
def put (table : Table) (key : Key) (value : Value) : Table :=
  ⟨table.cells.insert key.name value, table.touched (!table.has key) key⟩

/-- **A table without a name.** -/
def erase (table : Table) (key : Key) : Table :=
  if !table.has key then table
  else if table.cells.size = 1 then empty
  else
    let (texts, numbers) := table.spread
    let name := key.name
    ⟨table.cells.erase name,
      .lists (texts.map fun texts => texts.map fun held => held.filter (· ≠ name))
        (numbers.map fun held => held.filter fun n => intText n ≠ name)⟩

/-- The table of values in a row, by their numbers from one on. -/
def ofRow (values : List Value) : Table :=
  ⟨values.zipIdx.foldl (fun cells (value, i) => cells.insert (natText (i + 1)) value) {}, .row⟩

/-- **The names of a table in order**, and the table in which they are kept as names. -/
def names (table : Table) : List Octets × Table :=
  if table.cells.isEmpty then ([], table)
  else
    let (texts, numbers) := table.spread
    let texts := withTexts texts numbers
    (texts.toList.flatten, { table with lists := .lists (some texts) numbers })

end Table

end Records

end Shell

end ComponentScaffold
