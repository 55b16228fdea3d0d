import ComponentScaffold.Shell.Octets

/-! # Entries of variables

A variable of the extended dialect can have entries: a row has them by numbers, a table by texts.

* **`Shell.Entries`** — the entries of a variable.
* **`Shell.Entries.listed`** — the keys and the values, in the order in which they are gone through. -/

namespace ComponentScaffold

namespace Shell

/-- **The entries of a variable.** -/
inductive Entries
  /-- By numbers, the smallest first. -/
  | row (entries : List (Nat × Octets))
  /-- By texts, those first that were added first. -/
  | table (entries : List (Octets × Octets))
deriving DecidableEq, Repr

/-- A list in order of its keys with an entry put in. -/
def putSorted (key : Nat) (value : Octets) : List (Nat × Octets) → List (Nat × Octets)
  | [] => [(key, value)]
  | (other, held) :: rest =>
    if key < other then (key, value) :: (other, held) :: rest
    else if key = other then (key, value) :: rest
    else (other, held) :: putSorted key value rest

namespace Entries

/-- A row of values. -/
def ofList (values : List Octets) : Entries := .row (values.zipIdx.map fun (value, i) => (i, value))

/-- The number in which the bytes of a text are mixed. -/
def mixed (text : Octets) : UInt32 :=
  text.foldl (fun (mixed : UInt32) c => (mixed * 16777619) ^^^ UInt32.ofNat c.toNat) 2166136261

/-- The number of the lists in which the entries of a table are kept. -/
def listCount : Nat := 1024

/-- The list in which an entry of a table is kept. -/
def listOf (key : Octets) : Nat := (mixed key).toNat % listCount

/-- **The keys and the values**: those of a row by their numbers, those of a table list by list, in each of which the
latest one comes first. -/
def listed : Entries → List (Octets × Octets)
  | .row entries => entries.map fun (key, value) => (natText key, value)
  | .table entries =>
    let tagged := entries.reverse.map fun entry => (listOf entry.1, entry)
    (tagged.mergeSort fun a b => decide (a.1 ≤ b.1)).map Prod.snd

/-- The values. -/
def values (entries : Entries) : List Octets := entries.listed.map Prod.snd

/-- The keys. -/
def keys (entries : Entries) : List Octets := entries.listed.map Prod.fst

/-- The value of the entry that stands for the whole variable. -/
def main? : Entries → Option Octets
  | .row entries => entries.lookup 0
  | .table entries => entries.lookup ['0']

/-- A number one behind the greatest key of a row. -/
def next : Entries → Nat
  | .row entries => (entries.getLast?.map fun entry => entry.1 + 1).getD 0
  | .table _ => 0

/-- Whether the keys are texts. -/
def isTable : Entries → Bool
  | .row _ => false
  | .table _ => true

end Entries

end Shell

end ComponentScaffold
