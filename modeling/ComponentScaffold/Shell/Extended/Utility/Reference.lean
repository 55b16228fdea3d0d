import ComponentScaffold.Shell.Extended.Assign
import ComponentScaffold.Shell.Utility.Basic

/-! # Variables that utilities name

An argument of a utility can name a variable or one of its entries.

* **`Extended.isReference`** — whether a text names one of those.
* **`Extended.putNamed`** — gives what a text names a value. -/

namespace ComponentScaffold

namespace Shell

namespace Extended

/-- **Whether a text names a variable** or one of its entries. -/
def isReference (text : Octets) : Bool :=
  match cutReference text with
  | (name, none) => isName name
  | (name, some key) => isName name && text.getLast? = some ']' && !key.isEmpty

/-- What is said about a text that names nothing. -/
def notIdentifier (text : Octets) : Octets := '\x60' :: text ++ octets "': not a valid identifier"

/-- Refuse a text that names nothing, with a status. -/
def requireReference (text : Octets) (status : Nat) : Exec Unit :=
  if isReference text then return () else Utility.failWith status (notIdentifier text)

/-- **Give what a text names a value**, as it was declared to have one. -/
def putNamed (reference value : Octets) : Exec Unit := do
  let (name, key) := cutReference reference
  let name := (← context).realName name
  let traits := ((variableOf? (← context) name).getD .empty).traits
  let value ← traitedText traits value
  match key with
  | none => assign name value false
  | some key => putEntry name (← settleKey name key) value

/-- Give a variable entries in the place of those it had. -/
def putRow (name : Octets) (values : List (Nat × Octets)) : Exec Unit := do
  let name := (← context).realName name
  let held := (variableOf? (← context) name).getD .empty
  if held.fixed then failFixed name
  let entries := Entries.row values
  changeContext fun c =>
    c.withVariable name (some { held with value := entries.main?, entries := some entries })

/-- What is done with each of some arguments, whose status is zero if all went well. What goes wrong with one of them
does not keep the others from being looked at. -/
def forAll (arguments : List Octets) (action : Octets → Exec Unit) : Exec Nat := do
  let statuses ← arguments.mapM fun argument => do
    match ← attempt (action argument) with
    | .ok () => return 0
    | .error .failure => return (← context).status
    | .error stop => throw stop
  return (statuses.filter (· ≠ 0)).getLast?.getD 0

end Extended

end Shell

end ComponentScaffold
