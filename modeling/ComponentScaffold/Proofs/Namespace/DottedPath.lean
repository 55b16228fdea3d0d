import ComponentScaffold.Proofs.Path.Below
import Mathlib.Data.List.Basic

/-! # Namespaces are dotted paths

The namespace of a component is told by the names between the slashes of two paths, however the paths
are written: empty pieces and dots are passed over, and what matters is whether the names of one path go on
from those of the other.

* **`Path.spelled`** — the names that a path spells; `Path.components_eq_append_iff` reads steps off them.
* **`NamespacePair.ofFull_intercalate`** — the pair of names joined by dots.
* **`ProjectRoot.namespaceOf_dottedPath`** — the namespaces of a component in a folder. -/

namespace ComponentScaffold

namespace Path

/-- **The names that a path spells**: what stands between its slashes, without dots. -/
def spelled (p : Path) : List String := p.names.filter (· ≠ ".")

/-- The step that is taken to a name that is no dot. -/
def Component.ofName (name : String) : Component := if name = ".." then .parent else .name name

/-- A step up is not written like any other step. -/
theorem Component.ofName_injective : Function.Injective Component.ofName := by
  intro name other hsame
  unfold ofName at hsame
  split at hsame <;> split at hsame
  case isTrue.isTrue hup hup' => rw [hup, hup']
  case isFalse.isFalse => exact Component.name.inj hsame
  all_goals cases hsame

/-- The steps of an absolute path are those to the names that it spells. -/
theorem components_eq_map_spelled {p : Path} (habs : p.isAbsolute = true) :
    p.components = .root :: p.spelled.map Component.ofName := by
  rw [components_of_isAbsolute habs, spelled]
  congr 1
  -- either side drops the dots and makes a component of every other name
  have hsteps : ∀ names : List String, "" ∉ names →
      names.filterMap Component.ofPiece? = (names.filter (· ≠ ".")).map Component.ofName := by
    intro names hnamed
    induction names with
    | nil => rfl
    | cons name rest ih =>
      rw [List.mem_cons, not_or] at hnamed
      by_cases hdot : name = "."
      · simp [hdot, Component.ofPiece?, isIdle, ih hnamed.2]
      · have hstep : Component.ofPiece? name = some (Component.ofName name) := by
          have hbusy : isIdle name = false := by simp [isIdle, Ne.symm hnamed.1, hdot]
          rw [Component.ofPiece?, hbusy, Component.ofName, apply_ite some]
          rfl
        rw [List.filterMap_cons_some hstep, List.filter_cons_of_pos (by simpa using hdot), List.map_cons,
          ih hnamed.2]
  exact hsteps p.names (by simp [names])

/-- **One path goes on from another** where its names do. -/
theorem components_eq_append_iff {p base : Path} (habs : p.isAbsolute = true)
    (hrooted : base.isAbsolute = true) {more : List String} :
    p.components = base.components ++ more.map Component.ofName ↔ p.spelled = base.spelled ++ more := by
  rw [components_eq_map_spelled habs, components_eq_map_spelled hrooted, List.cons_append,
    List.cons.injEq, ← List.map_append, (List.map_injective_iff.mpr Component.ofName_injective).eq_iff]
  exact and_iff_right rfl

/-- Names that are no steps up are stepped to. -/
theorem map_ofName {names : List String} (hdown : ".." ∉ names) :
    names.map Component.ofName = names.map .name := by
  refine List.map_congr_left fun name hmem => ?_
  rw [Component.ofName, if_neg fun hup : name = ".." => hdown (hup ▸ hmem)]

/-- A path that does not go on from a folder lies outside of it. -/
theorem segmentsBelow_of_outside {p base : Path} (habs : p.isAbsolute = true)
    (hrooted : base.isAbsolute = true) (houtside : ∀ more, p.spelled ≠ base.spelled ++ more) :
    p.segmentsBelow base = .error (.outsideRoot p base) := by
  have hnothing : p.relativeTo? base = none := by
    rcases relativeTo?_components p base with ⟨way, -, hgoesOn⟩ | ⟨hnothing, -⟩
    · -- the steps that go on would be those to names
      rw [components_eq_map_spelled habs, components_eq_map_spelled hrooted, List.cons_append,
        List.cons.injEq, List.map_eq_append_iff] at hgoesOn
      obtain ⟨-, front, back, hspelled, hsame, -⟩ := hgoesOn
      rw [List.map_injective_iff.mpr Component.ofName_injective hsame] at hspelled
      exact absurd hspelled (houtside back)
    · exact hnothing
  rw [segmentsBelow, hnothing]

end Path

/-! ## The pair of a namespace -/

/-- **The two namespaces of names joined by dots**: all of them, and all but the last one. -/
theorem NamespacePair.ofFull_intercalate (above : List String) {entity : String}
    (hdotless : '.' ∉ entity.toList) :
    NamespacePair.ofFull (".".intercalate (above ++ [entity])) =
      ⟨".".intercalate (above ++ [entity]), if above = [] then entity else ".".intercalate above⟩ := by
  rw [NamespacePair.ofFull, NamespacePair.mk.injEq]
  refine ⟨rfl, ?_⟩
  split
  case isTrue hempty =>
    rw [hempty, List.nil_append, String.intercalate_singleton, beforeLastDot_of_not_mem hdotless,
      String.ofList_toList]
  case isFalse hne =>
    have hjoined : (".".intercalate (above ++ [entity])).toList =
        (".".intercalate above).toList ++ '.' :: entity.toList := by
      rw [String.intercalate_append_of_ne_nil hne (List.cons_ne_nil entity []),
        String.intercalate_singleton, String.toList_append, String.toList_append, List.append_assoc]
      rfl
    rw [hjoined, beforeLastDot_append _ _ hdotless, String.ofList_toList]

/-- Where all segments have characters, none is left out of the namespaces. -/
theorem ProjectRoot.namespaceOf_of_segments {root : ProjectRoot} {target : Path} {segments : List String}
    {entity : String} (hbelow : target.segmentsBelow root.path = .ok segments) (hsolid : "" ∉ segments)
    (hnamed : entity ≠ "") :
    root.namespaceOf target entity =
      .ok (.ofFull (".".intercalate (root.leadingSegments ++ segments ++ [entity]))) := by
  have hleading : "" ∉ root.leadingSegments := by
    unfold leadingSegments
    split
    case isTrue => simp
    case isFalse hproject =>
      simp only [Bool.or_eq_true, String.isEmpty_iff, not_or] at hproject
      simpa using Ne.symm hproject.2
  -- no segment is empty, so none is left out
  have hkept : (root.leadingSegments ++ segments ++ [entity]).filter (· ≠ "") =
      root.leadingSegments ++ segments ++ [entity] := by
    rw [List.filter_eq_self]
    intro segment hmem
    simp only [List.mem_append, List.mem_singleton] at hmem
    have hcharacters : segment ≠ "" := by
      rintro rfl
      exact hmem.elim (·.elim hleading hsolid) hnamed.symm
    simpa using hcharacters
  rw [namespaceOf, hbelow]
  simp only [bind, Except.bind, pure, Except.pure, hkept]
  rw [if_neg (by simp)]

/-- Without segments below its root, a folder has no namespaces. -/
theorem ProjectRoot.namespaceOf_of_error {root : ProjectRoot} {target : Path} {fault : NamespaceFault}
    (hbelow : target.segmentsBelow root.path = .error fault) (entity : String) :
    root.namespaceOf target entity = .error fault := by
  rw [namespaceOf, hbelow]
  rfl

/-- **The namespaces of a component are its folder's path with dots.** For every way in which the path of a
folder spells the root and then further names, the full namespace is those names behind the project's and
before the component's, joined by dots, and the code's namespace is the same without the component's name,
unless nothing is left then. A folder that does not go on from the root name by name, or goes on with a step
up, has no namespaces. -/
theorem ProjectRoot.namespaceOf_dottedPath {root : ProjectRoot} {target : Path} (entity : String)
    (hrooted : root.path.isAbsolute = true) (habs : target.isAbsolute = true) :
    let project := if root.isSolution = false ∧ root.projectName ≠ "" then [root.projectName] else []
    (∀ segments, target.spelled = root.path.spelled ++ segments → ".." ∉ segments →
      entity ≠ "" → '.' ∉ entity.toList →
      root.namespaceOf target entity = .ok
        ⟨".".intercalate (project ++ segments ++ [entity]),
          if project ++ segments = [] then entity else ".".intercalate (project ++ segments)⟩) ∧
    (∀ segments, target.spelled = root.path.spelled ++ segments → ".." ∈ segments →
      ∃ way, root.namespaceOf target entity = .error (.unnamedStep way)) ∧
    ((∀ segments, target.spelled ≠ root.path.spelled ++ segments) →
      root.namespaceOf target entity = .error (.outsideRoot target root.path)) := by
  intro project
  have hleading : root.leadingSegments = project := by
    cases hsolution : root.isSolution <;> by_cases hempty : root.projectName = "" <;>
      simp [project, leadingSegments, hsolution, hempty]
  refine ⟨fun segments hspelled hdown hnamed hdotless => ?_, fun segments hspelled hup => ?_, fun houtside => ?_⟩
  · have hbelow : target.segmentsBelow root.path = .ok segments := by
      rw [Path.segmentsBelow_eq_ok_iff habs, ← Path.map_ofName hdown]
      exact (Path.components_eq_append_iff habs hrooted).mpr hspelled
    have hsolid : "" ∉ segments := by
      intro hmem
      have hwithin : "" ∈ target.spelled := hspelled ▸ List.mem_append_right _ hmem
      exact (Path.isStep_of_mem_names (List.mem_filter.mp hwithin).1).ne_empty rfl
    rw [namespaceOf_of_segments hbelow hsolid hnamed, hleading, NamespacePair.ofFull_intercalate _ hdotless]
  · have hgoesOn := (Path.components_eq_append_iff habs hrooted).mpr hspelled
    obtain ⟨way, hbelow⟩ := Path.segmentsBelow_of_parent habs hgoesOn
      (List.mem_map.mpr ⟨"..", hup, rfl⟩)
    exact ⟨way, namespaceOf_of_error hbelow entity⟩
  · exact namespaceOf_of_error (Path.segmentsBelow_of_outside habs hrooted houtside) entity

/-- The namespaces in a folder with a dot in its name, written with idle pieces, below a project with a dot in
its name; and the folders beside the project and above it. -/
theorem ProjectRoot.namespaceOf_dottedPath_views :
    let root : ProjectRoot := ⟨⟨"/proj"⟩, false, "App.Core"⟩
    root.namespaceOf ⟨"//proj/./Views//User.Parts/"⟩ "Card" =
        .ok ⟨"App.Core.Views.User.Parts.Card", "App.Core.Views.User.Parts"⟩ ∧
      (∃ way, root.namespaceOf ⟨"/proj/Views/../.."⟩ "Card" = .error (.unnamedStep way)) ∧
      root.namespaceOf ⟨"/project/Views"⟩ "Card" = .error (.outsideRoot ⟨"/project/Views"⟩ ⟨"/proj"⟩) := by
  intro root
  have hrooted : root.path.isAbsolute = true := by decide
  obtain ⟨hinside, -, -⟩ := namespaceOf_dottedPath "Card" hrooted
    (show Path.isAbsolute ⟨"//proj/./Views//User.Parts/"⟩ = true by decide)
  obtain ⟨-, habove, -⟩ := namespaceOf_dottedPath "Card" hrooted
    (show Path.isAbsolute ⟨"/proj/Views/../.."⟩ = true by decide)
  obtain ⟨-, -, hbeside⟩ := namespaceOf_dottedPath "Card" hrooted
    (show Path.isAbsolute ⟨"/project/Views"⟩ = true by decide)
  refine ⟨?_, habove ["Views", "..", ".."] (by decide) (by decide), hbeside fun segments hspelled => ?_⟩
  · have hnamespaces := hinside ["Views", "User.Parts"] (by decide) (by decide) (by decide) (by decide)
    rw [hnamespaces]
    decide
  · have hnames : (⟨"/project/Views"⟩ : Path).spelled = ["project", "Views"] ∧ root.path.spelled = ["proj"] := by
      decide
    rw [hnames.1, hnames.2, List.singleton_append, List.cons.injEq] at hspelled
    exact absurd hspelled.1 (by decide)

end ComponentScaffold
