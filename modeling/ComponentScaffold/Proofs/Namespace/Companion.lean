import ComponentScaffold.Proofs.Namespace.DottedPath
import Mathlib.Data.List.TakeWhile

/-! # Companion folders

The folder of a view-model mirrors the folder of its component: it is reached by the same names, with
the folder of view-models in place of the first folder of views.

* **`CutsAtFolder`** — names cut at the first one that is a folder's.
* **`ProjectRoot.companionFolders_mirror`** — the names of the companion folders, and that they tell
  the component's folder where nothing in it is named like the folder of view-models. -/

namespace ComponentScaffold

/-! ## Names cut at a folder -/

/-- **Names cut at the first one of a folder**: those before it and those behind it. Where none is the
folder's, all of them come behind. -/
def CutsAtFolder (folder : String) (segments above below : List String) : Prop :=
  (∃ i, segments.idxOf? folder = some i ∧ above = segments.take i ∧ below = segments.drop (i + 1)) ∨
    segments.idxOf? folder = none ∧ above = [] ∧ below = segments

section

variable {folder : String} {segments above below : List String}

/-- Names that are cut at a folder go through it, or none of them is the folder's. -/
theorem CutsAtFolder.cases (h : CutsAtFolder folder segments above below) :
    (folder ∉ above ∧ segments = above ++ folder :: below) ∨
      folder ∉ segments ∧ above = [] ∧ below = segments := by
  rcases h with ⟨i, hfirst, rfl, rfl⟩ | ⟨hnone, rfl, rfl⟩
  · left
    obtain ⟨hbound, hhere, hearlier⟩ := List.idxOf?_eq_some_iff.mp hfirst
    refine ⟨fun hmem => ?_, ?_⟩
    · obtain ⟨j, hshort, hthere⟩ := List.getElem_of_mem hmem
      rw [List.length_take] at hshort
      rw [List.getElem_take] at hthere
      exact hearlier j (by omega) hthere
    · conv => lhs; rw [← List.take_append_drop i segments, List.drop_eq_getElem_cons hbound, hhere]
  · exact .inr ⟨List.idxOf?_eq_none_iff.mp hnone, rfl, rfl⟩

/-- Names with a folder among them go through it. -/
theorem CutsAtFolder.eq_of_mem (h : CutsAtFolder folder segments above below) (hmem : folder ∈ segments) :
    segments = above ++ folder :: below :=
  h.cases.elim And.right fun hnone => absurd hmem hnone.1

/-- The search for a folder cuts the names at it. -/
theorem cutsAtFolder_splitAtFolder (folder : String) (segments : List String) :
    CutsAtFolder folder segments (splitAtFolder folder segments).1 (splitAtFolder folder segments).2 := by
  by_cases hmem : folder ∈ segments
  · obtain ⟨above, below, rfl, habsent⟩ := List.eq_append_cons_of_mem hmem
    have hpassed : ∀ name ∈ above, decide (name ≠ folder) = true := by
      intro name hamong
      simpa using fun hsame : name = folder => habsent (hsame ▸ hamong)
    have hsplit : splitAtFolder folder (above ++ folder :: below) = (above, below) := by
      rw [splitAtFolder, List.dropWhile_append_of_pos hpassed, List.takeWhile_append_of_pos hpassed]
      simp
    have hindex : (above ++ folder :: below).idxOf? folder = some above.length := by
      rw [List.idxOf?_eq_some_iff]
      refine ⟨by simp, by simp, fun j hearly hsame => habsent ?_⟩
      rw [List.getElem_append_left hearly] at hsame
      exact hsame ▸ List.getElem_mem hearly
    rw [hsplit]
    exact .inl ⟨above.length, hindex, by simp, by simp⟩
  · have hpassed : ∀ name ∈ segments, decide (name ≠ folder) = true := by
      intro name hamong
      simpa using fun hsame : name = folder => hmem (hsame ▸ hamong)
    have hsplit : splitAtFolder folder segments = ([], segments) := by
      rw [splitAtFolder, List.dropWhile_eq_nil_iff.mpr hpassed]
    rw [hsplit]
    exact .inr ⟨List.idxOf?_eq_none_iff.mpr hmem, rfl, rfl⟩

/-- The names on either side of a folder are among all of them. -/
theorem CutsAtFolder.mem (h : CutsAtFolder folder segments above below) :
    (∀ name ∈ above, name ∈ segments) ∧ ∀ name ∈ below, name ∈ segments := by
  rcases h.cases with ⟨-, rfl⟩ | ⟨-, rfl, rfl⟩
  · exact ⟨fun _ hmem => List.mem_append_left _ hmem,
      fun _ hmem => List.mem_append_right _ (List.mem_cons_of_mem _ hmem)⟩
  · exact ⟨fun _ hmem => absurd hmem List.not_mem_nil, fun _ hmem => hmem⟩

end

/-! ## The companion folders -/

namespace ProjectRoot

variable {root : ProjectRoot} {target : Path} {views viewModels : String} {folders : CompanionFolders}

/-- **The companion folders** are reached from the root by the names around the folder of views. -/
theorem companionFolders_of_segments {segments : List String} (views viewModels : String)
    (hbelow : target.segmentsBelow root.path = .ok segments) :
    ∃ above behind, CutsAtFolder views segments above behind ∧
      root.companionFolders target views viewModels =
        .ok ⟨root.path.descend (above ++ viewModels :: behind), root.path.descend (above ++ [viewModels])⟩ := by
  refine ⟨_, _, cutsAtFolder_splitAtFolder views segments, ?_⟩
  unfold companionFolders
  rw [hbelow]
  simp only [Path.descend, List.foldl_append, List.foldl_cons, List.foldl_nil]
  rfl

/-- Where the way down is read, there are companion folders. -/
theorem exists_companionFolders {segments : List String} (views viewModels : String)
    (hbelow : target.segmentsBelow root.path = .ok segments) :
    ∃ folders, root.companionFolders target views viewModels = .ok folders := by
  obtain ⟨_, _, -, hcompanions⟩ := companionFolders_of_segments views viewModels hbelow
  exact ⟨_, hcompanions⟩

/-- There are no companion folders exactly if the folder has no names on its way down. -/
theorem companionFolders_eq_error_iff {fault : NamespaceFault} :
    root.companionFolders target views viewModels = .error fault ↔
      target.segmentsBelow root.path = .error fault := by
  unfold companionFolders
  cases target.segmentsBelow root.path <;> simp [bind, Except.bind, pure, Except.pure]

/-- **The folder of a view-model** lies below the root, through names and the folder of view-models. -/
theorem companionFolders_ok (h : root.companionFolders target views viewModels = .ok folders) :
    ∃ above below, folders.viewModel = ((root.path.descend above).child viewModels).descend below ∧
      folders.base = (root.path.descend above).child viewModels ∧
      (∀ name ∈ above, Path.IsStep name ∧ name ≠ "." ∧ name ≠ "..") ∧
      ∀ name ∈ below, Path.IsStep name ∧ name ≠ "." ∧ name ≠ ".." := by
  cases hbelow : target.segmentsBelow root.path with
  | error fault =>
    rw [companionFolders_eq_error_iff.mpr hbelow] at h
    cases h
  | ok segments =>
    obtain ⟨above, behind, hcut, hcompanions⟩ := companionFolders_of_segments views viewModels hbelow
    obtain ⟨hbefore, hafter⟩ := hcut.mem
    obtain rfl := Except.ok.inj (h.symm.trans hcompanions)
    refine ⟨above, behind, ?_, ?_, fun name hmem => Path.isStep_of_mem_segmentsBelow hbelow (hbefore name hmem),
      fun name hmem => Path.isStep_of_mem_segmentsBelow hbelow (hafter name hmem)⟩ <;>
    simp only [Path.descend, List.foldl_append, List.foldl_cons, List.foldl_nil]

/-- A folder whose way down goes through a name has the dotted way as its code's namespace. -/
theorem namespaceOf_of_way {above behind : List String} {entity : String}
    (hbelow : target.segmentsBelow root.path = .ok (above ++ viewModels :: behind)) (hnamed : entity ≠ "")
    (hdotless : '.' ∉ entity.toList) :
    root.namespaceOf target entity = .ok
      ⟨".".intercalate (root.leadingSegments ++ (above ++ viewModels :: behind) ++ [entity]),
        ".".intercalate (root.leadingSegments ++ (above ++ viewModels :: behind))⟩ := by
  have hsolid : "" ∉ above ++ viewModels :: behind := fun hmem =>
    (Path.isStep_of_mem_segmentsBelow hbelow hmem).1.ne_empty rfl
  rw [namespaceOf_of_segments hbelow hsolid hnamed, NamespacePair.ofFull_intercalate _ hdotless, if_neg]
  simp

/-- **Companion folders mirror the folder of a component.** However the root is written and whatever the
two folders are called, as long as the folder of view-models has an ordinary name: where the component's
folder is reached from the root by names, the folder of its view-model is reached by the same ones, with the
folder of view-models in place of the first folder of views, or in front of them all if there is none. Those
are the names that the way down is read as, and joined by dots they are the namespace of the view-model's
code, if the name of its class has no dot. Of a folder of views without a folder of view-models the way down is told by that of its companion.
There are no companion folders exactly where the way down cannot be read. -/
theorem companionFolders_mirror (root : ProjectRoot) (views : String) {viewModels : String}
    (hordinary : Path.IsStep viewModels ∧ viewModels ≠ "." ∧ viewModels ≠ "..") :
    (∀ (target : Path) (segments : List String),
      target.components = root.path.components ++ segments.map .name →
        target.segmentsBelow root.path = .ok segments) ∧
    (∀ (target : Path) (segments : List String), target.segmentsBelow root.path = .ok segments →
      ∃ above behind folders, CutsAtFolder views segments above behind ∧
        root.companionFolders target views viewModels = .ok folders ∧
        folders.base.components = root.path.components ++ (above ++ [viewModels]).map .name ∧
        folders.viewModel.components = root.path.components ++ (above ++ viewModels :: behind).map .name ∧
        folders.base.segmentsBelow root.path = .ok (above ++ [viewModels]) ∧
        folders.viewModel.segmentsBelow root.path = .ok (above ++ viewModels :: behind) ∧
        ∀ entity : String, entity ≠ "" → '.' ∉ entity.toList →
          root.namespaceOf folders.viewModel entity = .ok
            ⟨".".intercalate (root.leadingSegments ++ (above ++ viewModels :: behind) ++ [entity]),
              ".".intercalate (root.leadingSegments ++ (above ++ viewModels :: behind))⟩) ∧
    (∀ (target other : Path) (segments segments' : List String) (folders folders' : CompanionFolders),
      target.segmentsBelow root.path = .ok segments → other.segmentsBelow root.path = .ok segments' →
      views ∈ segments → views ∈ segments' → viewModels ∉ segments → viewModels ∉ segments' →
      root.companionFolders target views viewModels = .ok folders →
      root.companionFolders other views viewModels = .ok folders' →
      folders.viewModel.components = folders'.viewModel.components → segments = segments') ∧
    ∀ (target : Path) (fault : NamespaceFault),
      root.companionFolders target views viewModels = .error fault ↔
        target.segmentsBelow root.path = .error fault := by
  -- the names of a companion folder are the steps behind the root
  have hsteps {target : Path} {segments above behind : List String}
      (hbelow : target.segmentsBelow root.path = .ok segments)
      (hcut : CutsAtFolder views segments above behind) :
      (root.path.descend (above ++ viewModels :: behind)).components =
        root.path.components ++ (above ++ viewModels :: behind).map .name := by
    refine Path.components_descend (List.forall_mem_append.mpr ⟨?_, List.forall_mem_cons.mpr ⟨hordinary, ?_⟩⟩)
    · exact fun name hmem => Path.isStep_of_mem_segmentsBelow hbelow (hcut.mem.1 name hmem)
    · exact fun name hmem => Path.isStep_of_mem_segmentsBelow hbelow (hcut.mem.2 name hmem)
  refine ⟨fun _ _ => Path.segmentsBelow_of_components, ?_, ?_, fun _ _ => companionFolders_eq_error_iff⟩
  · intro target segments hbelow
    obtain ⟨above, behind, hcut, hcompanions⟩ := companionFolders_of_segments views viewModels hbelow
    have hbase : (root.path.descend (above ++ [viewModels])).components =
        root.path.components ++ (above ++ [viewModels]).map .name := by
      refine Path.components_descend (List.forall_mem_append.mpr ⟨?_, by simpa using hordinary⟩)
      exact fun name hmem => Path.isStep_of_mem_segmentsBelow hbelow (hcut.mem.1 name hmem)
    have hread := Path.segmentsBelow_of_components (hsteps hbelow hcut)
    exact ⟨above, behind, _, hcut, hcompanions, hbase, hsteps hbelow hcut, Path.segmentsBelow_of_components hbase,
      hread, fun entity => namespaceOf_of_way hread⟩
  · intro target other segments segments' folders folders' hbelow hbelow' hmem hmem' habsent habsent' hcompanions
      hcompanions' hsame
    obtain ⟨above, behind, hcut, hfound⟩ := companionFolders_of_segments views viewModels hbelow
    obtain ⟨above', behind', hcut', hfound'⟩ := companionFolders_of_segments views viewModels hbelow'
    obtain rfl := Except.ok.inj (hcompanions.symm.trans hfound)
    obtain rfl := Except.ok.inj (hcompanions'.symm.trans hfound')
    rw [hsteps hbelow hcut, hsteps hbelow' hcut', List.append_cancel_left_eq] at hsame
    have hways := List.map_injective_iff.mpr (fun _ _ => Path.Component.name.inj) hsame
    -- the folder of view-models stands once in either way, so the ways agree on both sides of it
    rw [List.append_cons_inj_of_notMem (fun hmem => habsent (hcut.mem.1 _ hmem))
      (fun hmem => habsent (hcut.mem.2 _ hmem))] at hways
    obtain ⟨rfl, -, rfl⟩ := hways
    rw [hcut.eq_of_mem hmem, hcut'.eq_of_mem hmem']

/-- The companions of folders below a root that is not absolute: of one in a folder of views that holds another
one of that name, and of one that is in no folder of views; and a folder that does not go on from the root. -/
theorem companionFolders_mirror_views :
    let root : ProjectRoot := ⟨⟨"./app"⟩, false, "App"⟩
    (∃ folders, root.companionFolders ⟨"./app/src//Views/Views/User/"⟩ "Views" "ViewModels" = .ok folders ∧
      folders.base.segmentsBelow root.path = .ok ["src", "ViewModels"] ∧
      folders.viewModel.segmentsBelow root.path = .ok ["src", "ViewModels", "Views", "User"] ∧
      root.namespaceOf folders.viewModel "CardViewModel" =
        .ok ⟨"App.src.ViewModels.Views.User.CardViewModel", "App.src.ViewModels.Views.User"⟩ ∧
      ∀ other segments companions, other.segmentsBelow root.path = .ok segments →
        "Views" ∈ segments → "ViewModels" ∉ segments →
        root.companionFolders other "Views" "ViewModels" = .ok companions →
        folders.viewModel.components = companions.viewModel.components →
        segments = ["src", "Views", "Views", "User"]) ∧
    (∃ folders, root.companionFolders ⟨"./app/./Dialogs"⟩ "Views" "ViewModels" = .ok folders ∧
      folders.viewModel.segmentsBelow root.path = .ok ["ViewModels", "Dialogs"]) ∧
    root.companionFolders ⟨"app/Views"⟩ "Views" "ViewModels" =
      .error (.outsideRoot ⟨"app/Views"⟩ ⟨"./app"⟩) := by
  intro root
  have hordinary : Path.IsStep "ViewModels" ∧ "ViewModels" ≠ "." ∧ "ViewModels" ≠ ".." :=
    ⟨⟨by decide, by decide⟩, by decide, by decide⟩
  obtain ⟨hread, hmirrored, htold, hfailed⟩ := companionFolders_mirror root "Views" hordinary
  refine ⟨?_, ?_, (hfailed _ _).mpr (by decide)⟩
  · have hbelow := hread ⟨"./app/src//Views/Views/User/"⟩ ["src", "Views", "Views", "User"] (by decide)
    obtain ⟨above, behind, folders, hcut, hcompanions, -, -, hbase, hviewModel, hnamed⟩ := hmirrored _ _ hbelow
    obtain ⟨rfl, rfl⟩ : above = ["src"] ∧ behind = ["Views", "User"] := by
      rcases hcut with ⟨i, hfirst, rfl, rfl⟩ | ⟨hnone, -, -⟩
      · obtain rfl : 1 = i := Option.some.inj hfirst
        exact ⟨rfl, rfl⟩
      · cases hnone
    refine ⟨folders, hcompanions, hbase, hviewModel, ?_,
      fun other segments others hbelow' hmem habsent hfound hsame => ?_⟩
    · exact hnamed "CardViewModel" (by decide) (by decide)
    · exact (htold _ _ _ _ _ _ hbelow hbelow' (by decide) hmem (by decide) habsent hcompanions hfound hsame).symm
  · have hbelow := hread ⟨"./app/./Dialogs"⟩ ["Dialogs"] (by decide)
    obtain ⟨above, behind, folders, hcut, hcompanions, -, -, -, hviewModel, -⟩ := hmirrored _ _ hbelow
    obtain ⟨rfl, rfl⟩ : above = [] ∧ behind = ["Dialogs"] := by
      rcases hcut with ⟨i, hfirst, -, -⟩ | ⟨-, rfl, rfl⟩
      · cases hfirst
      · exact ⟨rfl, rfl⟩
    exact ⟨folders, hcompanions, hviewModel⟩

end ProjectRoot

end ComponentScaffold
