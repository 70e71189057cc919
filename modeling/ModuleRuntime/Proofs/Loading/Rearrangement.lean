import ModuleRuntime.Proofs.Loading.Fate

/-!
# The order of the images of a batch does not matter

If no two modules of a batch share a name, none has a name of the core, and one linker answers all
calls, then the batch loads the same modules and refuses the same images for the same reasons in
whatever order the images are given.
-/

set_option autoImplicit false

namespace ModuleRuntime.Module.Loader

open LoadOrder (NamesApart tried leftOver)

variable {l : Loader} {images images' : List Image}

/-- Two batches that both end well. They load the same modules and refuse the same images for the
same reasons, though not always in the same order. -/
def EndsAlike (l : Loader) (images images' : List Image) : Prop :=
  ∃ report modules refused l₁ report' modules' refused' l₂,
    (l.loadBatch images).value = (.ok report, l₁) ∧
    l.Completes images modules refused report l₁ ∧
    (l.loadBatch images').value = (.ok report', l₂) ∧
    l.Completes images' modules' refused' report' l₂ ∧
    (report.loaded.map Prod.fst).Perm (report'.loaded.map Prod.fst) ∧ refused.Perm refused'

/-- The modules that a batch has loaded are in its report under their ids. -/
theorem Completes.ids_eq {modules : List Placed} {refused : List (Image × Error)}
    {report : BatchReport} {l' : Loader} (h : l.Completes images modules refused report l') :
    report.loaded.map Prod.fst = (modules.map Placed.candidate).map (·.1.id) := by
  rw [h.loaded, List.map_map, List.map_map]
  rfl

/-- Batches of the same images end alike, whatever their order. -/
theorem IsRegular.endsAlike (hr : l.IsRegular (l.inspector.candidates images))
    (hs : l.clock.Sound) (hidle : l.IsIdle) (hperm : images.Perm images') :
    l.EndsAlike images images' := by
  have hcandidates : (l.inspector.candidates images).Perm (l.inspector.candidates images') :=
    hperm.filterMap _
  have hrefused : (l.inspector.refused images).Perm (l.inspector.refused images') :=
    hperm.filterMap _
  have hr' : l.IsRegular (l.inspector.candidates images') := by
    refine ⟨hr.linkers, hr.apart.perm hcandidates, ?_⟩
    intro c hc
    exact hr.core c (hcandidates.mem_iff.mpr hc)
  have hfate : l.fate (l.inspector.candidates images') = l.fate (l.inspector.candidates images) :=
    fate_perm hr.apart hcandidates
  have htried := hr.apart.perm_tried hcandidates
  have hleft := hr.apart.perm_leftOver hcandidates
  obtain ⟨modules, p, haccounts, hmodules, hvalue⟩ := loadBatch_fates hs hr
  obtain ⟨modules', p', haccounts', hmodules', hvalue'⟩ := loadBatch_fates hs hr'
  rw [hfate] at haccounts' hmodules'
  have hcompletes := completes_of_accounts hidle haccounts
  have hcompletes' := completes_of_accounts hidle haccounts'
  refine ⟨_, _, _, _, _, _, _, _, hvalue, hcompletes, hvalue', hcompletes', ?_, ?_⟩
  · rw [hcompletes.ids_eq, hcompletes'.ids_eq, hmodules, hmodules']
    exact (htried.filter _).map _
  · exact (hrefused.append (hleft.map _)).append ((htried.filterMap _).map _)

/-- A linker that answers every call alike does so after every run. -/
theorem linkers_after (config : Config) (linker : Linker) (ops : List Operation)
    (isDynamic : Bool) :
    ((after config linker ops).context isDynamic).linkers = .constant linker := by
  have hall : (after config linker ops).layout.Accord ∧
      (after config linker ops).staticContext.LinkedBy linker ∧
      (after config linker ops).dynamicContext.LinkedBy linker := by
    refine after_induction (P := fun l => l.layout.Accord ∧
      l.staticContext.LinkedBy linker ∧ l.dynamicContext.LinkedBy linker) ?_ ?_ ops
    · have hnone : ∀ m ∈ ([] : List Placed),
          ∃ linked, linker.link m.descriptor m.image = .ok linked :=
        fun m hm => absurd hm List.not_mem_nil
      exact ⟨Layout.accord_new config linker, ⟨rfl, hnone⟩, rfl, hnone⟩
    · rintro l op ⟨ha, hstatic, hdynamic⟩
      have hsupports := ha.supportsReload true
      obtain ⟨hreaches, hreaches'⟩ := reaches_perform hsupports op
      exact ⟨ha.step (l.step_perform op hsupports), hreaches.linkedBy hstatic,
        hreaches'.linkedBy hdynamic⟩
  cases isDynamic with
  | false => exact hall.2.1.linkers
  | true => exact hall.2.2.linkers

/-- Whatever was done before, with one linker for all calls: if no two modules of a batch share a
name and none has a name of the core, the order of the images does not matter. -/
theorem endsAlike_after (config : Config) (linker : Linker) (ops : List Operation)
    (hperm : images.Perm images')
    (hapart : ((after config linker ops).described images).Pairwise
      fun d d' => ∀ name ∈ d.names, name ∉ d'.names)
    (hcore : ∀ d ∈ (after config linker ops).described images,
      ∀ name ∈ d.names, name ∉ config.coreModules) :
    (after config linker ops).EndsAlike images images' := by
  obtain ⟨-, -, hnames⟩ := frame_after config linker ops
  have hr : (after config linker ops).IsRegular
      ((after config linker ops).inspector.candidates images) := by
    refine ⟨⟨linker, linkers_after config linker ops⟩, List.pairwise_map.mp hapart, ?_⟩
    intro c hc
    rw [hnames]
    exact hcore c.1 (List.mem_map_of_mem hc)
  have hidle := isIdle_of_accord (accord_after config linker ops)
  exact hr.endsAlike (invariant_after config linker ops).sound hidle hperm

/-- The metadata of a module that refers to one behind it, of one that no linker knows with one that
refers to it, and of a cycle. -/
def mixedMetadata : List Metadata :=
  [{ Metadata.named "A" with references := ["B"] }, .named "B",
    { Metadata.named "D" with references := ["C"] }, .named "C",
    { Metadata.named "E" with references := ["F"] },
    { Metadata.named "F" with references := ["E"] }]

/-- A batch that ends in every way: the modules, and an image that cannot be read. -/
def mixedBatch : List Image :=
  mixedMetadata.map .ofMetadata ++ [⟨[], none⟩]

/-- The batch ends alike in both directions. -/
theorem endsAlike_after_mixedBatch :
    mixedBatch.Perm mixedBatch.reverse ∧
      ((after .default (Linker.bare ["A", "B", "D"]) []).described mixedBatch).map (·.names) =
        [["A", "A"], ["B", "B"], ["D", "D"], ["C", "C"], ["E", "E"], ["F", "F"]] ∧
      (after .default (Linker.bare ["A", "B", "D"]) []).EndsAlike
        mixedBatch mixedBatch.reverse := by
  have hnames : ((after .default (Linker.bare ["A", "B", "D"]) []).described mixedBatch).map
      (·.names) = [["A", "A"], ["B", "B"], ["D", "D"], ["C", "C"], ["E", "E"], ["F", "F"]] := by
    have hcandidates : (after .default (Linker.bare ["A", "B", "D"]) []).inspector.candidates
        mixedBatch = mixedMetadata.filterMap Inspector.default.packed? := by
      have hunreadable : Inspector.default.candidates [⟨[], none⟩] = [] := by
        decide +kernel
      rw [(frame_after _ _ _).2.1, mixedBatch]
      refine (List.filterMap_append ..).trans (Eq.trans ?_ (List.append_nil _))
      exact congrArg₂ (· ++ ·)
        (Inspector.candidates_map_ofMetadata _ (by decide +kernel)) hunreadable
    rw [described, hcandidates]
    decide +kernel
  have hapart : ((after .default (Linker.bare ["A", "B", "D"]) []).described mixedBatch).Pairwise
      fun d d' => ∀ name ∈ d.names, name ∉ d'.names := by
    have hlists : (((after .default (Linker.bare ["A", "B", "D"]) []).described mixedBatch).map
        (·.names)).Pairwise fun names names' => ∀ name ∈ names, name ∉ names' := by
      rw [hnames]
      decide
    exact List.pairwise_map.mp hlists
  have hcore : ∀ d ∈ (after .default (Linker.bare ["A", "B", "D"]) []).described mixedBatch,
      ∀ name ∈ d.names, name ∉ Config.default.coreModules :=
    fun _ _ _ _ => List.not_mem_nil
  have hperm : mixedBatch.Perm mixedBatch.reverse := (List.reverse_perm mixedBatch).symm
  exact ⟨hperm, hnames,
    endsAlike_after .default (Linker.bare ["A", "B", "D"]) [] hperm hapart hcore⟩

end ModuleRuntime.Module.Loader
