import ModuleRuntime.Proofs.Loading.Batch

/-!
# Batches account for their images

A batch that ends well accounts for each image once: it was loaded, and the report, the registry and
a context have its module, or it was refused, and the report has the reason and nothing else is
left of it. A batch that ends early does so because of a name of the core, and what was loaded
before stays.
-/

set_option autoImplicit false

namespace ModuleRuntime.Module.Loader

variable {l l' : Loader} {images : List Image} {modules : List Placed}
  {refused : List (Image × Error)} {report : BatchReport}

/-- No module is on its way into the registry or into a context. -/
structure IsIdle (l : Loader) : Prop where
  static : l.registry.staticPending = .empty
  dynamic : l.registry.dynamicPending = .empty
  context : ∀ isDynamic, (l.context isDynamic).pending = .empty

/-- While nothing but whole modules is added, none is on its way. -/
theorem Adds.isIdle (h : l.Adds modules l') (hl : l.IsIdle) : l'.IsIdle := by
  obtain ⟨-, hstatic, hdynamic⟩ := h.registry.rest
  refine ⟨hstatic.trans hl.static, hdynamic.trans hl.dynamic, ?_⟩
  intro isDynamic
  rw [(h.context isDynamic).frame]
  exact hl.context isDynamic

/-- Where the registry and the contexts agree, nothing is pending. -/
theorem isIdle_of_accord (ha : l.layout.Accord) : l.IsIdle := by
  refine ⟨ha.staticPending, ha.dynamicPending, ?_⟩
  intro isDynamic
  have hpending := (ha.tidy isDynamic).pending
  rw [← layout_context] at hpending
  exact hpending

/-- A batch that ends well: each image became a module or was refused, the report says so, and the
loader was given the modules, in their order, and nothing else. -/
structure Completes (l : Loader) (images : List Image) (modules : List Placed)
    (refused : List (Image × Error)) (report : BatchReport) (l' : Loader) : Prop where
  images : (modules.map (·.image) ++ refused.map Prod.fst).Perm images
  described : ∀ m ∈ modules, l.inspector.verdict m.image = .ok m.descriptor
  loaded : report.loaded = modules.map fun m => (m.descriptor.id, m.handle)
  skipped : report.skipped = refused.map (Progress.showRefused l.inspector)
  adds : l.Adds modules l'
  idle : l'.IsIdle

/-- Each image is in the report once. -/
theorem Completes.length_eq (h : l.Completes images modules refused report l') :
    report.loaded.length + report.skipped.length = images.length := by
  rw [h.loaded, h.skipped, ← h.images.length_eq, List.length_append, List.length_map,
    List.length_map, List.length_map, List.length_map]

/-- The registry lists the loaded modules of the report behind those that it had before. -/
theorem Completes.listed (h : l.Completes images modules refused report l')
    (ho : l.registry.IsOrdered) :
    (l'.registry.inLoadOrder.map fun m => (m.descriptor.id, m.handle)) =
      (l.registry.inLoadOrder.map fun m => (m.descriptor.id, m.handle)) ++ report.loaded := by
  rw [h.adds.registry.inLoadOrder ho, List.map_append, List.map_map, h.loaded]
  rfl

/-- A batch that ends early, at a candidate with a name of the core: of those that were tried before
it, each became a module or failed, and the loader was given the modules and nothing else. -/
structure Aborts (l : Loader) (images : List Image) (modules : List Placed)
    (failed : List (Candidate × Error)) (c : Candidate) (e : Error) (l' : Loader) : Prop where
  tried : ∃ before rest,
    LoadOrder.tried (l.inspector.candidates images) = before ++ c :: rest ∧
      (modules.map Placed.candidate ++ failed.map Prod.fst).Perm before ∧
      (modules.map Placed.candidate).Sublist before
  conflict : ∃ name ∈ c.1.names, name ∈ l.registry.core ∧
    e = .conflict c.1.id (.identity name .core)
  adds : l.Adds modules l'
  idle : l'.IsIdle

/-- The images of which no module came, if some candidates failed when they were tried. -/
def unloaded (l : Loader) (images : List Image) (failed : List (Candidate × Error)) :
    List (Image × Error) :=
  l.inspector.refused images ++
    (LoadOrder.leftOver (l.inspector.candidates images)).map
      (fun c => (c.2, Progress.circular c)) ++
    failed.map fun f => (f.1.2, f.2)

/-- A candidate is in the report under its id. -/
theorem showRefused_of_candidate {c : Candidate} (hc : c ∈ l.inspector.candidates images)
    (e : Error) : Progress.showRefused l.inspector (c.2, e) = Progress.showFailed (c, e) := by
  unfold Progress.showRefused Progress.showFailed Inspector.reportName
  simp only [Inspector.verdict_of_mem_candidates hc]

/-- A batch completes if all candidates of its order are accounted for. -/
theorem completes_of_accounts (hl : l.IsIdle) {failed : List (Candidate × Error)} {p : Progress}
    (h : (Progress.prepared l images).Accounts
      (LoadOrder.tried (l.inspector.candidates images)) modules failed p) :
    l.Completes images modules (l.unloaded images failed) ⟨p.loaded, p.skipped⟩ p.loader := by
  have hall := LoadOrder.perm_tried_leftOver (l.inspector.candidates images)
  have htried {c : Candidate} (hc : c ∈ LoadOrder.tried (l.inspector.candidates images)) :
      c ∈ l.inspector.candidates images := hall.subset (List.mem_append_left _ hc)
  have hleft {c : Candidate} (hc : c ∈ LoadOrder.leftOver (l.inspector.candidates images)) :
      c ∈ l.inspector.candidates images := hall.subset (List.mem_append_right _ hc)
  refine ⟨?_, ?_, h.loaded, ?_, h.loader, h.loader.isIdle hl⟩
  · -- What failed and what became a module was tried; the rest was left over or refused.
    have hcandidates : ((LoadOrder.leftOver (l.inspector.candidates images)) ++
        (failed.map Prod.fst ++ modules.map Placed.candidate)).Perm
        (l.inspector.candidates images) := by
      have htogether := List.perm_append_comm.trans h.perm
      exact (htogether.append_left _).trans (List.perm_append_comm.trans hall)
    have himages := ((hcandidates.map Prod.snd).append_left
      ((l.inspector.refused images).map Prod.fst)).trans
        (l.inspector.perm_refused_candidates images)
    apply List.perm_append_comm.trans
    unfold unloaded
    simpa [Function.comp_def, Placed.candidate] using himages
  · intro m hm
    apply Inspector.verdict_of_mem_candidates (c := m.candidate)
    exact htried (h.sublist.subset (List.mem_map_of_mem hm))
  · have hleftOver : (LoadOrder.leftOver (l.inspector.candidates images)).map
        (fun c => Progress.showRefused l.inspector (c.2, Progress.circular c)) =
        (LoadOrder.leftOver (l.inspector.candidates images)).map
          fun c => Progress.showFailed (c, Progress.circular c) := by
      apply List.map_congr_left
      intro c hc
      exact showRefused_of_candidate (hleft hc) _
    have hfailed : failed.map (fun f => Progress.showRefused l.inspector (f.1.2, f.2)) =
        failed.map Progress.showFailed := by
      apply List.map_congr_left
      intro f hf
      have hmem : f.1 ∈ modules.map Placed.candidate ++ failed.map Prod.fst :=
        List.mem_append_right _ (List.mem_map_of_mem hf)
      exact showRefused_of_candidate (htried (h.perm.subset hmem)) f.2
    rw [h.skipped]
    unfold unloaded
    rw [List.map_append, List.map_append, List.map_map, List.map_map]
    exact (congrArg₂ _ (congrArg₂ _ rfl hleftOver) hfailed).symm

/-- What a batch answers accounts for each image. If it ends well, each image is in the report once,
and the registry lists the modules of the report behind those that it had. If it ends early, what
was loaded before the conflict stays. -/
def AccountsFor (l : Loader) (images : List Image) : Prop :=
  match (l.loadBatch images).value with
  | (.ok report, l') =>
    (∃ modules refused, l.Completes images modules refused report l') ∧
      report.loaded.length + report.skipped.length = images.length ∧
      (l'.registry.inLoadOrder.map fun m => (m.descriptor.id, m.handle)) =
        (l.registry.inLoadOrder.map fun m => (m.descriptor.id, m.handle)) ++ report.loaded
  | (.error e, l') => ∃ modules failed c, l.Aborts images modules failed c e l'

/-- Whatever was done before, each batch accounts for its images. -/
theorem accountsFor_after (config : Config) (linkers : LinkerSequence) (ops : List Operation)
    (images : List Image) : (after config linkers ops).AccountsFor images := by
  have hclock := (invariant_after config linkers ops).sound
  have ha := accord_after config linkers ops
  have hidle := isIdle_of_accord ha
  have hordered : (after config linkers ops).registry.IsOrdered := ha.ordered
  clear ha
  generalize after config linkers ops = l at hclock hidle hordered
  unfold AccountsFor
  rcases loadBatch_accounts hclock images with
    ⟨modules, failed, p, h, hvalue⟩ |
      ⟨before, c, rest, modules, failed, p, horder, h, name, hname, hcore, hvalue⟩
  · have hcompletes := completes_of_accounts hidle h
    rw [hvalue]
    exact ⟨⟨_, _, hcompletes⟩, hcompletes.length_eq, hcompletes.listed hordered⟩
  · rw [hvalue]
    exact ⟨modules, failed, c, ⟨before, rest, horder, h.perm, h.sublist⟩, ⟨name, hname, hcore, rfl⟩,
      h.loader, h.loader.isIdle hidle⟩

end ModuleRuntime.Module.Loader
