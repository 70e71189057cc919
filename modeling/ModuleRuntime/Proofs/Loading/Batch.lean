import ModuleRuntime.Proofs.Loading.Failure
import ModuleRuntime.Proofs.Loading.Order

/-!
# What becomes of a batch

Each image of a batch is refused by the inspector, or it is a candidate. A candidate is left over by
the order of the batch, or it is tried; then a reference to a name that is missing, an objection of
the loader, or nothing keeps it from being loaded. So each image ends in one place, and the loader
has been given the modules that were loaded and nothing else.
-/

set_option autoImplicit false

namespace ModuleRuntime.Module

/-! ## Candidates -/

/-- A module in its image. -/
abbrev Candidate := Descriptor × Image

/-- The candidate that was placed. -/
def Placed.candidate (m : Placed) : Candidate :=
  (m.descriptor, m.image)

namespace Inspector

variable {i : Inspector} {image : Image}

/-- The candidate that is in an image, if there is one. -/
def candidate? (i : Inspector) (image : Image) : Option Candidate :=
  match i.verdict image with
  | .ok d => some (d, image)
  | .error _ => none

/-- The candidates that are in images. -/
def candidates (i : Inspector) (images : List Image) : List Candidate :=
  images.filterMap i.candidate?

/-- The images that are refused, and why. -/
def refused (i : Inspector) (images : List Image) : List (Image × Error) :=
  images.filterMap fun image =>
    match i.verdict image with
    | .ok _ => none
    | .error e => some (image, e)

/-- The name under which a report has an image: the id of its module, or else its path. -/
def reportName (i : Inspector) (image : Image) : String :=
  match i.verdict image with
  | .ok d => d.id
  | .error _ => image.shownPath

/-- The candidate of an image is the image with its verdict, if that is a descriptor. -/
theorem candidate?_eq_some_iff {c : Candidate} :
    i.candidate? image = some c ↔ i.verdict image = .ok c.1 ∧ c.2 = image := by
  obtain ⟨d, image'⟩ := c
  unfold candidate?
  cases i.verdict image with
  | ok d' => simp [eq_comm]
  | error e => simp

/-- A candidate is in its own image. -/
theorem verdict_of_mem_candidates {images : List Image} {c : Candidate}
    (hc : c ∈ i.candidates images) : i.verdict c.2 = .ok c.1 := by
  obtain ⟨image, -, himage⟩ := List.mem_filterMap.mp hc
  obtain ⟨hd, rfl⟩ := candidate?_eq_some_iff.mp himage
  exact hd

/-- Each image is refused or that of a candidate. -/
theorem perm_refused_candidates (i : Inspector) (images : List Image) :
    ((i.refused images).map Prod.fst ++ (i.candidates images).map Prod.snd).Perm images := by
  induction images with
  | nil => exact .refl []
  | cons image rest ih =>
    unfold refused candidates candidate? at ih ⊢
    cases hv : i.verdict image with
    | ok d =>
      simp only [List.filterMap_cons, hv, List.map_cons]
      exact List.perm_middle.trans (ih.cons image)
    | error e =>
      simp only [List.filterMap_cons, hv, List.map_cons, List.cons_append]
      exact ih.cons image

/-- The candidate in the image that is packed from metadata, if there is one. -/
def packed? (i : Inspector) (m : Metadata) : Option Candidate :=
  match i.resolve (.ofMetadata m) m with
  | .ok (d, _) => some (d, .ofMetadata m)
  | .error _ => none

/-- The candidates in packed images are those of the metadata from which they were packed. -/
theorem candidates_map_ofMetadata (i : Inspector) {ms : List Metadata}
    (hms : ∀ m ∈ ms, Image.IsLegible m) :
    i.candidates (ms.map .ofMetadata) = ms.filterMap i.packed? := by
  unfold candidates
  rw [List.filterMap_map]
  refine List.filterMap_congr fun m hm => ?_
  rw [Function.comp_apply, candidate?, verdict_ofMetadata (hms m hm), packed?]
  cases i.resolve (.ofMetadata m) m <;> rfl

end Inspector

namespace LoadOrder

/-- The candidates that are tried, in their order. -/
def tried (cs : List Candidate) : List Candidate :=
  (order (cs.map Prod.fst)).filterMap (cs[·]?)

/-- The candidates that are left over. -/
def leftOver (cs : List Candidate) : List Candidate :=
  (cyclic (cs.map Prod.fst)).filterMap (cs[·]?)

/-- The places of a list lead to its members. -/
theorem filterMap_range (cs : List Candidate) :
    (List.range cs.length).filterMap (cs[·]?) = cs := by
  induction cs with
  | nil => rfl
  | cons c rest ih =>
    rw [List.length_cons, List.range_succ_eq_map, List.filterMap_cons, List.filterMap_map]
    exact congrArg (c :: ·) ih

/-- Each candidate is tried or left over. -/
theorem perm_tried_leftOver (cs : List Candidate) : (tried cs ++ leftOver cs).Perm cs := by
  have hperm := (perm_order_cyclic (cs.map Prod.fst)).filterMap (cs[·]?)
  rw [List.filterMap_append, List.length_map, filterMap_range] at hperm
  exact hperm

end LoadOrder

/-! ## What comes before the first candidate is tried -/

namespace Loader

variable {l : Loader} {images : List Image}

/-- Inspecting images answers what the inspector makes of them, and changes nothing. -/
theorem value_inspectAll (hs : l.clock.Sound) :
    (l.inspectAll images).value =
      (images.map fun image => (image, l.inspector.verdict image), l) := by
  induction images with
  | nil => rfl
  | cons image rest ih =>
    have hone : (l.inspect image).value = (l.inspector.verdict image, l) :=
      (meets_inspect_same hs image).value
    unfold inspectAll
    simp only [Journaled.value_bind, hone, ih, Journaled.value_pure, List.map_cons]

end Loader

namespace Progress

/-- How a report shows an image that is refused. -/
def showRefused (i : Inspector) (r : Image × Error) : Skipped :=
  ⟨i.reportName r.1, r.2⟩

/-- How a report shows a candidate that fails. -/
def showFailed (f : Candidate × Error) : Skipped :=
  ⟨f.1.1.id, f.2⟩

/-- Why a candidate is left over. -/
def circular (c : Candidate) : Error :=
  .invalid (.circularReference c.1.id)

/-- Sorting inspected images skips those that were refused. -/
theorem value_sift (i : Inspector) (p : Progress) (images : List Image) :
    (p.sift (images.map fun image => (image, i.verdict image))).value =
      (i.candidates images,
        { p with skipped := p.skipped ++ (i.refused images).map (showRefused i) }) := by
  induction images generalizing p with
  | nil => simp [sift, Inspector.candidates, Inspector.refused]
  | cons image rest ih =>
    unfold Inspector.candidates Inspector.candidate? Inspector.refused at ih ⊢
    cases hv : i.verdict image with
    | ok d =>
      simp only [List.map_cons, hv, sift, Journaled.value_bind, ih, Journaled.value_pure,
        List.filterMap_cons]
    | error e =>
      have hshow : showRefused i (image, e) = ⟨image.shownPath, e⟩ := by
        simp only [showRefused, Inspector.reportName, hv]
      simp only [List.map_cons, hv, sift, Journaled.value_bind, ih, List.filterMap_cons, hshow,
        List.append_assoc, List.singleton_append]

/-- The candidates that are left over are skipped. -/
theorem foldl_skipCyclic (p : Progress) (cs : List Candidate) :
    (cs.map Prod.fst).foldl (fun p d => (p.skipCyclic d).value) p = { p with
      skipped := p.skipped ++ cs.map fun c => showFailed (c, circular c)
      missing := p.missing ++ cs.flatMap fun c => unheldNames p.loader c.1 } := by
  induction cs generalizing p with
  | nil => simp
  | cons c rest ih =>
    rw [List.map_cons, List.foldl_cons, ih]
    simp [skipCyclic, skip, showFailed, circular]

/-- What a batch has come to before the first candidate is tried. -/
def prepared (l : Loader) (images : List Image) : Progress where
  loader := l
  loaded := []
  skipped := (l.inspector.refused images).map (showRefused l.inspector) ++
    (LoadOrder.leftOver (l.inspector.candidates images)).map fun c => showFailed (c, circular c)
  missing := (LoadOrder.leftOver (l.inspector.candidates images)).flatMap fun c =>
    unheldNames l c.1

/-- What a batch has come to hangs on its candidates alone, if each image has one. -/
theorem prepared_of_candidates {l : Loader} {images : List Image} {cs : List Candidate}
    (hcs : l.inspector.candidates images = cs) (hall : cs.length = images.length) :
    prepared l images = {
      loader := l
      loaded := []
      skipped := (LoadOrder.leftOver cs).map fun c => showFailed (c, circular c)
      missing := (LoadOrder.leftOver cs).flatMap fun c => unheldNames l c.1 } := by
  have hnone : l.inspector.refused images = [] := by
    have hlength := (l.inspector.perm_refused_candidates images).length_eq
    rw [List.length_append, List.length_map, List.length_map, hcs, hall] at hlength
    exact List.eq_nil_of_length_eq_zero (by omega)
  unfold prepared
  rw [hcs, hnone, List.map_nil, List.nil_append]

end Progress

namespace Loader

variable {l : Loader} {images : List Image}

/-- The descriptors of the candidates of a batch, in the order of their images. -/
def described (l : Loader) (images : List Image) : List Descriptor :=
  (l.inspector.candidates images).map Prod.fst

/-- What trying the candidates has come to. -/
def attempt (l : Loader) (images : List Image) : Result Unit × Progress :=
  ((Progress.prepared l images).loadEach ((l.described images).flatMap (·.names))
    (LoadOrder.tried (l.inspector.candidates images))).value

/-- A batch comes to what trying its candidates in their order comes to. -/
theorem value_loadBatch (hs : l.clock.Sound) :
    (l.loadBatch images).value =
      ((l.attempt images).1.map fun _ =>
          ⟨(l.attempt images).2.loaded, (l.attempt images).2.skipped⟩,
        (l.attempt images).2.loader) := by
  have hcyclic (cs : List Candidate) :
      (LoadOrder.cyclic (cs.map Prod.fst)).filterMap ((cs.map Prod.fst)[·]?) =
        (LoadOrder.leftOver cs).map Prod.fst := by
    unfold LoadOrder.leftOver
    rw [List.map_filterMap]
    simp
  have hprepared : ((LoadOrder.leftOver (l.inspector.candidates images)).map Prod.fst).foldl
      (fun p d => (p.skipCyclic d).value) { Progress.start l with
        skipped := (Progress.start l).skipped ++
          (l.inspector.refused images).map (Progress.showRefused l.inspector) } =
      Progress.prepared l images := Progress.foldl_skipCyclic _ _
  have hattempt : ((Progress.prepared l images).loadEach ((l.described images).flatMap (·.names))
      ((LoadOrder.order ((l.inspector.candidates images).map Prod.fst)).filterMap
        ((l.inspector.candidates images)[·]?))).value = l.attempt images := rfl
  unfold described at hattempt
  unfold loadBatch
  simp only [Journaled.value_bind, Journaled.value_foldlM, value_inspectAll hs,
    Progress.value_sift, hcyclic, hprepared, hattempt]
  cases (l.attempt images).1 <;> rfl

end Loader

/-! ## One candidate after the other -/

namespace Progress

variable {p p' : Progress} {l' : Loader} {batch : List String} {c : Candidate}
  {rest members : List Candidate} {modules : List Placed} {failed : List (Candidate × Error)}
  {e : Error} {f : LoadFailure}

/-- What keeps a candidate from being loaded, if anything does. -/
def obstacle? (p : Progress) (batch : List String) (c : Candidate) : Option LoadFailure :=
  match p.missingReference? c.1 with
  | some name => some ⟨.link c.1.id (.dependencyNotLoaded name), false⟩
  | none => p.loader.objection? c.1 c.2 batch

/-- The module that a candidate becomes. -/
def placedNext (p : Progress) (c : Candidate) : Placed :=
  ⟨c.1, c.2, p.loader.layout.nextHandle c.1⟩

/-- The progress with another loader and one more module. -/
def afterLoad (p : Progress) (l' : Loader) (m : Placed) : Progress :=
  { p with loader := l' }.addLoaded m.descriptor.id m.handle

/-- The progress with another loader and one more candidate that fails. -/
def afterFailure (p : Progress) (l' : Loader) (c : Candidate) (e : Error) : Progress :=
  { p with loader := l' }.skip c.1.id c.1 e

/-- A candidate that nothing keeps from it is loaded. -/
theorem loadEach_of_none (h : p.obstacle? batch c = none) (rest : List Candidate) :
    ∃ l', p.loader.Adds [p.placedNext c] l' ∧ (p.loadEach batch (c :: rest)).value =
      ((p.afterLoad l' (p.placedNext c)).loadEach batch rest).value := by
  unfold obstacle? at h
  cases hm : p.missingReference? c.1 with
  | some name =>
    rw [hm] at h
    cases h
  | none =>
    rw [hm] at h
    obtain ⟨hr, hl⟩ := Loader.adds_loadInspected h
    refine ⟨_, hl, ?_⟩
    rw [loadEach]
    simp only [hm, Journaled.value_bind, hr]
    rfl

/-- A candidate that something keeps from it is skipped, or it ends the batch. -/
theorem loadEach_of_some (h : p.obstacle? batch c = some f) (rest : List Candidate) :
    ∃ l', p.loader.Adds [] l' ∧ (p.loadEach batch (c :: rest)).value =
      if f.isFatal then (.error f.error, { p with loader := l' })
      else ((p.afterFailure l' c f.error).loadEach batch rest).value := by
  unfold obstacle? at h
  cases hm : p.missingReference? c.1 with
  | some name =>
    rw [hm] at h
    obtain rfl := Option.some.inj h
    refine ⟨p.loader, .refl, ?_⟩
    rw [loadEach]
    simp only [hm]
    rfl
  | none =>
    rw [hm] at h
    obtain ⟨hr, hl⟩ := (Loader.meets_loadInspected_of_objection h).value
    refine ⟨_, hl, ?_⟩
    rw [loadEach]
    simp only [hm, Journaled.value_bind, hr]
    cases f.isFatal <;> rfl

/-- Only a name of the core ends a batch. -/
theorem error_of_obstacle (h : p.obstacle? batch c = some f) (hf : f.isFatal = true) :
    ∃ name ∈ c.1.names, name ∈ p.loader.registry.core ∧
      f.error = .conflict c.1.id (.identity name .core) := by
  unfold obstacle? at h
  split at h
  · obtain rfl := Option.some.inj h
    cases hf
  · exact Loader.error_of_objection h hf

/-- What has become of candidates that were tried one after the other: some are modules now, in
their order, and all others have failed. -/
structure Accounts (p : Progress) (members : List Candidate) (modules : List Placed)
    (failed : List (Candidate × Error)) (p' : Progress) : Prop where
  perm : (modules.map Placed.candidate ++ failed.map Prod.fst).Perm members
  sublist : (modules.map Placed.candidate).Sublist members
  loaded : p'.loaded = p.loaded ++ modules.map fun m => (m.descriptor.id, m.handle)
  skipped : p'.skipped = p.skipped ++ failed.map showFailed
  loader : p.loader.Adds modules p'.loader

namespace Accounts

/-- No candidate is left. -/
theorem nil : p.Accounts [] [] [] p where
  perm := .refl []
  sublist := .refl []
  loaded := (List.append_nil _).symm
  skipped := (List.append_nil _).symm
  loader := .refl

/-- The first candidate is loaded, and then the others are accounted for. -/
theorem load (hl : p.loader.Adds [p.placedNext c] l')
    (h : (p.afterLoad l' (p.placedNext c)).Accounts rest modules failed p') :
    p.Accounts (c :: rest) (p.placedNext c :: modules) failed p' where
  perm := h.perm.cons c
  sublist := h.sublist.cons_cons c
  loaded := by
    rw [h.loaded]
    exact List.append_assoc ..
  skipped := h.skipped
  loader := hl.trans h.loader

/-- The first candidate fails, and then the others are accounted for. -/
theorem fail (hl : p.loader.Adds [] l')
    (h : (p.afterFailure l' c e).Accounts rest modules failed p') :
    p.Accounts (c :: rest) modules ((c, e) :: failed) p' where
  perm := List.perm_middle.trans (h.perm.cons c)
  sublist := h.sublist.cons c
  loaded := h.loaded
  skipped := by
    rw [h.skipped]
    exact List.append_assoc ..
  loader := hl.trans h.loader

end Accounts

/-- All candidates are accounted for, or those before one that has a name of the core. -/
theorem accounts_loadEach (batch : List String) (members : List Candidate) (p : Progress) :
    ((p.loadEach batch members).value.1 = .ok () ∧ ∃ modules failed,
        p.Accounts members modules failed (p.loadEach batch members).value.2) ∨
      ∃ before c rest modules failed, members = before ++ c :: rest ∧
        p.Accounts before modules failed (p.loadEach batch members).value.2 ∧
        ∃ name ∈ c.1.names, name ∈ p.loader.registry.core ∧
          (p.loadEach batch members).value.1 =
            .error (.conflict c.1.id (.identity name .core)) := by
  induction members generalizing p with
  | nil => exact .inl ⟨rfl, [], [], .nil⟩
  | cons c rest ih =>
    cases ho : p.obstacle? batch c with
    | none =>
      obtain ⟨l', hl, hvalue⟩ := loadEach_of_none ho rest
      have hcore : l'.registry.core = p.loader.registry.core := hl.registry.rest.1
      rw [hvalue]
      rcases ih (p.afterLoad l' (p.placedNext c)) with
        ⟨hr, modules, failed, h⟩ | ⟨before, c', rest', modules, failed, rfl, h, name, hname, hn, hr⟩
      · exact .inl ⟨hr, _, _, h.load hl⟩
      · exact .inr ⟨c :: before, c', rest', _, _, rfl, h.load hl, name, hname, hcore ▸ hn, hr⟩
    | some f =>
      obtain ⟨l', hl, hvalue⟩ := loadEach_of_some ho rest
      have hcore : l'.registry.core = p.loader.registry.core := hl.registry.rest.1
      rw [hvalue]
      by_cases hf : f.isFatal = true
      · obtain ⟨name, hname, hn, he⟩ := error_of_obstacle ho hf
        have hnone : p.Accounts [] [] [] { p with loader := l' } :=
          ⟨.refl [], .refl [], (List.append_nil _).symm, (List.append_nil _).symm, hl⟩
        rw [if_pos hf]
        exact .inr ⟨[], c, rest, [], [], rfl, hnone, name, hname, hn, congrArg Except.error he⟩
      · rw [if_neg hf]
        rcases ih (p.afterFailure l' c f.error) with
          ⟨hr, modules, failed, h⟩ |
            ⟨before, c', rest', modules, failed, rfl, h, name, hname, hn, hr⟩
        · exact .inl ⟨hr, _, _, h.fail hl⟩
        · exact .inr ⟨c :: before, c', rest', _, _, rfl, h.fail hl, name, hname, hcore ▸ hn, hr⟩

end Progress

namespace Loader

variable {l : Loader} {images : List Image}

/-- A batch ends well when all candidates of its order are accounted for, or it ends at one that has
a name of the core. -/
theorem loadBatch_accounts (hs : l.clock.Sound) (images : List Image) :
    (∃ modules failed p,
      (Progress.prepared l images).Accounts (LoadOrder.tried (l.inspector.candidates images))
        modules failed p ∧
      (l.loadBatch images).value = (.ok ⟨p.loaded, p.skipped⟩, p.loader)) ∨
    ∃ before c rest modules failed p,
      LoadOrder.tried (l.inspector.candidates images) = before ++ c :: rest ∧
      (Progress.prepared l images).Accounts before modules failed p ∧
      ∃ name ∈ c.1.names, name ∈ l.registry.core ∧
        (l.loadBatch images).value =
          (.error (.conflict c.1.id (.identity name .core)), p.loader) := by
  have hattempt := Progress.accounts_loadEach ((l.described images).flatMap (·.names))
    (LoadOrder.tried (l.inspector.candidates images)) (.prepared l images)
  rw [value_loadBatch hs]
  unfold attempt
  generalize ((Progress.prepared l images).loadEach _ _).value = answer at hattempt ⊢
  obtain ⟨r, p⟩ := answer
  rcases hattempt with ⟨hr, modules, failed, h⟩ | ⟨before, c, rest, modules, failed, horder, h, hc⟩
  · obtain rfl : r = .ok () := hr
    exact .inl ⟨modules, failed, p, h, rfl⟩
  · obtain ⟨name, hname, hcore, hr⟩ := hc
    obtain rfl : r = .error _ := hr
    exact .inr ⟨before, c, rest, modules, failed, p, horder, h, name, hname, hcore, rfl⟩

end Loader

end ModuleRuntime.Module
