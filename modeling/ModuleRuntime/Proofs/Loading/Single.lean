import ModuleRuntime.Proofs.Loading.Rearrangement

/-!
# Batches of one image

A batch of one image comes to what a load of the image comes to: the same module under the same
handle, or the same error, and the same loader. Only a sandboxed module that refers to a name of its
own can tell them apart. What is in the batch may be referred to, and so the batch lets it pass,
while a load stops there if the name means nothing else.
-/

set_option autoImplicit false

namespace ModuleRuntime.Module

/-! ## The order of one candidate -/

namespace LoadOrder

variable {c : Candidate}

/-- A candidate that is alone is not left over. -/
theorem leftOver_singleton (c : Candidate) : leftOver [c] = [] := by
  have hapart : NamesApart [c] := List.pairwise_singleton _ _
  rw [List.eq_nil_iff_forall_not_mem]
  intro c' hleft
  have hc' : c' ∈ [c] := (perm_tried_leftOver [c]).subset (List.mem_append_right _ hleft)
  obtain ⟨c'', hleft', hne, -⟩ := hapart.exists_refersTo hleft
  have hc'' : c'' ∈ [c] := (perm_tried_leftOver [c]).subset (List.mem_append_right _ hleft')
  exact hne ((List.mem_singleton.mp hc'').trans (List.mem_singleton.mp hc').symm)

/-- A candidate that is alone is tried. -/
theorem tried_singleton (c : Candidate) : tried [c] = [c] := by
  have hperm := perm_tried_leftOver [c]
  rw [leftOver_singleton, List.append_nil] at hperm
  exact List.perm_singleton.mp hperm

end LoadOrder

/-- A name of the core is a fatal conflict. -/
theorem Registry.exists_conflict_of_core {r : Registry} {d : Descriptor} {name : String}
    (hname : name ∈ d.names) (hcore : name ∈ r.core) :
    ∃ c, r.conflict? d = some c ∧ c.isFatal = true := by
  have hisCore : r.isCore name = true := List.contains_iff_mem.mpr hcore
  unfold conflict?
  cases hid : r.isCore d.id with
  | true => exact ⟨_, rfl, rfl⟩
  | false =>
    have hassembly : r.isCore d.assembly = true := by
      simp only [Descriptor.names, List.mem_cons, List.not_mem_nil, or_false] at hname
      rcases hname with rfl | rfl
      · rw [hid] at hisCore
        cases hisCore
      · exact hisCore
    rw [hassembly]
    exact ⟨_, rfl, rfl⟩

namespace Loader

variable {l l' : Loader} {d : Descriptor} {image : Image} {batch batch' : List String}
  {e : Error} {f : LoadFailure} {name : String}

/-! ## What is checked with and without the own names -/

/-- The first reference at which the sandbox stops a module. -/
def stopsAt? (l : Loader) (batch : List String) (d : Descriptor) : Option String :=
  if l.config.sandboxing && d.isSandboxed then
    d.references.find? fun name => !l.mayReferTo batch name
  else none

/-- A module passes the sandbox unless it is stopped at a reference. -/
theorem value_vetReferences (l : Loader) (d : Descriptor) (batch : List String) :
    (l.vetReferences d batch).value =
      match l.stopsAt? batch d with
      | some name => .error (.sandbox d.id name)
      | none => .ok () := by
  unfold vetReferences stopsAt?
  split
  · cases d.references.find? fun name => !l.mayReferTo batch name <;> rfl
  · rfl

/-- A search finds the same member for a narrower property that still holds of the one found. -/
private theorem find?_narrowed {α : Type} {p q : α → Bool} {as : List α}
    (hq : ∀ a, q a = true → p a = true) (h : ∀ a, as.find? p = some a → q a = true) :
    as.find? q = as.find? p := by
  induction as with
  | nil => rfl
  | cons a rest ih =>
    cases hp : p a with
    | true =>
      have hqa : q a = true := h a (List.find?_cons_of_pos hp)
      rw [List.find?_cons_of_pos hp, List.find?_cons_of_pos hqa]
    | false =>
      have hqa : ¬q a = true := fun hqa => Bool.false_ne_true (hp.symm.trans (hq a hqa))
      have hskip : (a :: rest).find? p = rest.find? p := List.find?_cons_of_neg (by simp [hp])
      rw [hskip] at h ⊢
      rw [List.find?_cons_of_neg hqa]
      exact ih h

/-- A module that is not stopped at a name of its own is stopped at the same reference, or at none,
when its names are in the batch. -/
theorem stopsAt?_names (h : ∀ name ∈ d.names, l.stopsAt? [] d ≠ some name) :
    l.stopsAt? d.names d = l.stopsAt? [] d := by
  have hnames (name : String) :
      l.mayReferTo d.names name = (l.mayReferTo [] name || d.names.contains name) := by
    unfold mayReferTo
    rw [List.contains_nil, Bool.or_false, Bool.or_right_comm]
  unfold stopsAt? at h ⊢
  split
  case isFalse => rfl
  case isTrue hs =>
    rw [if_pos hs] at h
    apply find?_narrowed
    · intro name hstop
      rw [hnames, Bool.not_or, Bool.and_eq_true] at hstop
      exact hstop.1
    · intro name hfound
      have hstop := List.find?_some hfound
      have hother : d.names.contains name = false := by
        rw [← Bool.not_eq_true, List.contains_iff_mem]
        exact fun hmem => h name hmem hfound
      rw [hnames, hother, Bool.or_false]
      exact hstop

/-! ## Loads and batches of one module -/

/-- What a load comes to hangs on a batch only where the sandbox does. -/
theorem value_loadInspected_congr (h : l.stopsAt? batch' d = l.stopsAt? batch d) :
    (l.loadInspected d image batch').value = (l.loadInspected d image batch).value := by
  have hvet : (l.vetReferences d batch').value = (l.vetReferences d batch).value := by
    rw [value_vetReferences, value_vetReferences, h]
  unfold loadInspected
  rw [Journaled.value_bind, Journaled.value_bind, hvet]

/-- A module that is stopped at a reference is not loaded. -/
theorem value_loadInspected_of_stopsAt? (h : l.stopsAt? batch d = some name) :
    (l.loadInspected d image batch).value = (.error ⟨.sandbox d.id name, false⟩, l) := by
  have hvet : (l.vetReferences d batch).value = .error (.sandbox d.id name) := by
    rw [value_vetReferences, h]
  unfold loadInspected
  rw [Journaled.value_bind, hvet]
  rfl

/-- With one linker for all calls, a load to which there is an objection changes nothing. -/
theorem value_loadInspected_of_objection {linker : Linker}
    (hlinkers : ∀ isDynamic, (l.context isDynamic).linkers = .constant linker)
    (hf : l.objection? d image batch = some f) :
    (l.loadInspected d image batch).value = (.error f, l) := by
  obtain ⟨hr, hadds⟩ := (meets_loadInspected_of_objection hf).value
  have hcalls (isDynamic : Bool) :
      ((l.loadInspected d image batch).value.2.context isDynamic).linkers =
        (l.context isDynamic).linkers := by
    have hlater := (hadds.context isDynamic).linkers
    rw [hlinkers] at hlater
    rw [hlinkers, hlater.eq_constant]
  have hsame : (l.loadInspected d image batch).value.2 = l := by
    rw [hadds.eq]
    show ({ l with
      staticContext := { l.staticContext with linkers := (context _ false).linkers }
      dynamicContext := { l.dynamicContext with linkers := (context _ true).linkers } } :
        Loader) = l
    rw [hcalls, hcalls]
    rfl
  exact Prod.ext hr hsame

/-- What a batch answers when trying its only module has come to something. -/
def answerOne (d : Descriptor) : Except LoadFailure Handle × Loader → Result BatchReport × Loader
  | (.ok h, l) => (.ok ⟨[(d.id, h)], []⟩, l)
  | (.error f, l) => (if f.isFatal then .error f.error else .ok ⟨[], [⟨d.id, f.error⟩]⟩, l)

/-- A batch of one image tries its module with the names of the module for those of the batch. -/
theorem value_loadBatch_of_verdict (hs : l.clock.Sound) (hd : l.inspector.verdict image = .ok d) :
    (l.loadBatch [image]).value = answerOne d (l.loadInspected d image d.names).value := by
  have hcandidate : l.inspector.candidates [image] = [(d, image)] := by
    simp [Inspector.candidates, Inspector.candidate?, hd]
  have hrefused : l.inspector.refused [image] = [] := by
    simp [Inspector.refused, hd]
  have hprepared : Progress.prepared l [image] = .start l := by
    simp [Progress.prepared, hcandidate, hrefused, LoadOrder.leftOver_singleton, Progress.start]
  have hmissing : (Progress.start l).missingReference? d = none :=
    List.find?_eq_none.mpr fun _ _ => Bool.false_ne_true
  rw [value_loadBatch hs]
  unfold attempt described
  rw [hprepared, hcandidate, LoadOrder.tried_singleton]
  simp only [List.map_cons, List.map_nil, List.flatMap_cons, List.flatMap_nil, List.append_nil]
  unfold Progress.loadEach
  simp only [hmissing, Journaled.value_bind]
  rw [show (Progress.start l).loader = l from rfl]
  generalize (l.loadInspected d image d.names).value = tried
  obtain ⟨r, l'⟩ := tried
  cases r with
  | ok h => rfl
  | error f =>
    obtain ⟨e, isFatal⟩ := f
    cases isFatal <;> rfl

/-- A batch of one image that is refused reports it under its path. -/
theorem value_loadBatch_of_refusal (hs : l.clock.Sound)
    (he : l.inspector.verdict image = .error e) :
    (l.loadBatch [image]).value = (.ok ⟨[], [⟨image.shownPath, e⟩]⟩, l) := by
  have hcandidate : l.inspector.candidates [image] = [] := by
    simp [Inspector.candidates, Inspector.candidate?, he]
  have hrefused : l.inspector.refused [image] = [(image, e)] := by
    simp [Inspector.refused, he]
  have hname : l.inspector.reportName image = image.shownPath := by
    simp [Inspector.reportName, he]
  rw [value_loadBatch hs]
  unfold attempt described Progress.prepared
  rw [hcandidate, hrefused]
  show (_, _) = _
  rw [← hname]
  rfl

/-! ## Batches of one image and loads -/

/-- The error that a name of the core in the module of an image leads to. -/
def IsCoreClash (l : Loader) (image : Image) (e : Error) : Prop :=
  ∃ d, l.inspector.verdict image = .ok d ∧ ∃ name ∈ d.names, name ∈ l.registry.core ∧
    e = .conflict d.id (.identity name .core)

/-- A load of an image and a batch of it both load its module. -/
structure LoadsAlike (l : Loader) (image : Image) (h : Handle) (l' : Loader) : Prop where
  load : (l.load image).value = (.ok h, l')
  batch : (l.loadBatch [image]).value = (.ok ⟨[(l.inspector.reportName image, h)], []⟩, l')

/-- A load of an image and a batch of it both leave the loader as it was, for the same reason. A
name of the core ends the batch, and else the image is skipped. -/
structure RefusesAlike (l : Loader) (image : Image) (e : Error) : Prop where
  load : (l.load image).value = (.error e, l)
  ends : l.IsCoreClash image e → (l.loadBatch [image]).value = (.error e, l)
  skips : ¬l.IsCoreClash image e →
    (l.loadBatch [image]).value = (.ok ⟨[], [⟨l.inspector.reportName image, e⟩]⟩, l)

/-- A batch of one image comes to what a load of the image comes to. -/
def BatchesAlike (l : Loader) (image : Image) : Prop :=
  (∃ h l', l.LoadsAlike image h l') ∨ ∃ e, l.RefusesAlike image e

/-- A load of an image stops at a reference of its module to a name of its own. A batch does not
stop there, and goes on with the module. -/
structure PassesOwnName (l : Loader) (image : Image) (d : Descriptor) (name : String) : Prop where
  described : l.inspector.verdict image = .ok d
  own : name ∈ d.names
  stops : l.stopsAt? [] d = some name
  load : (l.load image).value = (.error (.sandbox d.id name), l)
  passes : ∀ name ∈ d.names, l.stopsAt? d.names d ≠ some name
  batch : (l.loadBatch [image]).value = answerOne d (l.loadInspected d image d.names).value

/-- An objection to a name of the core is fatal. -/
theorem isFatal_of_error (hf : l.objection? d image batch = some f) (hname : name ∈ d.names)
    (hcore : name ∈ l.registry.core) (he : f.error = .conflict d.id (.identity name .core)) :
    f.isFatal = true := by
  unfold objection? at hf
  rw [value_vetReferences] at hf
  cases hs : l.stopsAt? batch d with
  | some stop =>
    rw [hs] at hf
    obtain rfl := Option.some.inj hf
    cases he
  | none =>
    obtain ⟨c, hc, hfatal⟩ := Registry.exists_conflict_of_core hname hcore
    rw [hs, hc] at hf
    obtain rfl := Option.some.inj hf
    exact hfatal

/-- If the module of an image is not stopped at a name of its own, a batch of the image comes to
what a load of it comes to. -/
theorem batchesAlike_of_verdict {linker : Linker} (hs : l.clock.Sound)
    (hlinkers : ∀ isDynamic, (l.context isDynamic).linkers = .constant linker)
    (hd : l.inspector.verdict image = .ok d)
    (hown : ∀ name ∈ d.names, l.stopsAt? [] d ≠ some name) : l.BatchesAlike image := by
  have hname : l.inspector.reportName image = d.id := by
    simp only [Inspector.reportName, hd]
  have hload := value_load_of_verdict hs hd
  have hbatch := value_loadBatch_of_verdict hs hd
  rw [value_loadInspected_congr (stopsAt?_names hown)] at hbatch
  cases hf : l.objection? d image [] with
  | none =>
    obtain ⟨hr, -⟩ := adds_loadInspected hf
    have hvalue : (l.loadInspected d image []).value = (.ok (l.layout.nextHandle d),
      (l.loadInspected d image []).value.2) := Prod.ext hr rfl
    rw [hvalue] at hload hbatch
    refine .inl ⟨_, _, hload, ?_⟩
    rw [hbatch, hname]
    rfl
  | some f =>
    rw [value_loadInspected_of_objection hlinkers hf] at hload hbatch
    refine .inr ⟨f.error, hload, ?_, ?_⟩
    · rintro ⟨d', hd', name, hmem, hcore, he⟩
      obtain rfl := Except.ok.inj (hd.symm.trans hd')
      have hfatal := isFatal_of_error hf hmem hcore he
      rw [hbatch]
      simp only [answerOne, hfatal, if_true]
    · intro hclash
      have hfatal : f.isFatal = false := by
        rw [← Bool.not_eq_true]
        intro hfatal
        exact hclash ⟨d, hd, error_of_objection hf hfatal⟩
      rw [hbatch, hname]
      simp only [answerOne, hfatal, Bool.false_eq_true, if_false]

/-- An image that is refused is skipped by a batch. -/
theorem batchesAlike_of_refusal (hs : l.clock.Sound) (he : l.inspector.verdict image = .error e) :
    l.BatchesAlike image := by
  have hname : l.inspector.reportName image = image.shownPath := by
    simp only [Inspector.reportName, he]
  refine .inr ⟨e, value_load_of_refusal hs he, ?_, ?_⟩
  · rintro ⟨d, hd, -⟩
    rw [he] at hd
    cases hd
  · intro _
    rw [hname]
    exact value_loadBatch_of_refusal hs he

/-- If the module of an image is stopped at a name of its own, a batch of the image lets that name
pass. -/
theorem passesOwnName_of_stopsAt? (hs : l.clock.Sound) (hd : l.inspector.verdict image = .ok d)
    (hname : name ∈ d.names) (hstop : l.stopsAt? [] d = some name) :
    l.PassesOwnName image d name where
  described := hd
  own := hname
  stops := hstop
  load := by
    rw [value_load_of_verdict hs hd, value_loadInspected_of_stopsAt? hstop]
    rfl
  passes name hmem hstop := by
    unfold stopsAt? at hstop
    split at hstop
    · have hnot := List.find?_some hstop
      have hallowed : l.mayReferTo d.names name = true := by
        unfold mayReferTo
        rw [List.contains_iff_mem.mpr hmem, Bool.or_true, Bool.true_or]
      rw [hallowed] at hnot
      cases hnot
    · cases hstop
  batch := value_loadBatch_of_verdict hs hd

/-- Whatever was done before, with one linker for all calls: a batch of one image comes to what a
load of the image comes to, unless the load stops at a reference of its module to a name of its own.
-/
theorem batchesAlike_after (config : Config) (linker : Linker) (ops : List Operation)
    (image : Image) :
    (after config linker ops).BatchesAlike image ∨
      ∃ d name, (after config linker ops).PassesOwnName image d name := by
  have hclock := (invariant_after config linker ops).sound
  have hlinkers := linkers_after config linker ops
  generalize after config linker ops = l at hclock hlinkers
  cases hv : l.inspector.verdict image with
  | error e => exact .inl (batchesAlike_of_refusal hclock hv)
  | ok d =>
    by_cases hown : ∃ name ∈ d.names, l.stopsAt? [] d = some name
    · obtain ⟨name, hname, hstop⟩ := hown
      exact .inr ⟨d, name, passesOwnName_of_stopsAt? hclock hv hname hstop⟩
    · have hother : ∀ name ∈ d.names, l.stopsAt? [] d ≠ some name :=
        fun name hname hstop => hown ⟨name, hname, hstop⟩
      exact .inl (batchesAlike_of_verdict hclock hlinkers hv hother)

/-- The image of a module that refers to itself. -/
def selfReferring : Image :=
  .ofMetadata { Metadata.named "A" with references := ["A"] }

/-- What is known of the module that refers to itself. -/
def descriptorOfSelf : Descriptor :=
  ⟨"A", "A", false, false, true, ["A"], .empty, .release 1 0 0, none, selfReferring.fingerprint,
    none⟩

/-- What the inspection of the image makes of it. -/
theorem verdict_selfReferring : Inspector.default.verdict selfReferring = .ok descriptorOfSelf := by
  have hlegible : Image.IsLegible { Metadata.named "A" with references := ["A"] } := by
    decide +kernel
  rw [selfReferring, Inspector.verdict_ofMetadata hlegible]
  rfl

/-- A module that refers to itself is loaded by a batch and refused on its own. -/
theorem not_batchesAlike_selfReferring :
    ((new .default (Linker.bare ["A"])).load selfReferring).value.1 = .error (.sandbox "A" "A") ∧
      ((new .default (Linker.bare ["A"])).loadBatch [selfReferring]).value.1 =
        .ok ⟨[("A", ⟨0, 0, 0⟩)], []⟩ ∧
      ¬(new .default (Linker.bare ["A"])).BatchesAlike selfReferring := by
  have hsound : (new .default (Linker.bare ["A"])).clock.Sound := (invariant_after _ _ []).sound
  have hload : ((new .default (Linker.bare ["A"])).load selfReferring).value.1 =
      .error (.sandbox "A" "A") := by
    rw [value_load_of_verdict hsound verdict_selfReferring]
    decide +kernel
  have hbatch : ((new .default (Linker.bare ["A"])).loadBatch [selfReferring]).value.1 =
      .ok ⟨[("A", ⟨0, 0, 0⟩)], []⟩ := by
    rw [value_loadBatch_of_verdict hsound verdict_selfReferring]
    decide +kernel
  refine ⟨hload, hbatch, ?_⟩
  rintro (⟨h, l', halike⟩ | ⟨e, halike⟩)
  · rw [halike.load] at hload
    cases hload
  · by_cases hclash : (new .default (Linker.bare ["A"])).IsCoreClash selfReferring e
    · rw [halike.ends hclash] at hbatch
      cases hbatch
    · rw [halike.skips hclash] at hbatch
      cases hbatch

end Loader

end ModuleRuntime.Module
