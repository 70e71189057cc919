import ModuleRuntime.Proofs.Reload.Outcome

/-!
# What a reload reports

A report goes by the ids that the modules had, and the dynamic context holds the modules under the
ids that they have now. So the report tells what is held exactly if every module that came back has
kept its id.
-/

set_option autoImplicit false

namespace ModuleRuntime.Module

open Loader (Layout)

namespace Progress

/-- The ids that were tried are split, in the order of the trials: the module of each was either
loaded or skipped. -/
structure Splits (p : Progress) (ids : List String) : Prop where
  sublist : (p.loaded.map Prod.fst).Sublist ids
  skipped : p.skipped.map (·.name) = ids.filter (· ∉ p.loaded.map Prod.fst)

variable {p : Progress} {ids : List String} {id : String}

/-- The id of a module that is skipped goes to the skipped ones. -/
theorem Splits.skip (h : p.Splits ids) (hid : id ∉ ids) (l : Loader) (d : Descriptor) (e : Error) :
    ({ p with loader := l }.skip id d e).Splits (ids ++ [id]) where
  sublist := h.sublist.trans (List.sublist_append_left ..)
  skipped := by
    have hloaded : id ∉ p.loaded.map Prod.fst := fun hmem => hid (h.sublist.subset hmem)
    show (p.skipped ++ [(⟨id, e⟩ : Skipped)]).map (·.name) = _
    show _ = (ids ++ [id]).filter (· ∉ p.loaded.map Prod.fst)
    have hlast : [id].filter (· ∉ p.loaded.map Prod.fst) = [id] :=
      List.filter_cons_of_pos (decide_eq_true hloaded)
    rw [List.map_append, List.filter_append, h.skipped, hlast]
    rfl

/-- The id of a module that is loaded goes to the loaded ones. -/
theorem Splits.addLoaded (h : p.Splits ids) (hid : id ∉ ids) (l : Loader) (handle : Handle) :
    ({ p with loader := l }.addLoaded id handle).Splits (ids ++ [id]) := by
  have hnames : ({ p with loader := l }.addLoaded id handle).loaded.map Prod.fst =
      p.loaded.map Prod.fst ++ [id] := List.map_append ..
  constructor
  case sublist =>
    rw [hnames]
    exact h.sublist.append (List.Sublist.refl _)
  case skipped =>
    have hothers : ids.filter (· ∉ p.loaded.map Prod.fst ++ [id]) =
        ids.filter (· ∉ p.loaded.map Prod.fst) := by
      refine List.filter_congr fun k hk => decide_eq_decide.mpr (not_congr ?_)
      have hne : k ≠ id := fun heq => hid (heq ▸ hk)
      rw [List.mem_append, List.mem_singleton, or_iff_left hne]
    have hlast : [id].filter (· ∉ p.loaded.map Prod.fst ++ [id]) = [] :=
      List.filter_cons_of_neg (by simp)
    rw [hnames, List.filter_append, hothers, ← h.skipped, hlast, List.append_nil]
    rfl

/-- Trying one more module adds its id to one side. -/
theorem Splits.step (h : p.Splits ids) {u : Unloaded} (hu : u.descriptor.id ∉ ids)
    (batch : List String) : (p.reload batch u).value.Splits (ids ++ [u.descriptor.id]) := by
  rcases p.reload_cases batch u with ⟨e, l', hvalue, -, -⟩ | ⟨image, l', hvalue, -⟩
  · rw [hvalue]
    exact h.skip hu l' _ e
  · rw [hvalue]
    exact h.addLoaded hu l' _

/-- By induction on the modules that are tried. -/
theorem Splits.foldl (h : p.Splits ids) (batch : List String) (us : List Unloaded)
    (hnodup : (ids ++ us.map (·.descriptor.id)).Nodup) :
    (us.foldl (fun p u => (p.reload batch u).value) p).Splits
      (ids ++ us.map (·.descriptor.id)) := by
  induction us generalizing ids p with
  | nil =>
    rw [List.map_nil, List.append_nil]
    exact h
  | cons u rest ih =>
    -- An id that was tried before would be on a side twice.
    have hu : u.descriptor.id ∉ ids := by
      rw [List.map_cons, List.nodup_append] at hnodup
      exact fun hmem => hnodup.2.2 _ hmem _ List.mem_cons_self rfl
    rw [List.map_cons, List.append_cons] at hnodup ⊢
    exact ih (h.step hu batch) hnodup

/-- No id is both among the loaded and the skipped ones. -/
theorem Splits.disjoint (h : p.Splits ids) {k : String} (hk : k ∈ p.skipped.map (·.name)) :
    k ∉ p.loaded.map Prod.fst := by
  rw [h.skipped] at hk
  exact of_decide_eq_true (List.mem_filter.mp hk).2

/-- Where no id is tried twice, none is listed twice. -/
theorem Splits.nodup (h : p.Splits ids) (hnodup : ids.Nodup) :
    (p.loaded.map Prod.fst ++ p.skipped.map (·.name)).Nodup := by
  refine List.nodup_append.mpr ⟨hnodup.sublist h.sublist, ?_, ?_⟩
  · rw [h.skipped]
    exact hnodup.filter _
  · rintro k hloaded _ hskipped rfl
    exact h.disjoint hskipped hloaded

/-- Both sides together are the ids that were tried. -/
theorem Splits.perm (h : p.Splits ids) (hnodup : ids.Nodup) :
    (p.loaded.map Prod.fst ++ p.skipped.map (·.name)).Perm ids := by
  refine (List.perm_ext_iff_of_nodup (h.nodup hnodup) hnodup).mpr fun k => ?_
  rw [List.mem_append, h.skipped, List.mem_filter, decide_eq_true_eq]
  constructor
  · rintro (hloaded | ⟨hk, -⟩)
    · exact h.sublist.subset hloaded
    · exact hk
  · intro hk
    by_cases hloaded : k ∈ p.loaded.map Prod.fst
    · exact .inl hloaded
    · exact .inr ⟨hk, hloaded⟩

end Progress

namespace Loader

variable {l l' : Loader} {report : ReloadReport}

/-- A report tells the truth of a loader: it lists the ids of the dynamic modules in the order in
which they were loaded, every one of these ids has a handle that is live, and no module that it
reports as failed is held. -/
structure Truthful (l : Loader) (report : ReloadReport) : Prop where
  reloaded : report.reloaded = l.dynamicContext.list.map (·.id)
  live : ∀ id ∈ report.reloaded, ∃ h, l.registry.handleOf? id = some h ∧
    l.dynamicContext.isLive h = true
  failed : ∀ s ∈ report.failed, l.dynamicContext.contains s.name = false

/-- What a reload reports when some of the modules that it unloads come back: the ids that those had
are reloaded and the other ids are failed, each in the order in which the modules had been loaded.
What is held are the modules that came back, as they were tried, and each has a live handle. The
report tells the truth of this iff each of them has kept its id. -/
structure Accounted (l : Loader) (back : List Unloaded) (report : ReloadReport) (l' : Loader) :
    Prop where
  sublist : back.Sublist l.layout.unloaded
  reloaded : report.reloaded = back.map (·.descriptor.id)
  failed : report.failed.map (·.name) =
    (l.dynamicContext.list.map (·.id)).filter (· ∉ report.reloaded)
  held : l'.dynamicContext.list = back.map l.layout.trial
  live : ∀ d ∈ l'.dynamicContext.list, ∃ h, l'.registry.handleOf? d.id = some h ∧
    l'.dynamicContext.isLive h = true
  truthful : l'.Truthful report ↔ ∀ u ∈ back, (l.layout.trial u).id = u.descriptor.id

/-- The ids of what is unloaded are those of the dynamic modules. -/
theorem map_id_unloaded (l : Loader) :
    l.layout.unloaded.map (·.descriptor.id) = l.dynamicContext.list.map (·.id) := by
  rw [Context.list_eq_map_modules, Layout.unloaded, List.map_map, List.map_map]
  rfl

/-- No two dynamic modules have one id. -/
theorem nodup_ids_dynamicContext (ha : l.layout.Accord) :
    (l.dynamicContext.list.map (·.id)).Nodup := by
  have hids := (ha.tidy true).nodup_ids
  rw [Context.list_eq_map_modules, List.map_map]
  exact hids

/-- The dynamic context contains the ids of the modules that it lists. -/
theorem contains_dynamicContext_iff (ha : l.layout.Accord) (id : String) :
    l.dynamicContext.contains id = true ↔ id ∈ l.dynamicContext.list.map (·.id) := by
  rw [Context.list_eq_map_modules, List.map_map, List.mem_map]
  exact (Dictionary.contains_iff _ _).trans ((ha.tidy true).mem_keys_iff id)

/-- Every dynamic module has a live handle. -/
theorem live_of_accord (ha : l.layout.Accord) {d : Descriptor} (hd : d ∈ l.dynamicContext.list) :
    ∃ h, l.registry.handleOf? d.id = some h ∧ l.dynamicContext.isLive h = true := by
  rw [Context.list_eq_map_modules] at hd
  obtain ⟨m, hm, rfl⟩ := List.mem_map.mp hd
  have hfound : l.registry.loaded.find? m.descriptor.id = some (m.asLoaded true) :=
    (ha.find?_loaded_iff m.descriptor.id (m.asLoaded true)).mpr ⟨rfl, m, hm, rfl⟩
  refine ⟨m.handle, by rw [Registry.handleOf?, hfound]; rfl, ?_⟩
  obtain ⟨i, hi⟩ := List.mem_iff_getElem?.mp hm
  have hhandle : m.handle = ⟨l.dynamicContext.id, l.dynamicContext.generation, UInt32.ofNat i⟩ :=
    (ha.tidy true).handle i m hi
  have hbound : i < l.dynamicContext.slots.length := by
    have hlength : l.dynamicContext.layout.modules.length = l.dynamicContext.slots.length :=
      List.length_map ..
    rw [← hlength]
    exact (List.getElem?_eq_some_iff.mp hi).1
  -- A slot number that has wrapped around is a smaller one, so it is in use all the same.
  have hslot : (UInt32.ofNat i).toNat ≤ i := by
    rw [UInt32.toNat_ofNat']
    exact Nat.mod_le ..
  simp only [Context.isLive, hhandle, beq_self_eq_true, Bool.true_and, decide_eq_true_eq]
  omega

/-- A reload splits the ids of the dynamic modules. -/
theorem splits_tryAll (ha : l.layout.Accord) (dropped : Loader) :
    (dropped.tryAll l.layout.unloaded).Splits (l.dynamicContext.list.map (·.id)) := by
  have hstart : (Progress.start dropped).Splits [] := ⟨.slnil, rfl⟩
  have hnodup := nodup_ids_dynamicContext ha
  rw [← map_id_unloaded] at hnodup ⊢
  exact hstart.foldl _ l.layout.unloaded hnodup

/-- A report tells the truth iff the modules that came back have kept their ids. -/
theorem truthful_iff_of_accord (ha : l'.layout.Accord) {back : List Unloaded}
    (hreloaded : report.reloaded = back.map (·.descriptor.id))
    (hfailed : ∀ s ∈ report.failed, s.name ∉ report.reloaded)
    (hheld : l'.dynamicContext.list = back.map l.layout.trial) :
    l'.Truthful report ↔ ∀ u ∈ back, (l.layout.trial u).id = u.descriptor.id := by
  have hids : report.reloaded = l'.dynamicContext.list.map (·.id) ↔
      ∀ u ∈ back, (l.layout.trial u).id = u.descriptor.id := by
    rw [hreloaded, hheld, List.map_map, List.map_inj_left]
    exact forall₂_congr fun u _ => eq_comm
  refine ⟨fun h => hids.mp h.reloaded, fun hkept => ?_⟩
  have hreport := hids.mpr hkept
  refine ⟨hreport, fun id hid => ?_, fun s hs => ?_⟩
  · rw [hreport] at hid
    obtain ⟨d, hd, rfl⟩ := List.mem_map.mp hid
    exact live_of_accord ha hd
  · have hnot := hfailed s hs
    rw [hreport, ← contains_dynamicContext_iff ha, Bool.not_eq_true] at hnot
    exact hnot

/-- What is reported of a reload that does not fail. -/
theorem accounted_of_accord (ha : l.layout.Accord)
    (h : l.startReload.value = (.ok report, l')) : ∃ back, l.Accounted back report l' := by
  obtain ⟨back, hr⟩ := reloaded_of_accord ha h
  have hstep := step_startReload l (ha.supportsReload true)
  rw [h] at hstep
  have hafter : l'.layout.Accord := ha.step hstep
  have hfailed : report.failed.map (·.name) =
      (l.dynamicContext.list.map (·.id)).filter (· ∉ report.reloaded) := by
    rcases startReload_cases (ha.supportsReload true) with
      ⟨-, e, hv⟩ | ⟨-, -, dropped, l'', isFinished, -, hv, -⟩
    · rw [hv] at h
      cases h
    · rw [hv] at h
      obtain ⟨hreport, -⟩ := Prod.mk.inj h
      obtain rfl := Except.ok.inj hreport
      exact (splits_tryAll ha dropped).skipped
  refine ⟨back, hr.sublist, hr.reported, hfailed, hr.held, fun d hd => live_of_accord hafter hd, ?_⟩
  refine truthful_iff_of_accord hafter hr.reported (fun s hs => ?_) hr.held
  have hname : s.name ∈ report.failed.map (·.name) := List.mem_map_of_mem hs
  rw [hfailed] at hname
  exact of_decide_eq_true (List.mem_filter.mp hname).2

/-- What is reported of a reload after any run, if it does not fail. -/
theorem accounted_after (config : Config) (linkers : LinkerSequence) (ops : List Operation)
    (h : (after config linkers ops).startReload.value = (.ok report, l')) :
    ∃ back, (after config linkers ops).Accounted back report l' :=
  accounted_of_accord (accord_after config linkers ops) h

/-- After loads and staged images only, a reload does not fail if live reload is on. -/
theorem startReload_after_eq_ok (config : Config) (linkers : LinkerSequence)
    (hlive : config.liveReload = true) {ops : List Operation}
    (hops : ∀ op ∈ ops, ∃ image, op = .load image ∨ ∃ id, op = .stage id image) :
    ∃ report l', (after config linkers ops).startReload.value = (.ok report, l') := by
  have hconfig : (after config linkers ops).config = config := (frame_after config linkers ops).1
  refine startReload_eq_ok (accord_after config linkers ops) ?_ (isMidReload_after _ _ hops)
  rw [hconfig]
  exact hlive

/-- A module is loaded, and for it an image is staged in which it declares another id. -/
def changedId : List Operation :=
  [.load (reloadableImage "A" []), .stage "A" (.ofMetadata ⟨"A", "1.0.0", [], none,
    [(⟨some "B", true, true, false⟩ : Declaration).asAttribute]⟩)]

/-- The module comes back under the new id, and is reported under the old one. -/
theorem accounted_after_changedId :
    ∃ report l', (after { Config.default with liveReload := true } (Linker.bare ["A"])
        changedId).startReload.value = (.ok report, l') ∧
      ∃ back, (after { Config.default with liveReload := true } (Linker.bare ["A"])
        changedId).Accounted back report l' := by
  have hops : ∀ op ∈ changedId, ∃ image, op = .load image ∨ ∃ id, op = .stage id image := by
    simp only [changedId, List.forall_mem_cons, List.not_mem_nil, false_imp_iff, implies_true,
      and_true]
    exact ⟨⟨_, .inl rfl⟩, ⟨_, .inr ⟨_, rfl⟩⟩⟩
  obtain ⟨report, l', hvalue⟩ :=
    startReload_after_eq_ok { Config.default with liveReload := true } (Linker.bare ["A"]) rfl hops
  exact ⟨report, l', hvalue, accounted_after _ _ changedId hvalue⟩

/-! ## That no module goes missing -/

/-- A reload leaves no module out: the ids that the dynamic modules had are each reported once, as
reloaded or as failed, and both in the order in which the modules had been loaded. There are as many
dynamic modules now as were reloaded, and no image stands ready any more. -/
structure LeavesNoneOut (l : Loader) (report : ReloadReport) (l' : Loader) : Prop where
  reported : (report.reloaded ++ report.failed.map (·.name)).Perm
    (l.dynamicContext.list.map (·.id))
  once : (report.reloaded ++ report.failed.map (·.name)).Nodup
  reloaded : report.reloaded.Sublist (l.dynamicContext.list.map (·.id))
  failed : (report.failed.map (·.name)).Sublist (l.dynamicContext.list.map (·.id))
  count : l'.dynamicContext.moduleCount = report.reloaded.length
  unstaged : l'.staged = .empty

/-- A reload that is accepted leaves no module out. -/
theorem leavesNoneOut_of_accord (ha : l.layout.Accord) (hlive : l.config.liveReload = true)
    (hmid : l.isMidReload = false) :
    ∃ report l', l.startReload.value = (.ok report, l') ∧ l.LeavesNoneOut report l' := by
  obtain ⟨dropped, l', isFinished, -, hvalue, hl⟩ :=
    startReload_accepted (ha.supportsReload true) hlive hmid
  have hsplits := splits_tryAll ha dropped
  have hids := nodup_ids_dynamicContext ha
  obtain ⟨back, hback⟩ := reloaded_of_accord ha hvalue
  refine ⟨_, l', hvalue, hsplits.perm hids, hsplits.nodup hids, hsplits.sublist, ?_, ?_,
    congrArg Layout.staged hl⟩
  · show ((dropped.tryAll l.layout.unloaded).skipped.map (·.name)).Sublist _
    rw [hsplits.skipped]
    exact List.filter_sublist
  · -- Each module that is held is one that came back, and each of these is reported.
    have hheld : l'.dynamicContext.moduleCount = l'.dynamicContext.list.length :=
      (List.length_map ..).symm
    rw [hheld, hback.held, hback.reported, List.length_map, List.length_map]

/-- After any run, a reload leaves no module out if live reload is on and no other one is under
way. -/
theorem leavesNoneOut_after (config : Config) (linkers : LinkerSequence) (ops : List Operation)
    (hlive : config.liveReload = true)
    (hmid : (after config linkers ops).isMidReload = false) :
    ∃ report l', (after config linkers ops).startReload.value = (.ok report, l') ∧
      (after config linkers ops).LeavesNoneOut report l' := by
  have hconfig : (after config linkers ops).config = config := (frame_after config linkers ops).1
  refine leavesNoneOut_of_accord (accord_after config linkers ops) ?_ hmid
  rw [hconfig]
  exact hlive

/-- Of two modules, the replacement of the first cannot be reloaded. -/
def lostSupport : List Operation :=
  [.load (reloadableImage "A" []), .load (reloadableImage "B" []),
    .stage "A" (.ofMetadata ⟨"A", "1.0.0", [], none, []⟩)]

/-- One module comes back and the other one is reported as failed. -/
theorem leavesNoneOut_after_lostSupport :
    ∃ report l', (after { Config.default with liveReload := true } (Linker.bare ["A", "B"])
        lostSupport).startReload.value = (.ok report, l') ∧
      (after { Config.default with liveReload := true } (Linker.bare ["A", "B"])
        lostSupport).LeavesNoneOut report l' := by
  have hops : ∀ op ∈ lostSupport, ∃ image, op = .load image ∨ ∃ id, op = .stage id image := by
    simp only [lostSupport, List.forall_mem_cons, List.not_mem_nil, false_imp_iff, implies_true,
      and_true]
    exact ⟨⟨_, .inl rfl⟩, ⟨_, .inl rfl⟩, ⟨_, .inr ⟨_, rfl⟩⟩⟩
  exact leavesNoneOut_after _ _ lostSupport rfl (isMidReload_after _ _ hops)

end Loader

end ModuleRuntime.Module
