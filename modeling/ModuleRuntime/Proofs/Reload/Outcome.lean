import ModuleRuntime.Proofs.Loading.InStep
import ModuleRuntime.Proofs.Reload.Clock

/-!
# What a reload brings back

The modules are tried in the order in which they had been loaded, which need not be that of their
references. So a module does not come back if it refers to one that was tried before it and is lost;
but it comes back if the one to which it refers is tried behind it and is lost only then, or if that
one was tried under other names than it had.
-/

set_option autoImplicit false

namespace ModuleRuntime.Module

open Loader (Layout)

/-- What is tried for a module hangs on what is staged for it and how images are inspected. -/
theorem Loader.Layout.trial_congr {l m : Layout} {u : Unloaded}
    (hs : m.staged.find? u.descriptor.id = l.staged.find? u.descriptor.id)
    (hi : m.inspector = l.inspector) :
    m.trial u = l.trial u ∧ m.isRefused u = l.isRefused u := by
  unfold trial isRefused
  rw [hs, hi]
  exact ⟨rfl, rfl⟩

namespace Progress

/-- A member of a list with one more at its end is one of the list, with the same ones before it, or
the last one, with the whole list before it. -/
private theorem getElem?_concat_cases {α : Type} {l : List α} {a b : α} {k : Nat}
    (h : (l ++ [a])[k]? = some b) :
    (l[k]? = some b ∧ (l ++ [a]).take k = l.take k) ∨ (b = a ∧ (l ++ [a]).take k = l) := by
  rcases Nat.lt_or_ge k l.length with hk | hk
  · rw [List.getElem?_append_left hk] at h
    exact .inl ⟨h, List.take_append_of_le_length (Nat.le_of_lt hk)⟩
  · rw [List.getElem?_append_right hk, List.getElem?_singleton] at h
    split at h
    case isFalse => cases h
    case isTrue hz =>
      obtain rfl : k = l.length := by omega
      exact .inr ⟨(Option.some.inj h).symm, List.take_left⟩

/-- How a reload stands when some of the unloaded modules have been tried and some of these have
come back. Of each module that was tried the names are known or missing; and a module that refers to
a name under which one before it was tried has come back only if that name is known. -/
structure Tried (l : Layout) (done back : List Unloaded) (p : Progress) : Prop where
  grown : (l.dropped.withStaged .empty).Grown (p.loader.layout.withStaged .empty)
  staged : ∀ id ∉ done.map (·.descriptor.id), p.loader.staged.find? id = l.staged.find? id
  static : p.loader.layout.staticContext = l.staticContext
  sublist : back.Sublist done
  loaded : p.loaded.map Prod.fst = back.map (·.descriptor.id)
  dynamic : p.loader.layout.dynamicContext.modules.map (·.descriptor) = back.map l.trial
  settled : ∀ v ∈ done, ∀ name ∈ (l.trial v).names,
    p.loader.registry.knows name = true ∨ name ∈ p.missing
  known : ∀ (k : Nat) (u : Unloaded), done[k]? = some u → u ∈ back → ∀ v ∈ done.take k,
    ∀ name ∈ (l.trial u).references, name ∈ (l.trial v).names →
      p.loader.registry.knows name = true
  linked : ∀ (k : Nat) (u : Unloaded), done[k]? = some u → l.isRefused u = false →
    (l.trial u).supportsReload = true → ∀ v ∈ done.take k,
      ∀ name ∈ (l.trial u).references, name ∈ (l.trial v).names →
        p.loader.registry.knows name = true ∨ ∃ missing ∈ (l.trial u).references,
          ⟨u.descriptor.id, .link u.descriptor.id (.dependencyNotReloaded missing)⟩ ∈ p.skipped

/-- What a step of a reload comes to that tries one module: `now` holds the module if it has come
back, and is empty otherwise. Known names stay known, and what has been reported stays reported. The
names of the module are known then or missing; it has come back only if it refers to nothing that is
missing, and is reported for that otherwise, unless it could not be tried. -/
structure Advances (l : Layout) (u : Unloaded) (now : List Unloaded) (p p' : Progress) : Prop where
  grown : (p.loader.layout.withStaged .empty).Grown (p'.loader.layout.withStaged .empty)
  staged : p'.loader.staged = p.loader.staged.erase u.descriptor.id
  static : p'.loader.layout.staticContext = p.loader.layout.staticContext
  sublist : now.Sublist [u]
  loaded : p'.loaded.map Prod.fst = p.loaded.map Prod.fst ++ now.map (·.descriptor.id)
  dynamic : p'.loader.layout.dynamicContext.modules.map (·.descriptor) =
    p.loader.layout.dynamicContext.modules.map (·.descriptor) ++ now.map l.trial
  missing : p.missing ⊆ p'.missing
  skipped : p.skipped ⊆ p'.skipped
  settled : ∀ name ∈ (l.trial u).names,
    p'.loader.registry.knows name = true ∨ name ∈ p'.missing
  found : u ∈ now → ∀ name ∈ (l.trial u).references, name ∉ p.missing
  linked : l.isRefused u = false → (l.trial u).supportsReload = true →
    ∀ name ∈ (l.trial u).references, name ∈ p.missing → ∃ missing ∈ (l.trial u).references,
      ⟨u.descriptor.id, .link u.descriptor.id (.dependencyNotReloaded missing)⟩ ∈ p'.skipped

variable {l : Layout} {done back now : List Unloaded} {p p' : Progress} {u : Unloaded}

/-! ### One step -/

/-- A module is skipped, and does not come back. -/
theorem advances_skip {l' : Loader} (hl : l'.layout = p.loader.layout.withoutStaged u) {e : Error}
    (he : l.isRefused u = false → (l.trial u).supportsReload = true →
      ∀ name, p.missingReference? (l.trial u) = some name →
        e = .link u.descriptor.id (.dependencyNotReloaded name)) :
    p.Advances l u [] ({ p with loader := l' }.skip u.descriptor.id (l.trial u) e) where
  grown := by
    rw [loader_skip, hl]
    exact .refl
  staged := congrArg Layout.staged hl
  static := by
    rw [loader_skip, hl]
    rfl
  sublist := List.nil_sublist _
  loaded := (List.append_nil _).symm
  dynamic := by
    rw [loader_skip, hl, List.map_nil, List.append_nil]
    rfl
  missing := List.subset_append_left _ _
  skipped := List.subset_append_left _ _
  settled := by
    intro name hname
    show l'.registry.knows name = true ∨ name ∈ p.missing ++ unheldNames l' (l.trial u)
    cases hknown : l'.registry.knows name with
    | true => exact .inl rfl
    | false =>
      have hunheld : name ∈ unheldNames l' (l.trial u) :=
        List.mem_filter.mpr ⟨hname, by simp [hknown]⟩
      exact .inr (List.mem_append_right _ hunheld)
  found := nofun
  linked := by
    intro hrefused hsupport name href hmissing
    cases hfound : p.missingReference? (l.trial u) with
    | none => exact absurd hmissing ((p.missingReference?_eq_none_iff _).mp hfound name href)
    | some missing =>
      refine ⟨missing, List.mem_of_find?_eq_some hfound, List.mem_append_right _ ?_⟩
      rw [he hrefused hsupport missing hfound]
      exact List.mem_singleton_self _

/-- A dynamic module is added, and has come back. -/
theorem advances_add {l' : Loader} {image : Image}
    (hdynamic : (p.loader.layout.withoutStaged u).isDynamic (l.trial u) = true)
    (hmissing : p.missingReference? (l.trial u) = none)
    (hfree : (p.loader.layout.withoutStaged u).registry.conflict? (l.trial u) = none)
    (hl : l'.layout = (p.loader.layout.withoutStaged u).add (l.trial u) image) (handle : Handle) :
    p.Advances l u [u] ({ p with loader := l' }.addLoaded u.descriptor.id handle) where
  grown := by
    rw [loader_addLoaded, hl]
    exact .add (l.trial u) image .refl hfree
  staged := congrArg Layout.staged hl
  static := by
    rw [loader_addLoaded, hl]
    unfold Loader.Layout.add
    rw [hdynamic]
    rfl
  sublist := List.Sublist.refl _
  loaded := List.map_append
  dynamic := by
    rw [loader_addLoaded, hl]
    unfold Loader.Layout.add
    rw [hdynamic]
    exact List.map_append
  missing := List.Subset.refl _
  skipped := List.Subset.refl _
  settled := by
    intro name hname
    have hregistry : l'.registry = _ := congrArg Layout.registry hl
    rw [loader_addLoaded, hregistry]
    exact .inl ((Loader.Layout.knows_add hfree name).mpr (.inr hname))
  found := fun _ => (p.missingReference?_eq_none_iff _).mp hmissing
  linked := fun _ _ name href hgone =>
    absurd hgone ((p.missingReference?_eq_none_iff _).mp hmissing name href)

/-- Trying a module, by the two ways in which that ends. -/
theorem exists_advances (p : Progress) (batch : List String)
    (hlive : p.loader.config.liveReload = true) (htrial : p.loader.layout.trial u = l.trial u)
    (hrefused : p.loader.layout.isRefused u = l.isRefused u) :
    ∃ now, p.Advances l u now (p.reload batch u).value := by
  rcases p.reload_cases batch u with
    ⟨e, l', hvalue, hl, he⟩ | ⟨image, l', hvalue, hmissing, hsupport, -, hfree, hl⟩
  · rw [htrial] at hvalue he
    rw [hrefused] at he
    rw [hvalue]
    exact ⟨[], advances_skip hl he⟩
  · rw [htrial] at hvalue hmissing hsupport hfree hl
    rw [hvalue]
    exact ⟨[u], advances_add (Bool.and_eq_true_iff.mpr ⟨hlive, hsupport⟩) hmissing hfree hl _⟩

/-! ### What a step preserves -/

/-- A known name stays known. -/
theorem Advances.knows (hs : p.Advances l u now p') {name : String}
    (h : p.loader.registry.knows name = true) : p'.loader.registry.knows name = true :=
  hs.grown.knows h

/-- What decides on a load is as it was before the reload. -/
theorem Tried.frame (h : p.Tried l done back) :
    p.loader.layout.config = l.config ∧ p.loader.layout.inspector = l.inspector := by
  obtain ⟨hconfig, hinspector, -⟩ := h.grown.frame
  exact ⟨hconfig, hinspector⟩

/-- What is staged for another module is not taken. -/
theorem Tried.staged_advance (h : p.Tried l done back) (hs : p.Advances l u now p') {id : String}
    (hid : id ∉ (done ++ [u]).map (·.descriptor.id)) :
    p'.loader.staged.find? id = l.staged.find? id := by
  rw [List.map_append, List.mem_append, not_or] at hid
  have hother : u.descriptor.id ≠ id := fun heq => hid.2 (by simp [heq])
  rw [hs.staged, Dictionary.find?_erase, if_neg hother]
  exact h.staged id hid.1

/-- The names under which a module was tried stay known or missing, and so are those of the one that
is tried now. -/
theorem Tried.settled_advance (h : p.Tried l done back) (hs : p.Advances l u now p')
    {v : Unloaded} (hv : v ∈ done ++ [u]) {name : String} (hname : name ∈ (l.trial v).names) :
    p'.loader.registry.knows name = true ∨ name ∈ p'.missing := by
  rcases List.mem_append.mp hv with hv | hv
  · rcases h.settled v hv name hname with hknown | hmissing
    · exact .inl (hs.knows hknown)
    · exact .inr (hs.missing hmissing)
  · obtain rfl := List.mem_singleton.mp hv
    exact hs.settled name hname

/-- A module that comes back refers to nothing that is missing, so the names of those that were
tried before it are known if it refers to them. -/
theorem Tried.known_advance (h : p.Tried l done back) (hs : p.Advances l u now p') (hu : u ∉ done)
    {k : Nat} {v : Unloaded} (hk : (done ++ [u])[k]? = some v) (hback : v ∈ back ++ now)
    {w : Unloaded} (hw : w ∈ (done ++ [u]).take k) {name : String}
    (href : name ∈ (l.trial v).references) (hname : name ∈ (l.trial w).names) :
    p'.loader.registry.knows name = true := by
  have hnow : v ∈ now → v = u := fun hv => List.mem_singleton.mp (hs.sublist.subset hv)
  rcases getElem?_concat_cases hk with ⟨hk, htake⟩ | ⟨rfl, htake⟩
  · rw [htake] at hw
    rcases List.mem_append.mp hback with hback | hv
    · exact hs.knows (h.known k v hk hback w hw name href hname)
    · exact absurd (hnow hv ▸ List.mem_of_getElem? hk) hu
  · rw [htake] at hw
    rcases List.mem_append.mp hback with hback | hv
    · exact absurd (h.sublist.subset hback) hu
    · exact hs.knows ((h.settled w hw name hname).resolve_right (hs.found hv name href))

/-- A module that refers to a name of one before it finds it known, or is reported for a missing
name. -/
theorem Tried.linked_advance (h : p.Tried l done back) (hs : p.Advances l u now p') {k : Nat}
    {v : Unloaded} (hk : (done ++ [u])[k]? = some v) (hrefused : l.isRefused v = false)
    (hsupport : (l.trial v).supportsReload = true) {w : Unloaded} (hw : w ∈ (done ++ [u]).take k)
    {name : String} (href : name ∈ (l.trial v).references) (hname : name ∈ (l.trial w).names) :
    p'.loader.registry.knows name = true ∨ ∃ missing ∈ (l.trial v).references,
      ⟨v.descriptor.id, .link v.descriptor.id (.dependencyNotReloaded missing)⟩ ∈ p'.skipped := by
  rcases getElem?_concat_cases hk with ⟨hk, htake⟩ | ⟨rfl, htake⟩
  · rw [htake] at hw
    rcases h.linked k v hk hrefused hsupport w hw name href hname with
      hknown | ⟨missing, hmem, hskipped⟩
    · exact .inl (hs.knows hknown)
    · exact .inr ⟨missing, hmem, hs.skipped hskipped⟩
  · rw [htake] at hw
    rcases h.settled w hw name hname with hknown | hmissing
    · exact .inl (hs.knows hknown)
    · exact .inr (hs.linked hrefused hsupport name href hmissing)

/-- After a step one more module was tried. -/
theorem Tried.advance (h : p.Tried l done back) (hs : p.Advances l u now p')
    (hu : u.descriptor.id ∉ done.map (·.descriptor.id)) :
    p'.Tried l (done ++ [u]) (back ++ now) where
  grown := h.grown.trans hs.grown
  staged _ hid := h.staged_advance hs hid
  static := hs.static.trans h.static
  sublist := h.sublist.append hs.sublist
  loaded := by rw [hs.loaded, h.loaded, List.map_append]
  dynamic := by rw [hs.dynamic, h.dynamic, List.map_append]
  settled _ hv _ hname := h.settled_advance hs hv hname
  known _ _ hk hback _ hw _ href hname :=
    h.known_advance hs (fun hmem => hu (List.mem_map_of_mem hmem)) hk hback hw href hname
  linked _ _ hk hrefused hsupport _ hw _ href hname :=
    h.linked_advance hs hk hrefused hsupport hw href hname

/-- Trying one more module. -/
theorem Tried.step (h : p.Tried l done back) (hlive : l.config.liveReload = true)
    (hu : u.descriptor.id ∉ done.map (·.descriptor.id)) (batch : List String) :
    ∃ back', (p.reload batch u).value.Tried l (done ++ [u]) back' := by
  obtain ⟨hconfig, hinspector⟩ := h.frame
  obtain ⟨htrial, hrefused⟩ :=
    Loader.Layout.trial_congr (h.staged u.descriptor.id hu) hinspector
  have hlive' : p.loader.config.liveReload = true :=
    (congrArg Config.liveReload hconfig).trans hlive
  obtain ⟨now, hs⟩ := exists_advances p batch hlive' htrial hrefused
  exact ⟨back ++ now, h.advance hs hu⟩

/-- Trying the others one after the other. -/
theorem Tried.foldl (hlive : l.config.liveReload = true) (batch : List String)
    (us : List Unloaded) (h : p.Tried l done back)
    (hnodup : ((done ++ us).map (·.descriptor.id)).Nodup) :
    ∃ back', (us.foldl (fun p u => (p.reload batch u).value) p).Tried l (done ++ us) back' := by
  -- On the modules still to be tried; no id among them has been tried, so its image is staged yet.
  induction us generalizing done back p with
  | nil => exact ⟨back, (List.append_nil done).symm ▸ h⟩
  | cons u rest ih =>
    have hu : u.descriptor.id ∉ done.map (·.descriptor.id) := by
      rw [List.map_append, List.map_cons, List.nodup_append] at hnodup
      exact fun hmem => hnodup.2.2 _ hmem _ List.mem_cons_self rfl
    obtain ⟨back', hstep⟩ := h.step hlive hu batch
    rw [List.append_cons] at hnodup ⊢
    exact ih hstep hnodup

end Progress

namespace Loader

/-- What a reload comes to when some of the modules that it unloads come back, each under the
descriptor under which it was tried. A module that is back refers to a name that is known iff the
name is one of the core, or that of a static module, or one under which a module was tried that is
back or was tried earlier. Any other module that could be tried and refers to a name under which an
earlier one was tried, and which nobody holds any more, is reported for a dependency that was not
reloaded. -/
structure Reloaded (l : Loader) (back : List Unloaded) (report : ReloadReport) (l' : Loader) :
    Prop where
  sublist : back.Sublist l.layout.unloaded
  reported : report.reloaded = back.map (·.descriptor.id)
  held : l'.dynamicContext.list = back.map l.layout.trial
  known : ∀ (k : Nat) (u : Unloaded), l.layout.unloaded[k]? = some u → u ∈ back →
    ∀ name ∈ (l.layout.trial u).references,
      (l'.registry.knows name = true ↔
        l.registry.isCore name = true ∨ (∃ d ∈ l.staticContext.list, d.isNamed name = true) ∨
          ∃ v ∈ l.layout.unloaded, (v ∈ back ∨ v ∈ l.layout.unloaded.take k) ∧
            (l.layout.trial v).isNamed name = true)
  linked : ∀ (k : Nat) (u : Unloaded), l.layout.unloaded[k]? = some u →
    l.layout.isRefused u = false → (l.layout.trial u).supportsReload = true →
      ∀ v ∈ l.layout.unloaded.take k, ∀ name ∈ (l.layout.trial u).references,
        (l.layout.trial v).isNamed name = true → l'.registry.knows name = false →
          ∃ missing ∈ (l.layout.trial u).references,
            ⟨u.descriptor.id, .link u.descriptor.id (.dependencyNotReloaded missing)⟩ ∈
              report.failed

variable {l l' : Loader} {report : ReloadReport}

/-- When all unloaded modules were tried, the names that are known are those of the core, of the
static modules, and under which the modules were tried that came back. -/
theorem knows_iff_of_tried {back : List Unloaded} {p : Progress}
    (ha : l.layout.Accord) (h : p.Tried l.layout l.layout.unloaded back)
    (hl : l'.layout = p.loader.layout.withStaged .empty) (name : String) :
    l'.registry.knows name = true ↔
      l.registry.isCore name = true ∨ (∃ d ∈ l.staticContext.list, d.isNamed name = true) ∨
        ∃ v ∈ back, (l.layout.trial v).isNamed name = true := by
  have hgrown := h.grown
  rw [← hl] at hgrown
  have hafter : l'.layout.Accord := ha.dropped.grown hgrown
  have hcore : l'.registry.isCore name = l.registry.isCore name := by
    have hdropped : l.registry.forgetDynamic.2.core = l.registry.core :=
      (Registry.forgetDynamic_frame l.registry).1
    have hsame : l'.registry.core = l.registry.core := hgrown.frame.2.2.trans hdropped
    unfold Registry.isCore
    rw [hsame]
  have hstatic : (l'.context false).list = l.staticContext.list := by
    rw [Context.list_eq_map_modules, Context.list_eq_map_modules, layout_context, hl]
    exact congrArg (·.modules.map (·.descriptor)) h.static
  have hdynamic : (l'.context true).list = back.map l.layout.trial := by
    rw [Context.list_eq_map_modules, layout_context, hl]
    exact h.dynamic
  rw [knows_iff_of_accord hafter, hcore]
  refine or_congr_right ⟨?_, ?_⟩
  · rintro ⟨d, hd, hname⟩
    obtain ⟨isDynamic, hd⟩ := (mem_registry_list_iff hafter d).mp hd
    cases isDynamic with
    | false => exact .inl ⟨d, hstatic ▸ hd, hname⟩
    | true =>
      rw [hdynamic] at hd
      obtain ⟨v, hv, rfl⟩ := List.mem_map.mp hd
      exact .inr ⟨v, hv, hname⟩
  · rintro (⟨d, hd, hname⟩ | ⟨v, hv, hname⟩)
    · exact ⟨d, (mem_registry_list_iff hafter d).mpr ⟨false, hstatic ▸ hd⟩, hname⟩
    · refine ⟨l.layout.trial v, (mem_registry_list_iff hafter _).mpr ⟨true, ?_⟩, hname⟩
      rw [hdynamic]
      exact List.mem_map_of_mem hv

/-- When the dynamic modules have just been dropped, none of them has been tried. -/
theorem tried_start {dropped : Loader} (h : dropped.layout = l.layout.dropped) :
    (Progress.start dropped).Tried l.layout [] [] := by
  refine ⟨?_, ?_, ?_, .slnil, rfl, ?_, ?_, ?_, ?_⟩
  · show (l.layout.dropped.withStaged .empty).Grown (dropped.layout.withStaged .empty)
    rw [h]
    exact .refl
  · intro id _
    exact congrArg (fun m : Layout => m.staged.find? id) h
  · show dropped.layout.staticContext = l.layout.staticContext
    rw [h]
    rfl
  · show dropped.layout.dynamicContext.modules.map _ = _
    rw [h]
    rfl
  · exact fun v hv => absurd hv List.not_mem_nil
  · exact fun k u hk => nomatch hk
  · exact fun k u hk => nomatch hk

/-- A reload tries every module that it has unloaded. -/
theorem tried_tryAll {dropped : Loader} (ha : l.layout.Accord) (hlive : l.config.liveReload = true)
    (h : dropped.layout = l.layout.dropped) :
    ∃ back, (dropped.tryAll l.layout.unloaded).Tried l.layout l.layout.unloaded back := by
  have hnodup : (([] ++ l.layout.unloaded : List Unloaded).map (·.descriptor.id)).Nodup := by
    have hids := (ha.tidy true).nodup_ids
    rw [List.nil_append]
    unfold Layout.unloaded
    rw [List.map_map]
    exact hids
  obtain ⟨back, htried⟩ := (tried_start h).foldl hlive
    (l.layout.unloaded.flatMap fun u => u.descriptor.names) l.layout.unloaded hnodup
  rw [List.nil_append] at htried
  unfold tryAll
  exact ⟨back, htried⟩

/-- What a reload comes to that does not fail. -/
theorem reloaded_of_accord (ha : l.layout.Accord) (h : l.startReload.value = (.ok report, l')) :
    ∃ back, l.Reloaded back report l' := by
  rcases startReload_cases (ha.supportsReload true) with
    ⟨-, e, hv⟩ | ⟨hlive, -, dropped, l'', isFinished, hdropped, hv, hl⟩
  · rw [hv] at h
    cases h
  · rw [hv] at h
    obtain ⟨hreport, rfl⟩ := Prod.mk.inj h
    obtain rfl := Except.ok.inj hreport
    obtain ⟨back, htried⟩ := tried_tryAll ha hlive hdropped
    have hknows := knows_iff_of_tried ha htried hl
    have hsame : l''.registry = (dropped.tryAll l.layout.unloaded).loader.registry :=
      congrArg Layout.registry hl
    refine ⟨back, htried.sublist, htried.loaded, ?_, ?_, ?_⟩
    · rw [Context.list_eq_map_modules, ← htried.dynamic]
      exact congrArg (fun m : Layout => m.dynamicContext.modules.map (·.descriptor)) hl
    · intro k u hk hback name href
      constructor
      · intro hn
        rcases (hknows name).mp hn with hn | hn | ⟨v, hv, hname⟩
        · exact .inl hn
        · exact .inr (.inl hn)
        · exact .inr (.inr ⟨v, htried.sublist.subset hv, .inl hv, hname⟩)
      · rintro (hn | hn | ⟨v, -, hv | hv, hname⟩)
        · exact (hknows name).mpr (.inl hn)
        · exact (hknows name).mpr (.inr (.inl hn))
        · exact (hknows name).mpr (.inr (.inr ⟨v, hv, hname⟩))
        · rw [hsame]
          exact htried.known k u hk hback v hv name href ((Descriptor.isNamed_iff _ _).mp hname)
    · intro k u hk hrefused hsupport v hv name href hname hlost
      rw [hsame] at hlost
      refine (htried.linked k u hk hrefused hsupport v hv name href
        ((Descriptor.isNamed_iff _ _).mp hname)).resolve_left ?_
      rw [hlost]
      exact Bool.false_ne_true

/-- A reload does not fail if live reload is on and no other one is under way. -/
theorem startReload_eq_ok (ha : l.layout.Accord) (hlive : l.config.liveReload = true)
    (hmid : l.isMidReload = false) : ∃ report l', l.startReload.value = (.ok report, l') := by
  obtain ⟨dropped, l', isFinished, -, hvalue, -⟩ :=
    startReload_accepted (ha.supportsReload true) hlive hmid
  exact ⟨_, l', hvalue⟩

/-- What a reload comes to after any run, if it does not fail. -/
theorem reloaded_after (config : Config) (linkers : LinkerSequence) (ops : List Operation)
    (h : (after config linkers ops).startReload.value = (.ok report, l')) :
    ∃ back, (after config linkers ops).Reloaded back report l' :=
  reloaded_of_accord (accord_after config linkers ops) h

/-- After loads and staged images only, no reload is under way. -/
theorem isMidReload_after (config : Config) (linkers : LinkerSequence) {ops : List Operation}
    (hops : ∀ op ∈ ops, ∃ image, op = .load image ∨ ∃ id, op = .stage id image) :
    (after config linkers ops).isMidReload = false := by
  refine isMidReload_after_of_isPlain config linkers fun op hop => ?_
  rcases hops op hop with ⟨image, rfl | ⟨id, rfl⟩⟩
  · trivial
  · trivial

/-- The image of a module that can be reloaded. -/
def reloadableImage (name : String) (references : List String) : Image :=
  .ofMetadata ⟨name, "1.0.0", references, none,
    [(⟨none, true, true, false⟩ : Declaration).asAttribute]⟩

/-- A module is loaded before the one to which it refers, and for the latter an image is staged that
cannot be read. -/
def forwardReference : List Operation :=
  [.load (reloadableImage "A" ["B"]), .load (reloadableImage "B" []), .stage "B" ⟨[], none⟩]

/-- The module with the forward reference comes back without the one to which it refers. -/
theorem reloaded_after_forwardReference :
    ∃ report l', (after { Config.default with liveReload := true } (Linker.bare ["A", "B"])
        forwardReference).startReload.value = (.ok report, l') ∧
      ∃ back, (after { Config.default with liveReload := true } (Linker.bare ["A", "B"])
        forwardReference).Reloaded back report l' := by
  have hconfig := (frame_after { Config.default with liveReload := true } (Linker.bare ["A", "B"])
    forwardReference).1
  have hops : ∀ op ∈ forwardReference, ∃ image, op = .load image ∨ ∃ id, op = .stage id image := by
    intro op hop
    unfold forwardReference at hop
    rcases List.mem_cons.mp hop with rfl | hop
    · exact ⟨_, .inl rfl⟩
    · rcases List.mem_cons.mp hop with rfl | hop
      · exact ⟨_, .inl rfl⟩
      · rw [List.mem_singleton] at hop
        exact ⟨_, .inr ⟨_, hop⟩⟩
  obtain ⟨report, l', hvalue⟩ := startReload_eq_ok (accord_after _ _ forwardReference)
    (congrArg Config.liveReload hconfig) (isMidReload_after _ _ hops)
  exact ⟨report, l', hvalue, reloaded_after _ _ forwardReference hvalue⟩

end Loader

end ModuleRuntime.Module
