import ModuleRuntime.Proofs.Loading.InStep
import ModuleRuntime.Proofs.Loading.Order

/-!
# What sandboxed modules refer to

The check of references lets every name of the batch pass, before it is known what will be loaded.
It is sound all the same: a module is tried behind those to which its references lead, and if one of
them was not loaded, either somebody else holds the name or it counts as missing.
-/

set_option autoImplicit false

namespace ModuleRuntime.Module

open LoadOrder (IsReadyOrder dependencies)

namespace Loader.Layout

/-- Every sandboxed module refers only to names that the registry knows or the policy allows. -/
def Vetted (l : Layout) : Prop :=
  ∀ m ∈ l.registry.loaded.values, m.descriptor.isSandboxed = true →
    ∀ name ∈ m.descriptor.references,
      l.registry.knows name = true ∨ l.config.sandbox.allows name = true

variable {l : Layout} {d : Descriptor} {image : Image} {batch : List String}

/-- A module that the sandbox admits can be added, if the names of the batch to which it refers are
known by then. -/
theorem Vetted.add (hv : l.Vetted) (hs : l.config.sandboxing = true) (hadmits : l.Admits batch d)
    (hfree : l.registry.conflict? d = none)
    (hbatch : ∀ name ∈ d.references, name ∈ batch →
      l.registry.knows name = true ∨ name ∈ d.names) : (l.add d image).Vetted := by
  have hvalues : (l.add d image).registry.loaded.values =
      l.registry.loaded.values ++ [⟨d, l.nextHandle d, l.isDynamic d⟩] :=
    Registry.values_add (Registry.not_mem_keys_of_conflict? hfree)
  intro m hm hsandboxed name hname
  show (l.add d image).registry.knows name = true ∨ l.config.sandbox.allows name = true
  rw [knows_add hfree]
  rw [hvalues, List.mem_append, List.mem_singleton] at hm
  rcases hm with hm | rfl
  · rcases hv m hm hsandboxed name hname with hknown | hallowed
    · exact .inl (.inl hknown)
    · exact .inr hallowed
  · have hpass := hadmits hs hsandboxed name hname
    unfold mayReferTo at hpass
    rw [Bool.or_eq_true, Bool.or_eq_true, List.contains_iff_mem] at hpass
    rcases hpass with (hknown | hmem) | hallowed
    · exact .inl (.inl hknown)
    · exact .inl (hbatch name hname hmem)
    · exact .inr hallowed

end Loader.Layout

/-! ## Batches -/

namespace Progress

variable {p : Progress} {ds : List Descriptor} {placed : List Nat} {d : Descriptor} {i : Nat}
  {l : Loader}

/-- Of the modules that were tried, every name is known to the registry or counts as missing. -/
def Settled (p : Progress) (ds : List Descriptor) (tried : List Nat) : Prop :=
  ∀ j ∈ tried, ∀ d, ds[j]? = some d →
    ∀ name ∈ d.names, p.loader.registry.knows name = true ∨ name ∈ p.missing

/-- The names of a module that is skipped count as missing, unless somebody holds them. -/
theorem Settled.skip (hp : p.Settled ds placed) (hl : l.layout = p.loader.layout)
    (hd : ds[i]? = some d) (name : String) (e : Error) :
    ({ p with loader := l }.skip name d e).Settled ds (placed ++ [i]) := by
  have hregistry : l.registry = p.loader.registry := congrArg Loader.Layout.registry hl
  intro j hj d' hd' n hn
  show l.registry.knows n = true ∨ n ∈ p.missing ++ unheldNames l d
  rw [List.mem_append]
  rcases List.mem_append.mp hj with hj | hj
  · rcases hp j hj d' hd' n hn with hknown | hmissing
    · exact .inl (hregistry ▸ hknown)
    · exact .inr (.inl hmissing)
  · rw [List.mem_singleton] at hj
    subst hj
    rw [hd, Option.some.injEq] at hd'
    subst hd'
    cases hknown : l.registry.knows n with
    | true => exact .inl rfl
    | false => exact .inr (.inr (List.mem_filter.mpr ⟨hn, by simp [hknown]⟩))

/-- The names of a module that is added are known from then on. -/
theorem Settled.addLoaded (hp : p.Settled ds placed) {image : Image}
    (hfree : p.loader.registry.conflict? d = none)
    (hl : l.layout = p.loader.layout.add d image) (hd : ds[i]? = some d) (name : String)
    (h : Handle) : ({ p with loader := l }.addLoaded name h).Settled ds (placed ++ [i]) := by
  have hregistry : l.registry = (p.loader.layout.add d image).registry :=
    congrArg Loader.Layout.registry hl
  intro j hj d' hd' n hn
  show l.registry.knows n = true ∨ n ∈ p.missing
  rw [hregistry, Loader.Layout.knows_add hfree]
  rcases List.mem_append.mp hj with hj | hj
  · rcases hp j hj d' hd' n hn with hknown | hmissing
    · exact .inl (.inl hknown)
    · exact .inr hmissing
  · rw [List.mem_singleton] at hj
    subst hj
    rw [hd, Option.some.injEq] at hd'
    subst hd'
    exact .inl (.inr hn)

/-- If nothing to which a module refers is missing when its dependencies were tried, the names of
the batch to which it refers are known, unless they are its own. -/
theorem Settled.knows_of_mem_batch (hp : p.Settled ds placed)
    (hready : ∀ j ∈ dependencies ds i, j ∈ placed) (hd : ds[i]? = some d)
    (hmissing : p.missingReference? d = none) {name : String} (href : name ∈ d.references)
    (hbatch : name ∈ ds.flatMap (·.names)) :
    p.loader.registry.knows name = true ∨ name ∈ d.names := by
  obtain ⟨j, hj⟩ := LoadOrder.exists_holder? hbatch
  obtain ⟨e, he, hname⟩ := LoadOrder.names_of_holder? hj
  by_cases hne : j = i
  · subst hne
    rw [hd, Option.some.injEq] at he
    exact .inr (he ▸ hname)
  · have hplaced := hready j (LoadOrder.mem_dependencies hd href hj hne)
    have hfound := (p.missingReference?_eq_none_iff d).mp hmissing name href
    exact .inl ((hp j hplaced e he name hname).resolve_right hfound)

/-- Modules that are loaded behind their dependencies are all vetted. -/
theorem vetted_loadEach (candidates : List (Descriptor × Image)) (order placed : List Nat)
    (p : Progress) (hready : IsReadyOrder (candidates.map Prod.fst) placed order)
    (hp : p.Settled (candidates.map Prod.fst) placed)
    (hs : p.loader.config.sandboxing = true) (hv : p.loader.layout.Vetted) :
    (p.loadEach ((candidates.map Prod.fst).flatMap (·.names))
      (order.filterMap (candidates[·]?))).value.2.loader.layout.Vetted := by
  -- What carries the induction is that the modules tried so far are settled.
  induction order generalizing placed p with
  | nil => exact hv
  | cons i rest ih =>
    obtain ⟨hdependencies, hrest⟩ := hready
    cases hi : candidates[i]? with
    | none =>
      rw [List.filterMap_cons_none hi]
      refine ih (placed ++ [i]) p hrest ?_ hs hv
      intro j hj d hd
      rcases List.mem_append.mp hj with hj | hj
      · exact hp j hj d hd
      · rw [List.mem_singleton] at hj
        subst hj
        simp [hi] at hd
    | some member =>
      obtain ⟨d, image⟩ := member
      have hd : (candidates.map Prod.fst)[i]? = some d := by
        rw [List.getElem?_map, hi]
        rfl
      rw [List.filterMap_cons_some hi]
      rcases p.loadEach_cases _ d image _ with
        ⟨e, l, hl, hvalue⟩ | ⟨e, l, hl, hvalue⟩ | ⟨h, l, hmissing, hadmits, hfree, hl, hvalue⟩
      · rw [hvalue]
        refine ih (placed ++ [i]) _ hrest (hp.skip hl hd d.id e) ?_ ?_
        · exact (congrArg (·.config.sandboxing) hl).trans hs
        · show l.layout.Vetted
          rw [hl]
          exact hv
      · rw [hvalue]
        show l.layout.Vetted
        rw [hl]
        exact hv
      · rw [hvalue]
        refine ih (placed ++ [i]) _ hrest (hp.addLoaded hfree hl hd d.id h) ?_ ?_
        · exact (congrArg (·.config.sandboxing) hl).trans hs
        · show l.layout.Vetted
          rw [hl]
          exact hv.add hs hadmits hfree fun name href hbatch =>
            hp.knows_of_mem_batch hdependencies hd hmissing href hbatch

end Progress

/-! ## Runs without a reload -/

namespace Loader

variable {l : Loader}

/-- A load leaves every sandboxed module vetted. -/
theorem vetted_load (hs : l.config.sandboxing = true) (hv : l.layout.Vetted) (image : Image) :
    (l.load image).value.2.layout.Vetted := by
  rcases l.load_cases image with hl | ⟨d, hadmits, hfree, hl⟩
  · rw [hl]
    exact hv
  · rw [hl]
    exact hv.add hs hadmits hfree fun name _ hbatch => absurd hbatch List.not_mem_nil

/-- A batch leaves every sandboxed module vetted, whether or not it is ended early. -/
theorem vetted_loadBatch (hs : l.config.sandboxing = true) (hv : l.layout.Vetted)
    (images : List Image) : (l.loadBatch images).value.2.layout.Vetted := by
  obtain ⟨p, candidates, hlayout, hloader⟩ := l.loadBatch_cases images
  have hnone : p.Settled (candidates.map Prod.fst) [] := fun j hj => absurd hj List.not_mem_nil
  rw [hloader]
  rw [← hlayout] at hv
  exact p.vetted_loadEach candidates _ [] (LoadOrder.isReadyOrder_order _) hnone
    ((congrArg (·.config.sandboxing) hlayout).trans hs) hv

/-- Every operation but a reload leaves every sandboxed module vetted. -/
theorem vetted_perform (hs : l.config.sandboxing = true) (ha : l.layout.Accord)
    (hv : l.layout.Vetted) {op : Operation} (hop : op ≠ .startReload) :
    (l.perform op).value.layout.Vetted := by
  have hsame {m : Layout} (hm : m = l.layout) : m.Vetted := hm ▸ hv
  cases op with
  | load image => exact vetted_load hs hv image
  | loadStream stream path => exact vetted_load hs hv _
  | loadBatch images => exact vetted_loadBatch hs hv images
  | stage id image =>
    simp only [perform, stage]
    cases l.dynamicContext.contains id with
    | true => exact hv
    | false => exact hv
  | startReload => exact absurd rfl hop
  | endWaiting => exact hsame (layout_endWaiting (ha.supportsReload true))
  | enterLevel level => exact hsame (l.layout_enterLevel level)
  | update level frame => exact hv
  | shutdown => exact hsame l.layout_shutdown
  | withDependencies dependencies => exact hv
  | withCallbacks callbacks => exact hv
  | openInspection => exact hv
  | closeInspection => exact hsame l.layout_closeInspection

/-- A run without a reload leaves every sandboxed module vetted. -/
theorem vetted_run {ops : List Operation} (hops : Operation.startReload ∉ ops)
    (hs : l.config.sandboxing = true) (ha : l.layout.Accord) (hv : l.layout.Vetted) :
    (l.run ops).value.layout.Vetted := by
  induction ops generalizing l with
  | nil => exact hv
  | cons op rest ih =>
    rw [List.mem_cons, not_or] at hops
    have hstep := l.step_perform op (ha.supportsReload true)
    rw [value_run_cons]
    refine ih hops.2 ?_ (ha.step hstep) (vetted_perform hs ha hv fun h => hops.1 h.symm)
    exact (congrArg (·.sandboxing) hstep.frame.1).trans hs

/-- Every reference of a sandboxed module, be it listed by the registry or by a context, is the name
of a core module, the id or assembly of a module that the registry lists, or a name that the policy
allows. -/
def Confined (l : Loader) : Prop :=
  ∀ d, (d ∈ l.registry.list ∨ ∃ isDynamic, d ∈ (l.context isDynamic).list) →
    d.isSandboxed = true → ∀ name ∈ d.references,
      l.config.isCoreModule name = true ∨
        (∃ e ∈ l.registry.list, e.isNamed name = true) ∨ l.config.sandbox.allows name = true

/-- With sandboxing on, every run without a reload leaves the sandboxed modules confined. -/
theorem confined_after (config : Config) (hs : config.sandboxing = true) (linkers : LinkerSequence)
    (ops : List Operation) (hops : Operation.startReload ∉ ops) :
    (after config linkers ops).Confined := by
  have ha := accord_after config linkers ops
  obtain ⟨hconfig, -, hcore⟩ := frame_after config linkers ops
  have hnew : (new config linkers).layout.Vetted := fun m hm => absurd hm List.not_mem_nil
  have hvetted : (after config linkers ops).layout.Vetted :=
    vetted_run hops hs (Layout.accord_new config linkers) hnew
  intro d hd hsandboxed name href
  have hlisted : d ∈ (after config linkers ops).registry.list := by
    rcases hd with hd | ⟨isDynamic, hd⟩
    · exact hd
    · exact (mem_registry_list_iff ha d).mpr ⟨isDynamic, hd⟩
  obtain ⟨m, hm, rfl⟩ := (ha.ordered.mem_list_iff d).mp hlisted
  rcases hvetted m hm hsandboxed name href with hknown | hallowed
  · rcases (knows_iff_of_accord ha name).mp hknown with hname | hname
    · rw [Registry.isCore, hcore, ← hconfig] at hname
      exact .inl hname
    · exact .inr (.inl hname)
  · exact .inr (.inr hallowed)

/-- A batch of sandboxed modules, of which one refers to the other and a third one to nobody that is
there. -/
def sandboxedBatch : List Operation :=
  [.loadBatch [.ofMetadata { Metadata.named "A" with references := ["B"] },
    .ofMetadata (.named "B"), .ofMetadata { Metadata.named "C" with references := ["D"] }]]

/-- The sandboxed batch is confined, whatever becomes of its modules. -/
theorem confined_after_sandboxedBatch :
    Config.default.sandboxing = true ∧ Operation.startReload ∉ sandboxedBatch ∧
      (after .default (Linker.bare ["A", "B", "C"]) sandboxedBatch).Confined := by
  have hops : Operation.startReload ∉ sandboxedBatch := by
    unfold sandboxedBatch
    rw [List.mem_singleton]
    exact Operation.noConfusion
  exact ⟨rfl, hops, confined_after .default rfl (Linker.bare ["A", "B", "C"]) sandboxedBatch hops⟩

end Loader

end ModuleRuntime.Module
