import ModuleRuntime.Proofs.Loading.Account

/-!
# What stands before what in a report

The modules of a batch are loaded behind those to which they refer, as far as names tell them apart.
A name means the first candidate that has it. So if a module was loaded before another one to which
it refers, an earlier candidate has the name as well, and that one was tried first.
-/

set_option autoImplicit false

namespace ModuleRuntime.Module

namespace LoadOrder

variable {ds : List Descriptor} {placed rest places : List Nat} {i j k : Nat} {name : String}

/-- What a module depends on was placed before it. -/
theorem sublist_of_isReadyOrder (h : IsReadyOrder ds placed rest) (hi : i ∈ rest)
    (hk : k ∈ dependencies ds i) : k ∈ placed ∨ [k, i].Sublist rest := by
  induction rest generalizing placed with
  | nil => cases hi
  | cons first rest ih =>
    obtain ⟨hfirst, hrest⟩ := h
    rcases List.mem_cons.mp hi with rfl | hlater
    · exact .inl (hfirst k hk)
    · rcases ih hrest hlater with hplaced | hbefore
      · rcases List.mem_append.mp hplaced with hplaced | hplaced
        · exact .inl hplaced
        · obtain rfl := List.mem_singleton.mp hplaced
          exact .inr ((List.singleton_sublist.mpr hlater).cons_cons k)
      · exact .inr (hbefore.cons first)

/-- No module depends on one that is placed behind it. -/
theorem pairwise_of_isReadyOrder (h : IsReadyOrder ds placed rest)
    (hnodup : (placed ++ rest).Nodup) : rest.Pairwise fun i j => j ∉ dependencies ds i := by
  induction rest generalizing placed with
  | nil => exact .nil
  | cons first rest ih =>
    obtain ⟨hfirst, hrest⟩ := h
    constructor
    · intro j hj hdependency
      obtain ⟨-, -, hdistinct⟩ := List.nodup_append.mp hnodup
      exact hdistinct j (hfirst j hdependency) j (List.mem_cons_of_mem _ hj) rfl
    · apply ih hrest
      rw [List.append_assoc]
      exact hnodup

/-- The module that is meant by a name stands first of those that have it. -/
theorem le_of_holder? (hk : holder? ds name = some k) {d : Descriptor} (hd : ds[j]? = some d)
    (hname : name ∈ d.names) : k ≤ j := by
  obtain ⟨hlt, -, hfirst⟩ := List.findIdx?_eq_some_iff_getElem.mp hk
  obtain ⟨hj, rfl⟩ := List.getElem?_eq_some_iff.mp hd
  have hnamed : ds[j].isNamed name = true := (Descriptor.isNamed_iff _ name).mpr hname
  by_contra hlater
  have hbefore : j < k := by omega
  exact hfirst j hbefore hnamed

/-- If a module of some places refers to one that is placed behind it, the name means an earlier one
of the batch: the module itself, or one that is placed before it in the order of the batch. -/
def Respects (ds : List Descriptor) (places : List Nat) : Prop :=
  places.Pairwise fun i j => ∀ d e, ds[i]? = some d → ds[j]? = some e →
    ∀ name ∈ d.references, name ∈ e.names →
      ∃ k < j, holder? ds name = some k ∧ (k = i ∨ [k, i].Sublist (order ds))

/-- The order of a batch respects references. -/
theorem respects_order (ds : List Descriptor) : Respects ds (order ds) := by
  have hready := isReadyOrder_order ds
  have hnodup := (isPlacement_order ds).nodup
  have hdependencies := pairwise_of_isReadyOrder hready hnodup
  apply List.pairwise_iff_forall_sublist.mpr
  intro i j hij d e hd he name href hname
  have hi : i ∈ order ds := hij.subset List.mem_cons_self
  have hlater : j ∉ dependencies ds i := hdependencies.forall_sublist hij
  have hne : j ≠ i := by
    intro h
    exact hnodup.forall_sublist hij h.symm
  have hmem : e ∈ ds := List.mem_of_getElem? he
  obtain ⟨k, hk⟩ := exists_holder? (List.mem_flatMap.mpr ⟨e, hmem, hname⟩)
  have hkj : k ≠ j := by
    intro h
    exact hlater (mem_dependencies hd href (h ▸ hk) hne)
  have hle := le_of_holder? hk he hname
  refine ⟨k, by omega, hk, ?_⟩
  by_cases hki : k = i
  · exact .inl hki
  · have hdependency := mem_dependencies hd href hk hki
    rcases sublist_of_isReadyOrder hready hi hdependency with h | h
    · cases h
    · exact .inr h

end LoadOrder

namespace Loader

open LoadOrder (Respects respects_order)

/-- Whatever was done before, the modules that a batch loads stand at places of its order, and their
references are respected. -/
theorem respects_after (config : Config) (linkers : LinkerSequence) (ops : List Operation)
    (images : List Image) {report : BatchReport}
    (h : ((after config linkers ops).loadBatch images).value.1 = .ok report) :
    ∃ places : List Nat,
      places.Sublist (LoadOrder.order ((after config linkers ops).described images)) ∧
      report.loaded.map Prod.fst =
        (places.filterMap (((after config linkers ops).described images)[·]?)).map (·.id) ∧
      Respects ((after config linkers ops).described images) places := by
  have hclock := (invariant_after config linkers ops).sound
  generalize after config linkers ops = l at hclock h
  rcases loadBatch_accounts hclock images with
    ⟨modules, failed, p, haccounts, hvalue⟩ |
      ⟨before, c, rest, modules, failed, p, -, -, name, -, -, hvalue⟩
  · rw [hvalue] at h
    obtain rfl := Except.ok.inj h
    obtain ⟨places, hplaces, hmodules⟩ := List.sublist_filterMap_iff.mp haccounts.sublist
    refine ⟨places, hplaces, ?_, (respects_order _).sublist hplaces⟩
    have hids : p.loaded.map Prod.fst =
        (modules.map Placed.candidate).map (·.1.id) := by
      rw [haccounts.loaded]
      simp [Progress.prepared, Function.comp_def, Placed.candidate]
    show p.loaded.map Prod.fst = _
    rw [hids, hmodules, List.map_filterMap, List.map_filterMap]
    unfold described
    simp only [List.getElem?_map, Option.map_map, Function.comp_def]
  · rw [hvalue] at h
    cases h

/-- The metadata of a module that has another id than its assembly. -/
def renamed (assembly id : String) : Metadata :=
  { Metadata.named assembly with
    attributes := [(⟨some id, false, false, false⟩ : Declaration).asAttribute] }

/-- The metadata of three modules, of which one refers to a name that both others have: the first
one as its id, the last one as that of its assembly. -/
def nameSharers : List Metadata :=
  [renamed "B" "A", { Metadata.named "Z" with references := ["A"] }, renamed "A" "C"]

/-- The batch of the three modules. -/
def sharedName : List Image :=
  nameSharers.map .ofMetadata

/-- The module in the middle follows the first one that has the name, and precedes the other one. -/
theorem respects_after_sharedName :
    ((after .default (Linker.bare ["A", "B", "Z"]) []).loadBatch sharedName).value.1 =
        .ok ⟨[("A", ⟨0, 0, 0⟩), ("Z", ⟨0, 0, 1⟩), ("C", ⟨0, 0, 2⟩)], []⟩ ∧
      ∃ places : List Nat,
        places.Sublist (LoadOrder.order
          ((after .default (Linker.bare ["A", "B", "Z"]) []).described sharedName)) ∧
        ["A", "Z", "C"] = (places.filterMap
          (((after .default (Linker.bare ["A", "B", "Z"]) []).described sharedName)[·]?)).map
            (·.id) ∧
        Respects ((after .default (Linker.bare ["A", "B", "Z"]) []).described sharedName)
          places := by
  have hloaded : ((after .default (Linker.bare ["A", "B", "Z"]) []).loadBatch
      sharedName).value.1 =
        .ok ⟨[("A", ⟨0, 0, 0⟩), ("Z", ⟨0, 0, 1⟩), ("C", ⟨0, 0, 2⟩)], []⟩ := by
    have hcandidates : (after .default (Linker.bare ["A", "B", "Z"]) []).inspector.candidates
        sharedName = nameSharers.filterMap Inspector.default.packed? := by
      rw [(frame_after _ _ _).2.1]
      exact Inspector.candidates_map_ofMetadata _ (by decide +kernel)
    have hall : (nameSharers.filterMap Inspector.default.packed?).length = sharedName.length := by
      decide +kernel
    rw [value_loadBatch (invariant_after _ _ _).sound, attempt,
      Progress.prepared_of_candidates hcandidates hall, described, hcandidates, after_nil]
    decide +kernel
  exact ⟨hloaded, respects_after .default (Linker.bare ["A", "B", "Z"]) [] sharedName hloaded⟩

end Loader

end ModuleRuntime.Module
