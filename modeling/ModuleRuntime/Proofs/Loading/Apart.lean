import Mathlib.Data.List.Find
import Mathlib.Data.List.Pairwise
import ModuleRuntime.Proofs.Loading.Account

/-!
# Candidates with names of their own

If no two candidates of a batch share a name, a reference means at most one of them. Then which of
them are tried does not hang on their order, and neither does what a loader objects to one of them
after it has been given others.
-/

set_option autoImplicit false

namespace ModuleRuntime.Module

/-! ## Objections -/

namespace Context

variable {c c' : Context} {ms : List Placed} {d : Descriptor} {image : Image}

/-- What a load answers: a module that is there is refused, and else the linker decides. -/
theorem value_load_fst (c : Context) (d : Descriptor) (image : Image) :
    (c.load d image).value.1 =
      if c.contains d.id || c.pending.contains d.id then .error (.conflict d.id (.context c.name))
      else (c.linkers.head.link d image).map fun _ => c.nextHandle := by
  unfold load
  split
  · rfl
  · dsimp only
    cases c.linkers.head.link d image <;> rfl

/-- A context has a module of an id iff it had one or one was added. -/
theorem Adds.contains_eq (h : c.Adds ms c') {id : String} (hid : ∀ m ∈ ms, m.descriptor.id ≠ id) :
    c'.contains id = c.contains id := by
  have hkeys : c'.loaded.keys = c.loaded.keys ++ ms.map (·.descriptor.id) := by
    show c'.loaded.entries.map Prod.fst = c.loaded.entries.map Prod.fst ++ _
    rw [h.loaded, List.map_append, List.map_map]
    rfl
  unfold contains
  rw [Bool.eq_iff_iff, Dictionary.contains_iff, Dictionary.contains_iff, hkeys, List.mem_append]
  apply or_iff_left
  intro hmem
  obtain ⟨m, hm, heq⟩ := List.mem_map.mp hmem
  exact hid m hm heq

/-- Whether a linker that answers every call alike lets a module into a context does not hang on
modules of other ids. -/
theorem Adds.load_eq_error_iff (h : c.Adds ms c') {linker : Linker}
    (hlinkers : c.linkers = .constant linker) (hid : ∀ m ∈ ms, m.descriptor.id ≠ d.id)
    (image : Image) (e : Error) :
    (c'.load d image).value.1 = .error e ↔ (c.load d image).value.1 = .error e := by
  have hlinkers' : c'.linkers = .constant linker := (hlinkers ▸ h.linkers).eq_constant
  have hpending : c'.pending = c.pending := by rw [h.frame]
  have hname : c'.name = c.name := by rw [h.frame]
  rw [value_load_fst, value_load_fst, h.contains_eq hid, hpending, hname, hlinkers, hlinkers']
  split
  · rfl
  · cases (LinkerSequence.constant linker).head.link d image with
    | ok linked => constructor <;> rintro ⟨⟩
    | error e => rfl

end Context

namespace Loader

variable {l l' : Loader} {ms : List Placed} {d : Descriptor} {image : Image}
  {batch batch' : List String}

/-- The check of references hangs on which of them are allowed. -/
theorem vetReferences_congr (hconfig : l'.config = l.config)
    (h : ∀ name ∈ d.references, l'.mayReferTo batch' name = l.mayReferTo batch name) :
    (l'.vetReferences d batch').value = (l.vetReferences d batch).value := by
  have hfind : (d.references.find? fun name => !l'.mayReferTo batch' name) =
      d.references.find? fun name => !l.mayReferTo batch name :=
    List.find?_congr fun name hname => by rw [h name hname]
  unfold vetReferences
  rw [hconfig, hfind]

/-- Objections hang on the names of a batch and not on their order. -/
theorem objection?_congr (h : ∀ name, name ∈ batch' ↔ name ∈ batch) :
    l.objection? d image batch' = l.objection? d image batch := by
  have hvet : (l.vetReferences d batch').value = (l.vetReferences d batch).value := by
    apply vetReferences_congr rfl
    intro name _
    have hcontains : batch'.contains name = batch.contains name := by
      rw [Bool.eq_iff_iff, List.contains_iff_mem, List.contains_iff_mem, h]
    unfold mayReferTo
    rw [hcontains]
  unfold objection?
  rw [hvet]

/-- What is objected to a module does not hang on other modules of its batch, with none of its
names. -/
theorem Adds.objection?_eq (h : l.Adds ms l') {linker : Linker}
    (hlinkers : ∀ isDynamic, (l.context isDynamic).linkers = .constant linker)
    (hd : ∀ m ∈ ms, ∀ name ∈ d.names, name ∉ m.descriptor.names)
    (hbatch : ∀ m ∈ ms, ∀ name ∈ m.descriptor.names, name ∈ batch) :
    l'.objection? d image batch = l.objection? d image batch := by
  have hconfig : l'.config = l.config := by rw [h.frame]
  have hvet : (l'.vetReferences d batch).value = (l.vetReferences d batch).value := by
    apply vetReferences_congr hconfig
    intro name _
    -- The names that are known besides are those of the batch, which are allowed in any case.
    have hknows : l'.registry.knows name = true ∨ name ∈ batch ↔
        l.registry.knows name = true ∨ name ∈ batch := by
      rw [h.registry.knows_iff]
      constructor
      · rintro ((hknown | ⟨m, hm, hname⟩) | hname)
        · exact .inl hknown
        · obtain ⟨p, hp, rfl⟩ := List.mem_map.mp hm
          exact .inr (hbatch p hp name hname)
        · exact .inr hname
      · rintro (hknown | hname)
        · exact .inl (.inl hknown)
        · exact .inr hname
    unfold mayReferTo
    rw [hconfig, Bool.eq_iff_iff]
    simp only [Bool.or_eq_true, List.contains_iff_mem, hknows]
  have hconflict : l'.registry.conflict? d = l.registry.conflict? d := by
    apply h.registry.conflict?_eq
    intro m hm
    obtain ⟨p, hp, rfl⟩ := List.mem_map.mp hm
    exact hd p hp
  have hid : ∀ m ∈ ms.filter (fun m => l.isDynamic m.descriptor == l.isDynamic d),
      m.descriptor.id ≠ d.id := by
    intro m hm heq
    apply hd m (List.mem_filter.mp hm).1 d.id List.mem_cons_self
    rw [← heq]
    exact List.mem_cons_self
  have hload := (h.context (l.isDynamic d)).load_eq_error_iff
    (hlinkers (l.isDynamic d)) hid image
  unfold objection?
  rw [hvet, hconflict, h.isDynamic]
  cases (l.vetReferences d batch).value with
  | error e => rfl
  | ok _ =>
    cases l.registry.conflict? d with
    | some c => rfl
    | none =>
      dsimp only
      cases hr : ((l.context (l.isDynamic d)).load d image).value.1 with
      | error e => rw [(hload e).mpr hr]
      | ok handle =>
        cases hr' : ((l'.context (l.isDynamic d)).load d image).value.1 with
        | ok handle' => rfl
        | error e =>
          rw [(hload e).mp hr'] at hr
          cases hr

end Loader

/-! ## Candidates -/

/-- A candidate refers to another one. -/
def Candidate.RefersTo (c c' : Candidate) : Prop :=
  c' ≠ c ∧ ∃ name ∈ c.1.references, name ∈ c'.1.names

namespace LoadOrder

variable {cs cs' done rest : List Candidate} {c c' : Candidate} {name : String}

/-- No two candidates share a name. -/
def NamesApart (cs : List Candidate) : Prop :=
  cs.Pairwise fun c c' => ∀ name ∈ c.1.names, name ∉ c'.1.names

namespace NamesApart

/-- Candidates whose names are apart differ. -/
theorem nodup (h : NamesApart cs) : cs.Nodup := by
  apply h.imp
  intro c c' hapart heq
  exact hapart c.1.id List.mem_cons_self (heq ▸ List.mem_cons_self)

/-- A name is that of one candidate. -/
theorem eq (h : NamesApart cs) (hc : c ∈ cs) (hc' : c' ∈ cs) (hname : name ∈ c.1.names)
    (hname' : name ∈ c'.1.names) : c = c' := by
  by_contra hne
  have hsymm : Std.Symm fun c c' : Candidate => ∀ name ∈ c.1.names, name ∉ c'.1.names :=
    ⟨fun _ _ hapart name hname hname' => hapart name hname' hname⟩
  exact List.Pairwise.forall h hc hc' hne name hname hname'

/-- Whether names are apart does not depend on the order of the candidates. -/
theorem perm (h : NamesApart cs) (hperm : cs.Perm cs') : NamesApart cs' := by
  refine (hperm.pairwise_iff ?_).mp h
  intro _ _ hapart name hname hname'
  exact hapart name hname' hname

/-- A name means the candidate that has it. -/
theorem holder?_eq_some (h : NamesApart cs) {j : Nat} (hj : cs[j]? = some c)
    (hname : name ∈ c.1.names) : holder? (cs.map Prod.fst) name = some j := by
  have hmem : c.1 ∈ cs.map Prod.fst := List.mem_map_of_mem (List.mem_of_getElem? hj)
  obtain ⟨k, hk⟩ := exists_holder? (List.mem_flatMap.mpr ⟨c.1, hmem, hname⟩)
  obtain ⟨d, hd, hname'⟩ := names_of_holder? hk
  rw [List.getElem?_map] at hd
  obtain ⟨c', hc', rfl⟩ := Option.map_eq_some_iff.mp hd
  obtain rfl := h.eq (List.mem_of_getElem? hj) (List.mem_of_getElem? hc') hname hname'
  have hlt : j < cs.length := (List.getElem?_eq_some_iff.mp hj).1
  rw [hk, (List.getElem?_inj hlt h.nodup).mp (hj.trans hc'.symm)]

end NamesApart

/-- Each candidate of a sequence stands behind those to which it refers, some of which were tried
before. -/
def IsTriedOrder (cs : List Candidate) : List Candidate → List Candidate → Prop
  | _, [] => True
  | done, c :: rest =>
    (∀ c' ∈ cs, c.RefersTo c' → c' ∈ done) ∧ IsTriedOrder cs (done ++ [c]) rest

/-- Places in a ready order lead to candidates behind those to which they refer. -/
theorem NamesApart.isTriedOrder (h : NamesApart cs) {placed rest : List Nat}
    (hready : IsReadyOrder (cs.map Prod.fst) placed rest) :
    IsTriedOrder cs (placed.filterMap (cs[·]?)) (rest.filterMap (cs[·]?)) := by
  induction rest generalizing placed with
  | nil => trivial
  | cons i rest ih =>
    obtain ⟨hfirst, hrest⟩ := hready
    have hih := ih hrest
    rw [List.filterMap_append] at hih
    cases hi : cs[i]? with
    | none =>
      simpa [hi] using hih
    | some c =>
      simp only [List.filterMap_cons, hi, List.filterMap_nil] at hih ⊢
      refine ⟨?_, hih⟩
      rintro c' hc' ⟨hne, name, href, hname⟩
      obtain ⟨j, hj⟩ := List.mem_iff_getElem?.mp hc'
      have hd : (cs.map Prod.fst)[i]? = some c.1 := by
        rw [List.getElem?_map, hi]
        rfl
      have hij : j ≠ i := by
        rintro rfl
        exact hne (Option.some.inj (hj.symm.trans hi))
      have hplaced := hfirst j (mem_dependencies hd href (h.holder?_eq_some hj hname) hij)
      exact List.mem_filterMap.mpr ⟨j, hplaced, hj⟩

/-- Candidates are tried behind those to which they refer. -/
theorem NamesApart.isTriedOrder_tried (h : NamesApart cs) : IsTriedOrder cs [] (tried cs) :=
  h.isTriedOrder (isReadyOrder_order _)

/-- A candidate that is left over refers to another one. -/
theorem NamesApart.exists_refersTo (h : NamesApart cs) (hc : c ∈ leftOver cs) :
    ∃ c' ∈ leftOver cs, c.RefersTo c' := by
  obtain ⟨i, hi, hci⟩ := List.mem_filterMap.mp hc
  obtain ⟨j, hj, hcyclic⟩ := exists_dependency_cyclic hi
  have hd : (cs.map Prod.fst)[i]? = some c.1 := by
    rw [List.getElem?_map, hci]
    rfl
  obtain ⟨name, href, hname, hne⟩ := exists_reference hd hj
  obtain ⟨d, hd', hnamed⟩ := names_of_holder? hname
  rw [List.getElem?_map] at hd'
  obtain ⟨c', hcj, rfl⟩ := Option.map_eq_some_iff.mp hd'
  refine ⟨c', List.mem_filterMap.mpr ⟨j, hcyclic, hcj⟩, ?_, name, href, hnamed⟩
  rintro rfl
  have hlt : j < cs.length := (List.getElem?_eq_some_iff.mp hcj).1
  exact hne ((List.getElem?_inj hlt h.nodup).mp (hcj.trans hci.symm))

/-- A candidate is tried or left over, and never both. -/
theorem NamesApart.mem_leftOver_iff (h : NamesApart cs) :
    c ∈ leftOver cs ↔ c ∈ cs ∧ c ∉ tried cs := by
  have hperm := perm_tried_leftOver cs
  have hdisjoint := (List.nodup_append.mp (hperm.nodup_iff.mpr h.nodup)).2.2
  rw [← hperm.mem_iff, List.mem_append]
  constructor
  · intro hleft
    exact ⟨.inr hleft, fun htried => hdisjoint c htried c hleft rfl⟩
  · rintro ⟨htried | hleft, hnot⟩
    · exact absurd htried hnot
    · exact hleft

/-- Whatever is tried in one order of the candidates is tried in every other one. -/
theorem NamesApart.tried_subset (h' : NamesApart cs') (hmem : ∀ c, c ∈ cs ↔ c ∈ cs')
    (horder : IsTriedOrder cs done rest) (hdone : ∀ c ∈ done, c ∈ tried cs')
    (hrest : ∀ c ∈ rest, c ∈ cs) : ∀ c ∈ rest, c ∈ tried cs' := by
  induction rest generalizing done with
  | nil => exact fun _ hc => absurd hc List.not_mem_nil
  | cons first rest ih =>
    obtain ⟨hfirst, horder⟩ := horder
    have htried : first ∈ tried cs' := by
      by_contra hnot
      have hcs : first ∈ cs' := (hmem first).mp (hrest first List.mem_cons_self)
      obtain ⟨c', hc', href⟩ := h'.exists_refersTo (h'.mem_leftOver_iff.mpr ⟨hcs, hnot⟩)
      obtain ⟨hc', hnot'⟩ := h'.mem_leftOver_iff.mp hc'
      exact hnot' (hdone c' (hfirst c' ((hmem c').mpr hc') href))
    intro c hc
    rcases List.mem_cons.mp hc with rfl | hc
    · exact htried
    · refine ih horder ?_ (fun c hc => hrest c (List.mem_cons_of_mem _ hc)) c hc
      intro c hc
      rcases List.mem_append.mp hc with hc | hc
      · exact hdone c hc
      · exact List.mem_singleton.mp hc ▸ htried

/-- Only candidates are tried. -/
theorem mem_of_mem_tried (hc : c ∈ tried cs) : c ∈ cs :=
  (perm_tried_leftOver cs).subset (List.mem_append_left _ hc)

/-- The same candidates are tried whatever their order. -/
theorem NamesApart.perm_tried (h : NamesApart cs) (hperm : cs.Perm cs') :
    (tried cs).Perm (tried cs') := by
  have h' := h.perm hperm
  have hnodup {cs : List Candidate} (h : NamesApart cs) : (tried cs).Nodup :=
    (List.nodup_append.mp ((perm_tried_leftOver cs).nodup_iff.mpr h.nodup)).1
  have hnone {cs : List Candidate} : ∀ c ∈ ([] : List Candidate), c ∈ tried cs :=
    fun _ hc => absurd hc List.not_mem_nil
  rw [List.perm_ext_iff_of_nodup (hnodup h) (hnodup h')]
  intro c
  constructor
  · exact h'.tried_subset (fun _ => hperm.mem_iff) h.isTriedOrder_tried hnone
      (fun _ => mem_of_mem_tried) c
  · exact h.tried_subset (fun _ => hperm.mem_iff.symm) h'.isTriedOrder_tried hnone
      (fun _ => mem_of_mem_tried) c

/-- The same candidates are left over whatever their order. -/
theorem NamesApart.perm_leftOver (h : NamesApart cs) (hperm : cs.Perm cs') :
    (leftOver cs).Perm (leftOver cs') := by
  have h' := h.perm hperm
  have hnodup {cs : List Candidate} (h : NamesApart cs) : (leftOver cs).Nodup :=
    (List.nodup_append.mp ((perm_tried_leftOver cs).nodup_iff.mpr h.nodup)).2.1
  rw [List.perm_ext_iff_of_nodup (hnodup h) (hnodup h')]
  intro c
  rw [h.mem_leftOver_iff, h'.mem_leftOver_iff, hperm.mem_iff, (h.perm_tried hperm).mem_iff]

end LoadOrder

end ModuleRuntime.Module
