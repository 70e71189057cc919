import ModuleRuntime.Proofs.Loading.Apart
import ModuleRuntime.Proofs.Loading.Success

/-!
# What becomes of a candidate does not hang on the order

A candidate is lost if it is left over, if the loader that meets the batch objects to it, or if it
refers to another one that is lost and whose name nobody else has. This says nothing of an order in
which candidates are tried. If no two of them share a name, none has a name of the core, and one
linker answers all calls, then every batch loads exactly those that are not lost, and the others
fail for reasons that do not hang on the order either.
-/

set_option autoImplicit false

namespace ModuleRuntime.Module

open LoadOrder (NamesApart IsTriedOrder leftOver tried)

namespace Loader

variable {l l' : Loader} {cs cs' done rest : List Candidate} {c : Candidate} {name : String}

/-! ## Fates -/

/-- The names of candidates. -/
def namesOf (cs : List Candidate) : List String :=
  (cs.map Prod.fst).flatMap (·.names)

/-- The names of candidates are those of each of them. -/
theorem mem_namesOf_iff : name ∈ namesOf cs ↔ ∃ c ∈ cs, name ∈ c.1.names := by
  unfold namesOf
  simp [List.mem_flatMap]

/-- The candidates that cannot be loaded. -/
inductive Lost (l : Loader) (cs : List Candidate) : Candidate → Prop
  | leftOver {c : Candidate} (h : c ∈ leftOver cs) : Lost l cs c
  | objection {c : Candidate} {f : LoadFailure}
    (h : l.objection? c.1 c.2 (namesOf cs) = some f) : Lost l cs c
  | reference {c c' : Candidate} {name : String} (hc' : c' ∈ cs) (hne : c' ≠ c)
    (href : name ∈ c.1.references) (hname : name ∈ c'.1.names)
    (hknown : l.registry.knows name = false) (h : Lost l cs c') : Lost l cs c

open Classical in
/-- Whether a candidate cannot refer to anything by a name: nobody has it but another candidate,
which is lost. -/
noncomputable def losesName (l : Loader) (cs : List Candidate) (c : Candidate) (name : String) :
    Bool :=
  decide (l.registry.knows name = false ∧ ∃ c' ∈ cs, c' ≠ c ∧ name ∈ c'.1.names ∧ l.Lost cs c')

/-- A candidate loses a name that nobody holds and another candidate had that was lost. -/
theorem losesName_iff : l.losesName cs c name = true ↔
    l.registry.knows name = false ∧ ∃ c' ∈ cs, c' ≠ c ∧ name ∈ c'.1.names ∧ l.Lost cs c' := by
  simp only [losesName, decide_eq_true_eq]

/-- Why a candidate cannot be loaded, if it cannot. -/
noncomputable def fate (l : Loader) (cs : List Candidate) (c : Candidate) : Option Error :=
  if c ∈ leftOver cs then some (Progress.circular c)
  else match c.1.references.find? (l.losesName cs c) with
    | some name => some (.link c.1.id (.dependencyNotLoaded name))
    | none => (l.objection? c.1 c.2 (namesOf cs)).map (·.error)

/-- A candidate is lost iff there is a reason why it cannot be loaded. -/
theorem lost_iff (l : Loader) (cs : List Candidate) (c : Candidate) :
    l.Lost cs c ↔ (l.fate cs c).isSome = true := by
  unfold fate
  constructor
  · intro h
    split
    · rfl
    · next hleft =>
      split
      · rfl
      · next hnone =>
        rw [List.find?_eq_none] at hnone
        cases h with
        | leftOver h => exact absurd h hleft
        | objection h => simp [h]
        | reference hc' hne href hname hknown h =>
          exact absurd (losesName_iff.mpr ⟨hknown, _, hc', hne, hname, h⟩) (hnone _ href)
  · intro h
    split at h
    · next hleft => exact .leftOver hleft
    · split at h
      · next name hfind =>
        obtain ⟨hknown, c', hc', hne, hname, hlost⟩ := losesName_iff.mp (List.find?_some hfind)
        exact .reference hc' hne (List.mem_of_find?_eq_some hfind) hname hknown hlost
      · rw [Option.isSome_map] at h
        obtain ⟨f, hf⟩ := Option.isSome_iff_exists.mp h
        exact .objection hf

/-- The same candidates are lost whatever their order. -/
theorem Lost.perm (hapart : NamesApart cs) (hperm : cs.Perm cs') (h : l.Lost cs c) :
    l.Lost cs' c := by
  induction h with
  | leftOver h => exact .leftOver ((hapart.perm_leftOver hperm).mem_iff.mp h)
  | objection h =>
    refine .objection (Eq.trans (objection?_congr ?_) h)
    intro name
    simp only [mem_namesOf_iff, hperm.mem_iff]
  | reference hc' hne href hname hknown _ ih =>
    exact .reference (hperm.mem_iff.mp hc') hne href hname hknown ih

/-- Why a candidate cannot be loaded does not hang on the order. -/
theorem fate_perm (hapart : NamesApart cs) (hperm : cs.Perm cs') : l.fate cs' = l.fate cs := by
  have hlost (c : Candidate) : l.Lost cs' c ↔ l.Lost cs c :=
    ⟨fun h => h.perm (hapart.perm hperm) hperm.symm, fun h => h.perm hapart hperm⟩
  have hname (c : Candidate) : l.losesName cs' c = l.losesName cs c := by
    funext name
    rw [Bool.eq_iff_iff, losesName_iff, losesName_iff]
    simp only [hlost, hperm.mem_iff]
  have hobjection (c : Candidate) :
      l.objection? c.1 c.2 (namesOf cs') = l.objection? c.1 c.2 (namesOf cs) := by
    apply objection?_congr
    intro name
    simp only [mem_namesOf_iff, hperm.mem_iff]
  funext c
  unfold fate
  simp only [hname, hobjection, (hapart.perm_leftOver hperm).mem_iff]

/-! ## Batches follow the fates -/

/-- The linkers answer every call alike, no two candidates share a name, and none has a name of the
core. -/
structure IsRegular (l : Loader) (cs : List Candidate) : Prop where
  linkers : ∃ linker, ∀ isDynamic, (l.context isDynamic).linkers = .constant linker
  apart : NamesApart cs
  core : ∀ c ∈ cs, ∀ name ∈ c.1.names, name ∉ l.registry.core

/-- What a batch has come to when some candidates have been tried: it was given only such, and it
misses the names of those that were lost. -/
structure Follows (l : Loader) (cs done : List Candidate) (p : Progress) : Prop where
  missing : ∀ name, name ∈ p.missing ↔ l.registry.knows name = false ∧
    ∃ c ∈ leftOver cs ++ done, name ∈ c.1.names ∧ l.Lost cs c
  adds : ∃ modules, l.Adds modules p.loader ∧ ∀ m ∈ modules, m.candidate ∈ done

/-- Without a name of the core, no objection ends a batch. -/
theorem isFatal_of_objection {d : Descriptor} {image : Image} {batch : List String}
    {f : LoadFailure} (h : l.objection? d image batch = some f)
    (hd : ∀ name ∈ d.names, name ∉ l.registry.core) : f.isFatal = false := by
  rw [← Bool.not_eq_true]
  intro hfatal
  obtain ⟨name, hname, hcore, -⟩ := error_of_objection h hfatal
  exact hd name hname hcore

namespace Follows

variable {p : Progress} {modules : List Placed}

/-- Before a candidate was tried, none of its names is that of a module that was added. -/
theorem not_mem_names (hr : l.IsRegular cs) (hsub : ∀ c' ∈ done, c' ∈ cs) (hc : c ∈ cs)
    (hnew : c ∉ done) (hmodules : ∀ m ∈ modules, m.candidate ∈ done) :
    ∀ m ∈ modules, ∀ name ∈ c.1.names, name ∉ m.descriptor.names := by
  intro m hm name hname hname'
  have hmem := hmodules m hm
  have heq : c = m.candidate := hr.apart.eq hc (hsub _ hmem) hname hname'
  exact hnew (heq ▸ hmem)

/-- A candidate whose turn it is meets its fate. -/
theorem obstacle?_eq (hr : l.IsRegular cs) (h : l.Follows cs done p)
    (hsub : ∀ c' ∈ leftOver cs ++ done, c' ∈ cs) (hc : c ∈ cs) (hnew : c ∉ leftOver cs ++ done)
    (hready : ∀ c' ∈ cs, c.RefersTo c' → c' ∈ done) :
    p.obstacle? (namesOf cs) c = (l.fate cs c).map (⟨·, false⟩) := by
  rw [List.mem_append, not_or] at hnew
  have hmissing : p.missingReference? c.1 = c.1.references.find? (l.losesName cs c) := by
    apply List.find?_congr
    intro name href
    rw [Bool.eq_iff_iff, List.contains_iff_mem, h.missing, losesName_iff]
    apply and_congr_right
    intro _
    constructor
    · rintro ⟨c', hc', hname, hlost⟩
      refine ⟨c', hsub c' hc', ?_, hname, hlost⟩
      rintro rfl
      rcases List.mem_append.mp hc' with hc' | hc'
      · exact hnew.1 hc'
      · exact hnew.2 hc'
    · rintro ⟨c', hc', hne, hname, hlost⟩
      have hdone := hready c' hc' ⟨hne, name, href, hname⟩
      exact ⟨c', List.mem_append_right _ hdone, hname, hlost⟩
  have hobjection : p.loader.objection? c.1 c.2 (namesOf cs) =
      l.objection? c.1 c.2 (namesOf cs) := by
    obtain ⟨modules, hadds, hmodules⟩ := h.adds
    obtain ⟨linker, hlinkers⟩ := hr.linkers
    have hdone : ∀ c' ∈ done, c' ∈ cs := fun c' hc' => hsub c' (List.mem_append_right _ hc')
    apply hadds.objection?_eq hlinkers (not_mem_names hr hdone hc hnew.2 hmodules)
    intro m hm name hname
    exact mem_namesOf_iff.mpr ⟨m.candidate, hdone _ (hmodules m hm), hname⟩
  unfold Progress.obstacle? fate
  rw [if_neg hnew.1, hmissing, hobjection]
  cases c.1.references.find? (l.losesName cs c) with
  | some name => rfl
  | none =>
    cases hf : l.objection? c.1 c.2 (namesOf cs) with
    | none => rfl
    | some f =>
      obtain ⟨e, isFatal⟩ := f
      obtain rfl : isFatal = false := isFatal_of_objection hf (hr.core c hc)
      rfl

/-- A candidate that is loaded adds no missing name. -/
theorem afterLoad (h : l.Follows cs done p) (hl : p.loader.Adds [p.placedNext c] l')
    (hfate : l.fate cs c = none) :
    l.Follows cs (done ++ [c]) (p.afterLoad l' (p.placedNext c)) := by
  have hnot : ¬l.Lost cs c := by
    rw [lost_iff, hfate]
    exact Bool.false_ne_true
  obtain ⟨modules, hadds, hmodules⟩ := h.adds
  refine ⟨?_, modules ++ [p.placedNext c], hadds.trans hl, ?_⟩
  · intro name
    show name ∈ p.missing ↔ _
    rw [h.missing, ← List.append_assoc]
    apply and_congr_right
    intro _
    constructor
    · rintro ⟨c', hc', hlost⟩
      exact ⟨c', List.mem_append_left _ hc', hlost⟩
    · rintro ⟨c', hc', hname, hlost⟩
      rcases List.mem_append.mp hc' with hc' | hc'
      · exact ⟨c', hc', hname, hlost⟩
      · exact absurd (List.mem_singleton.mp hc' ▸ hlost) hnot
  · intro m hm
    rcases List.mem_append.mp hm with hm | hm
    · exact List.mem_append_left _ (hmodules m hm)
    · obtain rfl := List.mem_singleton.mp hm
      exact List.mem_append_right _ List.mem_cons_self

/-- The names of a candidate that fails are missing from then on, but for those that are known. -/
theorem afterFailure (hr : l.IsRegular cs) (h : l.Follows cs done p)
    (hsub : ∀ c' ∈ done, c' ∈ cs) (hc : c ∈ cs) (hnew : c ∉ done) (hl : p.loader.Adds [] l')
    {e : Error} (hfate : l.fate cs c = some e) :
    l.Follows cs (done ++ [c]) (p.afterFailure l' c e) := by
  have hlost : l.Lost cs c := by
    rw [lost_iff, hfate]
    rfl
  obtain ⟨modules, hadds, hmodules⟩ := h.adds
  have hall : l.Adds modules l' := by
    have htrans := hadds.trans hl
    rwa [List.append_nil] at htrans
  have hknows (name : String) (hname : name ∈ c.1.names) :
      l'.registry.knows name = l.registry.knows name := by
    rw [Bool.eq_iff_iff, hall.registry.knows_iff]
    apply or_iff_left
    rintro ⟨m, hm, hname'⟩
    obtain ⟨placed, hplaced, rfl⟩ := List.mem_map.mp hm
    exact not_mem_names hr hsub hc hnew hmodules placed hplaced name hname hname'
  have hunheld (name : String) : name ∈ Progress.unheldNames l' c.1 ↔
      l.registry.knows name = false ∧ name ∈ c.1.names := by
    unfold Progress.unheldNames
    rw [List.mem_filter, and_comm, Bool.not_eq_true']
    apply and_congr_left
    intro hname
    rw [hknows name hname]
  refine ⟨?_, modules, hall, fun m hm => List.mem_append_left _ (hmodules m hm)⟩
  intro name
  show name ∈ p.missing ++ Progress.unheldNames l' c.1 ↔ _
  rw [List.mem_append, h.missing, hunheld, ← and_or_left, ← List.append_assoc]
  apply and_congr_right
  intro _
  constructor
  · rintro (⟨c', hc', hname⟩ | hname)
    · exact ⟨c', List.mem_append_left _ hc', hname⟩
    · exact ⟨c, List.mem_append_right _ List.mem_cons_self, hname, hlost⟩
  · rintro ⟨c', hc', hname, hlost'⟩
    rcases List.mem_append.mp hc' with hc' | hc'
    · exact .inl ⟨c', hc', hname, hlost'⟩
    · exact .inr (List.mem_singleton.mp hc' ▸ hname)

/-- Before a candidate was tried, the names of those that are left over are missing. -/
theorem prepared (l : Loader) (images : List Image) :
    l.Follows (l.inspector.candidates images) [] (.prepared l images) := by
  refine ⟨?_, [], .refl, fun _ hm => absurd hm List.not_mem_nil⟩
  intro name
  show name ∈ (leftOver (l.inspector.candidates images)).flatMap _ ↔ _
  rw [List.append_nil, List.mem_flatMap]
  simp only [Progress.unheldNames, List.mem_filter, Bool.not_eq_true']
  constructor
  · rintro ⟨c, hc, hname, hknown⟩
    exact ⟨hknown, c, hc, hname, .leftOver hc⟩
  · rintro ⟨hknown, c, hc, hname, -⟩
    exact ⟨c, hc, hname, hknown⟩

/-- Every candidate that is tried meets its fate. -/
theorem loadEach (hr : l.IsRegular cs) (horder : IsTriedOrder cs done rest)
    (hall : (leftOver cs ++ (done ++ rest)).Perm cs) (h : l.Follows cs done p) :
    (p.loadEach (namesOf cs) rest).value.1 = .ok () ∧ ∃ modules,
      p.Accounts rest modules (rest.filterMap fun c => (l.fate cs c).map (c, ·))
        (p.loadEach (namesOf cs) rest).value.2 ∧
      modules.map Placed.candidate = rest.filter fun c => (l.fate cs c).isNone := by
  induction rest generalizing done p with
  | nil => exact ⟨rfl, [], .nil, rfl⟩
  | cons c rest ih =>
    obtain ⟨hready, horder⟩ := horder
    have hsplit : leftOver cs ++ (done ++ c :: rest) = leftOver cs ++ done ++ c :: rest :=
      (List.append_assoc ..).symm
    have hnext : leftOver cs ++ (done ++ c :: rest) = leftOver cs ++ (done ++ [c] ++ rest) := by
      rw [List.append_assoc, List.singleton_append]
    have hc : c ∈ cs := by
      apply hall.subset
      rw [hsplit]
      exact List.mem_append_right _ List.mem_cons_self
    have hsub : ∀ c' ∈ leftOver cs ++ done, c' ∈ cs := by
      intro c' hc'
      apply hall.subset
      rw [hsplit]
      exact List.mem_append_left _ hc'
    have hnew : c ∉ leftOver cs ++ done := by
      have hnodup := hall.nodup_iff.mpr hr.apart.nodup
      rw [hsplit] at hnodup
      intro hmem
      exact (List.nodup_append.mp hnodup).2.2 c hmem c List.mem_cons_self rfl
    have hobstacle := h.obstacle?_eq hr hsub hc hnew hready
    rw [hnext] at hall
    cases hfate : l.fate cs c with
    | none =>
      rw [hfate] at hobstacle
      obtain ⟨l', hl, hvalue⟩ := Progress.loadEach_of_none hobstacle rest
      obtain ⟨hok, modules, haccounts, hmodules⟩ := ih horder hall (h.afterLoad hl hfate)
      rw [hvalue]
      refine ⟨hok, p.placedNext c :: modules, ?_, ?_⟩
      · simp only [List.filterMap_cons, hfate, Option.map_none]
        exact haccounts.load hl
      · rw [List.filter_cons_of_pos (by rw [hfate]; rfl), List.map_cons, hmodules]
        rfl
    | some e =>
      have hdone : ∀ c' ∈ done, c' ∈ cs := fun c' hc' => hsub c' (List.mem_append_right _ hc')
      have hnot : c ∉ done := fun hmem => hnew (List.mem_append_right _ hmem)
      rw [hfate] at hobstacle
      obtain ⟨l', hl, hvalue⟩ := Progress.loadEach_of_some hobstacle rest
      obtain ⟨hok, modules, haccounts, hmodules⟩ :=
        ih horder hall (h.afterFailure hr hdone hc hnot hl hfate)
      rw [hvalue]
      refine ⟨hok, modules, ?_, ?_⟩
      · simp only [List.filterMap_cons, hfate, Option.map_some]
        exact haccounts.fail hl
      · rw [List.filter_cons_of_neg (by rw [hfate]; exact Bool.false_ne_true), hmodules]

end Follows

/-- A batch ends well, and each of its candidates meets its fate. -/
theorem loadBatch_fates {images : List Image} (hs : l.clock.Sound)
    (hr : l.IsRegular (l.inspector.candidates images)) :
    ∃ modules p,
      (Progress.prepared l images).Accounts (tried (l.inspector.candidates images)) modules
        ((tried (l.inspector.candidates images)).filterMap fun c =>
          (l.fate (l.inspector.candidates images) c).map (c, ·)) p ∧
      modules.map Placed.candidate = (tried (l.inspector.candidates images)).filter
        (fun c => (l.fate (l.inspector.candidates images) c).isNone) ∧
      (l.loadBatch images).value = (.ok ⟨p.loaded, p.skipped⟩, p.loader) := by
  have hall : (leftOver (l.inspector.candidates images) ++
      ([] ++ tried (l.inspector.candidates images))).Perm (l.inspector.candidates images) :=
    List.perm_append_comm.trans (LoadOrder.perm_tried_leftOver _)
  obtain ⟨hok, modules, haccounts, hmodules⟩ :=
    (Follows.prepared l images).loadEach hr hr.apart.isTriedOrder_tried hall
  refine ⟨modules, _, haccounts, hmodules, ?_⟩
  have hattempt : (l.attempt images).1 = .ok () := hok
  rw [value_loadBatch hs, hattempt]
  rfl

end Loader

end ModuleRuntime.Module
