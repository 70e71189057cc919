import Mathlib.Data.List.Nodup
import ModuleRuntime.Proofs.Loading.Apart
import ModuleRuntime.Proofs.Loading.Precedence

/-!
# Missing dependencies

A batch skips a candidate that refers to a missing name. A name goes missing when the first
candidate that has it is not loaded, unless somebody had it before the batch, and it stays missing:
a later candidate of the same name may still be loaded, and then others are skipped although the
registry knows the name. If no two candidates share a name this does not happen.
-/

set_option autoImplicit false

namespace ModuleRuntime.Module

open LoadOrder (NamesApart leftOver tried)

/-- What has become of a candidate with which a batch is done. -/
structure Outcome where
  candidate : Candidate
  result : Result Handle

namespace Outcome

/-- Whether the candidate was loaded. -/
def isLoaded (t : Outcome) : Bool :=
  match t.result with
  | .ok _ => true
  | .error _ => false

/-- Whether a name is that of the candidate or of its assembly. -/
def hasName (t : Outcome) (name : String) : Bool :=
  t.candidate.1.isNamed name

/-- How a report shows the candidate if it was loaded. -/
def loaded? (t : Outcome) : Option (String × Handle) :=
  match t.result with
  | .ok h => some (t.candidate.1.id, h)
  | .error _ => none

/-- How a report shows the candidate if it was skipped. -/
def skipped? (t : Outcome) : Option Skipped :=
  match t.result with
  | .ok _ => none
  | .error e => some (Progress.showFailed (t.candidate, e))

end Outcome

namespace Loader

/-- The candidate that is tried behind some others, and what the batch has come to by then, unless
it has ended. -/
def turn? (l : Loader) (images : List Image) (k : Nat) : Option (Candidate × Progress) :=
  match ((Progress.prepared l images).loadEach ((l.described images).flatMap (·.names))
      ((tried (l.inspector.candidates images)).take k)).value with
  | (.ok _, p) => (tried (l.inspector.candidates images))[k]?.map (·, p)
  | (.error _, _) => none

/-- Whether a name is missing: nobody had it before the batch, and the first candidate that has it
was not loaded. -/
def lacks (l : Loader) (outcomes : List Outcome) (name : String) : Bool :=
  !l.registry.knows name && (outcomes.find? (·.hasName name)).any (!·.isLoaded)

end Loader

/-! ## One candidate after the other -/

namespace Progress

variable {p p' : Progress} {l l' : Loader} {batch : List String} {c : Candidate}
  {members rest : List Candidate} {outcomes : List Outcome} {refused : List Skipped} {u : Unit}

/-- What a batch has come to when it is done with some candidates. -/
structure Records (l : Loader) (refused : List Skipped) (outcomes : List Outcome) (p : Progress) :
    Prop where
  loaded : p.loaded = outcomes.filterMap Outcome.loaded?
  skipped : p.skipped = refused ++ outcomes.filterMap Outcome.skipped?
  knows : ∀ name, p.loader.registry.knows name = true ↔
    l.registry.knows name = true ∨ ∃ t ∈ outcomes, t.isLoaded = true ∧ t.hasName name = true
  missing : ∀ name, p.missing.contains name = l.lacks outcomes name

namespace Records

/-- Only the first candidate that has a name decides whether it is missing. -/
theorem lacks_concat (t : Outcome) (name : String) :
    l.lacks (outcomes ++ [t]) name =
      (l.lacks outcomes name || (!l.registry.knows name &&
        (outcomes.find? (·.hasName name)).isNone && t.hasName name && !t.isLoaded)) := by
  unfold Loader.lacks
  rw [List.find?_append]
  cases outcomes.find? (·.hasName name) with
  | some first => cases l.registry.knows name <;> simp
  | none => cases hname : t.hasName name <;> simp [hname]

/-- Before some candidate has a name it is as unknown as it was before the batch. -/
theorem knows_of_find?_none (h : Records l refused outcomes p) {name : String}
    (hnone : outcomes.find? (·.hasName name) = none) :
    p.loader.registry.knows name = l.registry.knows name := by
  rw [Bool.eq_iff_iff, h.knows]
  apply or_iff_left
  rintro ⟨t, ht, -, hname⟩
  exact List.find?_eq_none.mp hnone t ht hname

/-- The progress records a candidate that was loaded. -/
theorem load (h : Records l refused outcomes p) (hl : p.loader.Adds [p.placedNext c] l') :
    Records l refused (outcomes ++ [⟨c, .ok (p.placedNext c).handle⟩])
      (p.afterLoad l' (p.placedNext c)) := by
  refine ⟨?_, ?_, ?_, ?_⟩
  · show p.loaded ++ _ = _
    rw [h.loaded, List.filterMap_append]
    rfl
  · show p.skipped = _
    rw [h.skipped, List.filterMap_append]
    simp [Outcome.skipped?]
  · intro name
    show l'.registry.knows name = true ↔ _
    rw [hl.registry.knows_iff, h.knows, or_assoc]
    apply or_congr_right
    simp only [List.map_cons, List.map_nil, List.mem_singleton, exists_eq_left, List.mem_append,
      or_and_right, exists_or]
    apply or_congr_right
    simp only [Outcome.isLoaded, Outcome.hasName, Descriptor.isNamed_iff, true_and]
    rfl
  · intro name
    show p.missing.contains name = _
    rw [lacks_concat, h.missing]
    simp [Outcome.isLoaded]

/-- The progress records a candidate that was not loaded. -/
theorem fail (h : Records l refused outcomes p) (hl : p.loader.Adds [] l') (e : Error) :
    Records l refused (outcomes ++ [⟨c, .error e⟩]) (p.afterFailure l' c e) := by
  have hsame : l'.registry.knows = p.loader.registry.knows := by
    have hregistry : l'.registry = p.loader.registry := hl.registry.eq
    rw [hregistry]
  refine ⟨?_, ?_, ?_, ?_⟩
  · show p.loaded = _
    rw [h.loaded, List.filterMap_append]
    simp [Outcome.loaded?]
  · show p.skipped ++ _ = _
    rw [h.skipped, List.filterMap_append, List.append_assoc]
    rfl
  · intro name
    show l'.registry.knows name = true ↔ _
    rw [hsame, h.knows]
    simp [Outcome.isLoaded]
  · intro name
    show (p.missing ++ unheldNames l' c.1).contains name = _
    have hunheld : (unheldNames l' c.1).contains name =
        (c.1.isNamed name && !p.loader.registry.knows name) := by
      rw [Bool.eq_iff_iff, List.contains_iff_mem, unheldNames, List.mem_filter, hsame,
        Bool.and_eq_true, Descriptor.isNamed_iff]
    have hcontains : (p.missing ++ unheldNames l' c.1).contains name =
        (p.missing.contains name || (unheldNames l' c.1).contains name) := by simp
    rw [hcontains, hunheld, lacks_concat, h.missing]
    cases hfind : outcomes.find? (·.hasName name) with
    | none =>
      rw [h.knows_of_find?_none hfind]
      simp [Outcome.isLoaded, Outcome.hasName, Bool.and_comm]
    | some first =>
      -- The name is missing already, or somebody has it.
      have hdecided : l.lacks outcomes name = true ∨ p.loader.registry.knows name = true := by
        have hname := List.find?_some hfind
        have hmem := List.mem_of_find?_eq_some hfind
        have hknows := h.knows name
        unfold Loader.lacks
        rw [hfind]
        cases hloaded : first.isLoaded with
        | true => exact .inr (hknows.mpr (.inr ⟨first, hmem, hloaded, hname⟩))
        | false =>
          cases hold : l.registry.knows name with
          | true => exact .inr (hknows.mpr (.inl hold))
          | false => simp [hloaded]
      rcases hdecided with hlacks | hknown
      · simp [hlacks]
      · simp [hknown]

/-- By induction on the candidates: whatever a batch is done with is recorded. -/
theorem loadEach (h : Records l refused outcomes p)
    (hvalue : (p.loadEach batch members).value = (.ok u, p')) :
    ∃ later, later.map (·.candidate) = members ∧ Records l refused (outcomes ++ later) p' := by
  induction members generalizing p outcomes with
  | nil =>
    obtain ⟨-, rfl⟩ := Prod.mk.inj hvalue
    exact ⟨[], rfl, by simpa using h⟩
  | cons c rest ih =>
    cases ho : p.obstacle? batch c with
    | none =>
      obtain ⟨l', hl, hnext⟩ := loadEach_of_none ho rest
      rw [hnext] at hvalue
      obtain ⟨later, hlater, hrecords⟩ := ih (h.load hl) hvalue
      refine ⟨⟨c, .ok (p.placedNext c).handle⟩ :: later, by simp [hlater], ?_⟩
      simpa using hrecords
    | some f =>
      obtain ⟨l', hl, hnext⟩ := loadEach_of_some ho rest
      rw [hnext] at hvalue
      by_cases hfatal : f.isFatal = true
      · simp [hfatal] at hvalue
      · rw [if_neg hfatal] at hvalue
        obtain ⟨later, hlater, hrecords⟩ := ih (h.fail hl f.error) hvalue
        refine ⟨⟨c, .error f.error⟩ :: later, by simp [hlater], ?_⟩
        simpa using hrecords

/-- If none was loaded, the first candidate that has a name was not. -/
theorem lacks_of_failed (l : Loader) (cs : List Candidate) (name : String) :
    l.lacks (cs.map fun c => ⟨c, .error (circular c)⟩) name = true ↔
      ∃ c ∈ cs, c.1.isNamed name = true ∧ l.registry.knows name = false := by
  unfold Loader.lacks
  rw [List.find?_map, Bool.and_eq_true, Option.any_map]
  cases hfind : cs.find? fun c => c.1.isNamed name with
  | none =>
    have hnone := List.find?_eq_none.mp hfind
    simp only [Outcome.hasName, Function.comp_def, hfind]
    constructor
    · rintro ⟨-, h⟩
      cases h
    · rintro ⟨c, hc, hname, -⟩
      exact absurd hname (hnone c hc)
  | some c =>
    have hname := List.find?_some hfind
    have hc := List.mem_of_find?_eq_some hfind
    simp only [Outcome.hasName, Function.comp_def, hfind]
    constructor
    · rintro ⟨hunknown, -⟩
      exact ⟨c, hc, hname, by simpa using hunknown⟩
    · rintro ⟨-, -, -, hunknown⟩
      exact ⟨by simp [hunknown], rfl⟩

/-- Before the first candidate is tried, a batch is done with those that are left over. -/
theorem prepared (l : Loader) (images : List Image) :
    Records l ((l.inspector.refused images).map (showRefused l.inspector))
      ((leftOver (l.inspector.candidates images)).map fun c => ⟨c, .error (circular c)⟩)
      (.prepared l images) := by
  refine ⟨?_, ?_, ?_, ?_⟩
  · simp [Progress.prepared, Outcome.loaded?, Function.comp_def]
  · simp [Progress.prepared, Outcome.skipped?, Function.comp_def]
  · intro name
    simp [Progress.prepared, Outcome.isLoaded]
  · intro name
    have hnames (c : Candidate) : name ∈ unheldNames l c.1 ↔
        c.1.isNamed name = true ∧ l.registry.knows name = false := by
      unfold unheldNames
      rw [List.mem_filter, Descriptor.isNamed_iff, Bool.not_eq_true']
    rw [Bool.eq_iff_iff, List.contains_iff_mem, lacks_of_failed]
    simp [Progress.prepared, hnames]

end Records

/-- What is tried behind some candidates goes on from what they have come to. -/
theorem loadEach_append (h : (p.loadEach batch members).value = (.ok u, p')) :
    (p.loadEach batch (members ++ rest)).value = (p'.loadEach batch rest).value := by
  induction members generalizing p with
  | nil =>
    obtain ⟨-, rfl⟩ := Prod.mk.inj h
    rfl
  | cons c members ih =>
    obtain ⟨d, image⟩ := c
    rw [List.cons_append]
    generalize hgoal : (p'.loadEach batch rest).value = goal
    rw [Progress.loadEach] at h ⊢
    subst hgoal
    cases hm : p.missingReference? d with
    | some name =>
      simp only [hm, Journaled.value_bind] at h ⊢
      exact ih h
    | none =>
      simp only [hm, Journaled.value_bind] at h ⊢
      cases hr : (p.loader.loadInspected d image batch).value.1 with
      | ok handle =>
        simp only [hr] at h ⊢
        exact ih h
      | error f =>
        simp only [hr] at h ⊢
        by_cases hfatal : f.isFatal = true
        · simp [hfatal] at h
        · rw [if_neg hfatal] at h ⊢
          exact ih h

/-- A report keeps what it has. -/
theorem skipped_loadEach (batch : List String) (members : List Candidate) (p : Progress) :
    p.skipped <+: (p.loadEach batch members).value.2.skipped := by
  rcases accounts_loadEach batch members p with
    ⟨-, modules, failed, h⟩ | ⟨before, c, rest, modules, failed, -, h, -⟩
  · rw [h.skipped]
    exact List.prefix_append ..
  · rw [h.skipped]
    exact List.prefix_append ..

end Progress

/-! ## What is missing at the turn of a candidate -/

namespace Loader

open Progress (missingReference? Records)

variable {l : Loader} {images : List Image} {k : Nat} {c : Candidate} {p : Progress}
  {outcomes : List Outcome} {name : String}

/-- What a batch knows when the turn of a candidate comes. It is done with those left over and with
those tried before it; the candidate is skipped for its first reference to a name that is missing,
and the registry knows such a name iff another candidate of the name was loaded all the same. -/
structure Judges (l : Loader) (images : List Image) (k : Nat) (c : Candidate) (p : Progress)
    (outcomes : List Outcome) : Prop where
  candidates : outcomes.map (·.candidate) = leftOver (l.inspector.candidates images) ++
    (tried (l.inspector.candidates images)).take k
  loaded : p.loaded = outcomes.filterMap Outcome.loaded?
  skipped : p.skipped = (l.inspector.refused images).map (Progress.showRefused l.inspector) ++
    outcomes.filterMap Outcome.skipped?
  missing : p.missingReference? c.1 = c.1.references.find? (l.lacks outcomes)
  reported : ∀ name report, p.missingReference? c.1 = some name →
    (l.loadBatch images).value.1 = .ok report →
      p.skipped ++ [⟨c.1.id, .link c.1.id (.dependencyNotLoaded name)⟩] <+: report.skipped
  known : ∀ name, p.missingReference? c.1 = some name →
    (p.loader.registry.knows name = true ↔
      ∃ t ∈ outcomes, t.isLoaded = true ∧ t.hasName name = true)
  apart : NamesApart (l.inspector.candidates images) →
    ∀ name, p.missingReference? c.1 = some name → p.loader.registry.knows name = false

/-- A batch whose candidate has a missing reference reports it, behind those skipped before. -/
theorem skipped_of_missingReference (hs : l.clock.Sound) (h : l.turn? images k = some (c, p))
    (hname : p.missingReference? c.1 = some name) {report : BatchReport}
    (hreport : (l.loadBatch images).value.1 = .ok report) :
    p.skipped ++ [⟨c.1.id, .link c.1.id (.dependencyNotLoaded name)⟩] <+: report.skipped := by
  unfold turn? at h
  split at h
  case h_2 => cases h
  case h_1 u q hvalue =>
    obtain ⟨c', hc', heq⟩ := Option.map_eq_some_iff.mp h
    obtain ⟨rfl, rfl⟩ := Prod.mk.inj heq
    obtain ⟨hlt, hget⟩ := List.getElem?_eq_some_iff.mp hc'
    -- The batch goes on from here, and skips the candidate.
    obtain ⟨rest, hrest⟩ : ∃ rest, tried (l.inspector.candidates images) =
        (tried (l.inspector.candidates images)).take k ++ c' :: rest := by
      refine ⟨(tried (l.inspector.candidates images)).drop (k + 1), ?_⟩
      rw [← hget, ← List.drop_eq_getElem_cons hlt, List.take_append_drop]
    have hattempt : l.attempt images =
        ((q.skip c'.1.id c'.1 (.link c'.1.id (.dependencyNotLoaded name))).loadEach
          ((l.described images).flatMap (·.names)) rest).value := by
      unfold attempt
      rw [hrest, Progress.loadEach_append hvalue, Progress.loadEach]
      simp only [hname, Journaled.value_bind]
    rw [value_loadBatch hs, hattempt] at hreport
    generalize hanswer : ((q.skip _ _ _).loadEach _ _).value = answer at hreport
    have hkept := Progress.skipped_loadEach ((l.described images).flatMap (·.names)) rest
      (q.skip c'.1.id c'.1 (.link c'.1.id (.dependencyNotLoaded name)))
    rw [hanswer] at hkept
    obtain ⟨_ | _, final⟩ := answer
    · cases hreport
    · obtain rfl := Except.ok.inj hreport
      exact hkept

/-- The candidates with which a batch is done when it comes to another one. -/
theorem exists_records_of_turn? (h : l.turn? images k = some (c, p)) :
    (tried (l.inspector.candidates images))[k]? = some c ∧ ∃ outcomes : List Outcome,
      outcomes.map (·.candidate) = leftOver (l.inspector.candidates images) ++
        (tried (l.inspector.candidates images)).take k ∧
      Records l ((l.inspector.refused images).map (Progress.showRefused l.inspector)) outcomes
        p := by
  unfold turn? at h
  split at h
  case h_2 => cases h
  case h_1 u q hvalue =>
    obtain ⟨c', hc', heq⟩ := Option.map_eq_some_iff.mp h
    obtain ⟨rfl, rfl⟩ := Prod.mk.inj heq
    obtain ⟨later, hlater, hrecords⟩ := (Records.prepared l images).loadEach hvalue
    exact ⟨hc', _, by simp [hlater, Function.comp_def], hrecords⟩

/-- A missing name is that of a candidate that was not loaded, and nobody had it before. -/
theorem exists_of_lacks (h : l.lacks outcomes name = true) :
    l.registry.knows name = false ∧
      ∃ t ∈ outcomes, t.isLoaded = false ∧ t.hasName name = true := by
  unfold lacks at h
  obtain ⟨hunknown, hfirst⟩ := Bool.and_eq_true_iff.mp h
  obtain ⟨t, ht, hfailed⟩ := (Option.any_eq_true _ _).mp hfirst
  have hname := List.find?_some ht
  exact ⟨by simpa using hunknown, t, List.mem_of_find?_eq_some ht, by simpa using hfailed, hname⟩

/-- Where no two candidates share a name, a batch is done with one candidate of a name at most. -/
theorem eq_of_hasName (hapart : NamesApart (l.inspector.candidates images))
    (houtcomes : outcomes.map (·.candidate) = leftOver (l.inspector.candidates images) ++
      (tried (l.inspector.candidates images)).take k)
    {t t' : Outcome} (ht : t ∈ outcomes) (ht' : t' ∈ outcomes) (hname : t.hasName name = true)
    (hname' : t'.hasName name = true) : t = t' := by
  have hall := List.perm_append_comm.trans
    (LoadOrder.perm_tried_leftOver (l.inspector.candidates images))
  have hsublist : (outcomes.map (·.candidate)).Sublist
      (leftOver (l.inspector.candidates images) ++ tried (l.inspector.candidates images)) := by
    rw [houtcomes]
    exact (List.take_sublist ..).append_left _
  have hnodup : (outcomes.map (·.candidate)).Nodup :=
    hsublist.nodup (hall.nodup_iff.mpr hapart.nodup)
  have hmem {t : Outcome} (ht : t ∈ outcomes) : t.candidate ∈ l.inspector.candidates images :=
    hall.subset (hsublist.subset (List.mem_map_of_mem ht))
  have hcandidate : t.candidate = t'.candidate :=
    hapart.eq (hmem ht) (hmem ht') ((Descriptor.isNamed_iff _ _).mp hname)
      ((Descriptor.isNamed_iff _ _).mp hname')
  exact List.inj_on_of_nodup_map hnodup ht ht' hcandidate

/-- Whatever was done before, each candidate of a batch is judged by what became of the first ones
that have the names to which it refers. -/
theorem judges_after (config : Config) (linkers : LinkerSequence) (ops : List Operation)
    (images : List Image) (k : Nat) (c : Candidate) (p : Progress)
    (h : (after config linkers ops).turn? images k = some (c, p)) :
    ∃ outcomes, (after config linkers ops).Judges images k c p outcomes := by
  have hclock := (invariant_after config linkers ops).sound
  generalize after config linkers ops = l at hclock h
  obtain ⟨-, outcomes, hcandidates, hrecords⟩ := exists_records_of_turn? h
  have hmissing : p.missingReference? c.1 = c.1.references.find? (l.lacks outcomes) := by
    unfold missingReference?
    exact List.find?_congr fun name _ => hrecords.missing name
  have hlacks {name : String} (hname : p.missingReference? c.1 = some name) :
      l.lacks outcomes name = true := List.find?_some (hmissing.symm.trans hname)
  have hknown {name : String} (hname : p.missingReference? c.1 = some name) :
      p.loader.registry.knows name = true ↔
        ∃ t ∈ outcomes, t.isLoaded = true ∧ t.hasName name = true := by
    obtain ⟨hunknown, -⟩ := exists_of_lacks (hlacks hname)
    rw [hrecords.knows, hunknown]
    simp
  refine ⟨outcomes, hcandidates, hrecords.loaded, hrecords.skipped, hmissing, ?_,
    fun _ => hknown, ?_⟩
  · intro name report hname hreport
    exact skipped_of_missingReference hclock h hname hreport
  · intro hapart name hname
    obtain ⟨-, t, ht, hfailed, htname⟩ := exists_of_lacks (hlacks hname)
    rw [Bool.eq_false_iff]
    intro hregistry
    obtain ⟨t', ht', hloaded, htname'⟩ := (hknown hname).mp hregistry
    obtain rfl := eq_of_hasName hapart hcandidates ht ht' htname htname'
    rw [hfailed] at hloaded
    cases hloaded

/-- The metadata of two modules with one id, and of a third one that refers to it. -/
def idSharers : List Metadata :=
  [renamed "A" "X", renamed "B" "X", { Metadata.named "Z" with references := ["X"] }]

/-- The batch of the three modules. -/
def sharedId : List Image :=
  idSharers.map .ofMetadata

/-- The third module is skipped because the first one with the id cannot be linked, although the
second one is loaded and the registry knows the id. -/
theorem judges_after_sharedId : ∃ c p outcomes,
    (after .default (Linker.bare ["B", "Z"]) []).turn? sharedId 2 = some (c, p) ∧
      c.1.id = "Z" ∧ p.missingReference? c.1 = some "X" ∧ p.loader.registry.knows "X" = true ∧
      (after .default (Linker.bare ["B", "Z"]) []).Judges sharedId 2 c p outcomes := by
  have hturn : ((after .default (Linker.bare ["B", "Z"]) []).turn? sharedId 2).map
      (fun (c, p) => (c.1.id, p.missingReference? c.1, p.loader.registry.knows "X")) =
        some ("Z", some "X", true) := by
    have hcandidates : (after .default (Linker.bare ["B", "Z"]) []).inspector.candidates
        sharedId = idSharers.filterMap Inspector.default.packed? := by
      rw [(frame_after _ _ _).2.1]
      exact Inspector.candidates_map_ofMetadata _ (by decide +kernel)
    have hall : (idSharers.filterMap Inspector.default.packed?).length = sharedId.length := by
      decide +kernel
    rw [turn?, Progress.prepared_of_candidates hcandidates hall, described, hcandidates, after_nil]
    decide +kernel
  obtain ⟨⟨c, p⟩, h, hat⟩ := Option.map_eq_some_iff.mp hturn
  obtain ⟨outcomes, hjudges⟩ :=
    judges_after .default (Linker.bare ["B", "Z"]) [] sharedId 2 c p h
  simp only [Prod.mk.injEq] at hat
  exact ⟨c, p, outcomes, h, hat.1, hat.2.1, hat.2.2, hjudges⟩

end Loader

end ModuleRuntime.Module
