import ModuleRuntime.Proofs.Loading.Addition
import ModuleRuntime.Proofs.Reload.Ending

/-!
# A failed load leaves no trace

By the time a linker refuses a module, its claim stands in the registry and its id in a context, and
an inspection has been opened and closed. All of this is undone: after a load that fails, for
whatever reason, the loader is the same as before. Only the linkers cannot take back the calls that
they have answered.
-/

set_option autoImplicit false

namespace ModuleRuntime.Module

open Journaled (Meets)

open Activity (IsLogged isLogged_logged)

/-- The context is the same as before, but for the calls that its linkers have answered. -/
def Context.SameButCalls (c c' : Context) : Prop :=
  ∃ later, c.linkers.IsLater later ∧ c' = { c with linkers := later }

/-- A context to which no module was added is the same but for the calls of the linkers. -/
theorem Context.Adds.sameButCalls {c c' : Context} (h : c.Adds [] c') : c.SameButCalls c' :=
  ⟨_, h.linkers, h.eq⟩

namespace Loader

variable {l : Loader} {d : Descriptor} {image : Image} {e : Error}

/-- The loader is the same as before, but for the calls that its linkers have answered. -/
def SameButCalls (l l' : Loader) : Prop :=
  ∃ static dynamic, l.staticContext.linkers.IsLater static ∧
    l.dynamicContext.linkers.IsLater dynamic ∧
    l' = { l with
      staticContext := { l.staticContext with linkers := static }
      dynamicContext := { l.dynamicContext with linkers := dynamic } }

/-- A loader to which no module was added is the same but for the calls of the linkers. -/
theorem Adds.sameButCalls {l' : Loader} (h : l.Adds [] l') : l.SameButCalls l' :=
  ⟨_, _, (h.context false).linkers, (h.context true).linkers, h.eq⟩

/-- With a sound clock, an inspection answers what the inspector makes of the image, and changes
nothing. -/
theorem meets_inspect_same (hs : l.clock.Sound) (image : Image) :
    (l.inspect image).Meets IsLogged
      fun a => a = (l.inspector.verdict image, l) := by
  have hgauge : (l.inspector.inspect l.gauge image).value.2 = l.gauge := by
    have hrelease :
        (l.inspector.inspect l.gauge image).value.2 = l.gauge.acquire.release.value := by
      unfold Inspector.inspect
      cases l.inspector.describe image <;> rfl
    exact hrelease.trans (Gauge.value_release_acquire hs.openCount_ne_zero)
  refine ⟨?_, Prod.ext (value_inspect l image) ?_⟩
  · intro a ha
    unfold inspect at ha
    simp only [Journaled.journal_bind, Journaled.journal_mapJournal, Journaled.journal_pure,
      List.append_nil, List.mem_map] at ha
    obtain ⟨entry, -, rfl⟩ := ha
    exact isLogged_logged entry
  · show { l with gauge := (l.inspector.inspect l.gauge image).value.2 } = l
    rw [hgauge]

/-- What a load answers when trying its module has come to something. -/
def answer : Except LoadFailure Handle × Loader → Result Handle × Loader
  | (r, l) => (r.mapError (·.error), l)

/-- A load tries the module of the image, with no batch around it. -/
theorem value_load_of_verdict (hs : l.clock.Sound) (hd : l.inspector.verdict image = .ok d) :
    (l.load image).value = answer (l.loadInspected d image []).value := by
  have hinspect : (l.inspect image).value = (.ok d, l) := by
    rw [← hd]
    exact (meets_inspect_same hs image).value
  unfold load
  rw [Journaled.value_bind, hinspect]
  rfl

/-- A load fails with what the inspector has against the image. -/
theorem value_load_of_refusal (hs : l.clock.Sound) (he : l.inspector.verdict image = .error e) :
    (l.load image).value = (.error e, l) := by
  have hinspect : (l.inspect image).value = (.error e, l) := by
    rw [← he]
    exact (meets_inspect_same hs image).value
  unfold load
  rw [Journaled.value_bind, hinspect]
  rfl

/-- A load that fails adds nothing and calls no hook. -/
theorem meets_load_of_error (hs : l.clock.Sound) (he : (l.load image).value.1 = .error e) :
    (l.load image).Meets IsLogged fun a => l.Adds [] a.2 := by
  refine (meets_inspect_same hs image).bind ?_
  rintro a rfl
  cases hd : l.inspector.verdict image with
  | error e => exact .pure .refl
  | ok d =>
    rw [value_load_of_verdict hs hd] at he
    change (l.loadInspected d image []).value.1.mapError (·.error) = .error e at he
    cases hf : l.objection? d image [] with
    | some f =>
      apply (meets_loadInspected_of_objection hf).bind
      intro a ha
      exact .pure ha.2
    | none =>
      rw [(adds_loadInspected hf).1] at he
      cases he

/-- A run of one load is the load. -/
theorem after_load (config : Config) (linkers : LinkerSequence) (image : Image) :
    after config linkers [.load image] = ((after config linkers []).load image).value.2 := rfl

/-- Whatever was done before, a load that fails leaves the loader as it was and calls no hook; the
same holds of every context. -/
theorem noTrace_after (config : Config) (linkers : LinkerSequence) (ops : List Operation) :
    (∀ image e, ((after config linkers ops).load image).value.1 = .error e →
      (after config linkers ops).SameButCalls ((after config linkers ops).load image).value.2 ∧
        ∀ a ∈ ((after config linkers ops).load image).journal, a.IsLogged) ∧
    ∀ (c : Context) d image e, (c.load d image).value.1 = .error e →
      c.SameButCalls (c.load d image).value.2 ∧ ∀ a ∈ (c.load d image).journal, a.IsLogged := by
  constructor
  · intro image e he
    have hclock := (invariant_after config linkers ops).sound
    have hload := meets_load_of_error hclock he
    exact ⟨hload.value.sameButCalls, hload.journal⟩
  · intro c d image e he
    rcases c.adds_load d image with ⟨-, -, hc, hlogged⟩ | ⟨hr, -⟩
    · exact ⟨hc.sameButCalls, hlogged⟩
    · exact nomatch he.symm.trans hr

/-- The image of a module `A`. -/
def moduleA : Image :=
  .ofMetadata (.named "A")

/-- What is known of the module `A`. -/
def descriptorA : Descriptor :=
  ⟨"A", "A", false, false, true, [], .empty, .release 1 0 0, none, moduleA.fingerprint, none⟩

/-- What the inspection of the image makes of it. -/
theorem verdict_moduleA : Inspector.default.verdict moduleA = .ok descriptorA := by
  have hlegible : Image.IsLegible (.named "A") := by decide +kernel
  rw [moduleA, Inspector.verdict_ofMetadata hlegible]
  rfl

/-- What is known of a module whose assembly no linker knows. -/
def unlinkable : Descriptor :=
  ⟨"B", "B", false, false, true, [], .empty, .release 1 0 0, none, "", none⟩

/-- A module that is loaded once more meets itself, and one that no linker knows is refused. -/
theorem noTrace_after_moduleA :
    (((after .default (Linker.bare ["A"]) [.load moduleA]).load moduleA).value.1 =
        .error (.conflict "A" (.identity "A" .staticLoaded)) ∧
      (after .default (Linker.bare ["A"]) [.load moduleA]).SameButCalls
        ((after .default (Linker.bare ["A"]) [.load moduleA]).load moduleA).value.2 ∧
      ∀ a ∈ ((after .default (Linker.bare ["A"]) [.load moduleA]).load moduleA).journal,
        a.IsLogged) ∧
    ((Context.new 0 "static" false (Linker.bare ["A"])).load unlinkable moduleA).value.1 =
        .error (.link "B" (.noManifest "B")) ∧
      (Context.new 0 "static" false (Linker.bare ["A"])).SameButCalls
        ((Context.new 0 "static" false (Linker.bare ["A"])).load unlinkable moduleA).value.2 ∧
      ∀ a ∈ ((Context.new 0 "static" false (Linker.bare ["A"])).load unlinkable moduleA).journal,
        a.IsLogged := by
  have hfirst : after .default (Linker.bare ["A"]) [.load moduleA] =
      ((new .default (Linker.bare ["A"])).loadInspected descriptorA moduleA []).value.2 := by
    rw [after_load, value_load_of_verdict (invariant_after .default (Linker.bare ["A"]) []).sound
      verdict_moduleA]
    rfl
  have htwice : ((after .default (Linker.bare ["A"]) [.load moduleA]).load moduleA).value.1 =
      .error (.conflict "A" (.identity "A" .staticLoaded)) := by
    have hsound := (invariant_after .default (Linker.bare ["A"]) [.load moduleA]).sound
    have hverdict : (after .default (Linker.bare ["A"]) [.load moduleA]).inspector.verdict moduleA =
        .ok descriptorA := by
      rw [(frame_after _ _ _).2.1]
      exact verdict_moduleA
    rw [value_load_of_verdict hsound hverdict, hfirst]
    decide +kernel
  have hlink : ((Context.new 0 "static" false (Linker.bare ["A"])).load unlinkable
      moduleA).value.1 = .error (.link "B" (.noManifest "B")) := rfl
  obtain ⟨hloader, hcontext⟩ := noTrace_after .default (Linker.bare ["A"]) [.load moduleA]
  exact ⟨⟨htwice, hloader moduleA _ htwice⟩, hlink, hcontext _ unlinkable moduleA _ hlink⟩

end Loader

end ModuleRuntime.Module
