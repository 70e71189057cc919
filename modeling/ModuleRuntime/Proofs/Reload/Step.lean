import ModuleRuntime.Proofs.Loading.Growth

/-!
# One step of a reload

A reload tries every module that it has unloaded once, under the descriptor of the image that was
staged for it, or under its old one if there is no such image or the image is refused. A module that
is tried is either skipped, which changes no layout, or it is added.
-/

set_option autoImplicit false

namespace ModuleRuntime.Module

namespace Loader

namespace Layout

/-- The descriptor under which an unloaded module is tried again. -/
def trial (l : Layout) (u : Unloaded) : Descriptor :=
  match l.staged.find? u.descriptor.id with
  | none => u.descriptor
  | some image =>
    match l.inspector.describe image with
    | .ok (d, _) => d
    | .error _ => u.descriptor

/-- Whether the image that was staged for an unloaded module is refused. -/
def isRefused (l : Layout) (u : Unloaded) : Bool :=
  (l.staged.find? u.descriptor.id).any fun image => !(l.inspector.describe image).isOk

/-- The layout after the image that was staged for a module is taken. -/
def withoutStaged (l : Layout) (u : Unloaded) : Layout :=
  l.withStaged (l.staged.erase u.descriptor.id)

end Layout

/-- An inspection answers what the inspector makes of the image. -/
theorem value_inspect (l : Loader) (image : Image) :
    (l.inspect image).value.1 = (l.inspector.describe image).map Prod.fst := by
  unfold inspect Inspector.inspect
  cases l.inspector.describe image <;> rfl

/-- The image in whose place a module is loaded again decides under which descriptor it is tried. -/
theorem replacement_cases (l : Loader) (u : Unloaded) :
    (l.replacement u).value.2.layout = l.layout.withoutStaged u ∧
      (∀ d image, (l.replacement u).value.1 = .ok (d, image) → d = l.layout.trial u) ∧
      ∀ e, (l.replacement u).value.1 = .error e →
        l.layout.trial u = u.descriptor ∧ l.layout.isRefused u = true := by
  have hstaged : l.layout.staged = l.staged := rfl
  have hinspector : l.layout.inspector = l.inspector := rfl
  unfold replacement Layout.trial Layout.isRefused Layout.withoutStaged
  rw [hstaged, hinspector]
  cases hs : l.staged.find? u.descriptor.id with
  | none =>
    have hid : u.descriptor.id ∉ l.staged.keys :=
      (Dictionary.lookup_eq_none_iff _ l.staged.entries).mp hs
    refine ⟨?_, ?_, ?_⟩
    · rw [Dictionary.erase_of_not_mem hid]
      rfl
    · intro d image h
      simp only [Journaled.value_pure, Except.ok.injEq, Prod.mk.injEq] at h
      exact h.1.symm
    · intro e h
      simp only [Journaled.value_pure, reduceCtorEq] at h
  | some image =>
    simp only [Journaled.value_bind, Journaled.value_pure, value_inspect, layout_inspect]
    refine ⟨rfl, ?_, ?_⟩
    · intro d image' h
      cases hd : l.inspector.describe image with
      | error e => simp [hd, Except.map] at h
      | ok described =>
        simp only [hd, Except.map, Except.ok.injEq, Prod.mk.injEq] at h
        exact h.1.symm
    · intro e h
      cases hd : l.inspector.describe image with
      | error e => exact ⟨rfl, by simp [hd, Except.isOk, Except.toBool]⟩
      | ok described => simp [hd, Except.map] at h

end Loader

namespace Progress

open Loader (Layout)

variable {batch : List String} {p : Progress} {u : Unloaded} {taken : Loader} {d : Descriptor}
  {image : Image}

/-- A module whose staged image is refused is skipped under its old descriptor. -/
theorem reload_of_refused {e : Error} (h : (p.loader.replacement u).value = (.error e, taken)) :
    (p.reload batch u).value =
      ({ p with loader := taken }.skip u.descriptor.id u.descriptor e) := by
  unfold reload
  simp only [Journaled.value_bind, h]
  rfl

/-- A module that cannot be reloaded any more is skipped. -/
theorem reload_of_unsupported (h : (p.loader.replacement u).value = (.ok (d, image), taken))
    (hsupport : d.supportsReload = false) :
    (p.reload batch u).value =
      ({ p with loader := taken }.skip u.descriptor.id d (.invalid .reloadSupportLost)) := by
  unfold reload
  simp only [Journaled.value_bind, h, hsupport, Bool.not_false, if_true]
  rfl

/-- A module that refers to a missing name is skipped for the first such name. -/
theorem reload_of_missing {name : String}
    (h : (p.loader.replacement u).value = (.ok (d, image), taken))
    (hsupport : d.supportsReload = true) (hmissing : p.missingReference? d = some name) :
    (p.reload batch u).value = ({ p with loader := taken }.skip u.descriptor.id d
      (.link u.descriptor.id (.dependencyNotReloaded name))) := by
  have hsame : missingReference? { p with loader := taken } d = some name := hmissing
  unfold reload
  simp only [Journaled.value_bind, h, hsupport, Bool.not_true, Bool.false_eq_true, if_false, hsame]
  rfl

/-- Any other module is loaded. It is added under its old id, or skipped for what went wrong. -/
theorem reload_of_found (h : (p.loader.replacement u).value = (.ok (d, image), taken))
    (hsupport : d.supportsReload = true) (hmissing : p.missingReference? d = none) :
    (p.reload batch u).value =
      match (taken.loadInspected d image batch).value with
      | (.ok handle, l) => { p with loader := l }.addLoaded u.descriptor.id handle
      | (.error f, l) => { p with loader := l }.skip u.descriptor.id d f.error := by
  have hsame : missingReference? { p with loader := taken } d = none := hmissing
  unfold reload
  simp only [Journaled.value_bind, h, hsupport, Bool.not_true, Bool.false_eq_true, if_false, hsame]
  obtain ⟨r, l⟩ := (taken.loadInspected d image batch).value
  cases r <;> rfl

/-- A module that is tried again is either skipped, under the descriptor that was tried, or nothing
to which it refers is missing, its identities are free, and it is added. If something to which it
refers is missing, it is skipped for that, unless its image is refused or it cannot be reloaded any
more. -/
theorem reload_cases (batch : List String) (p : Progress) (u : Unloaded) :
    let d := p.loader.layout.trial u
    let l := p.loader.layout.withoutStaged u
    (∃ e l', (p.reload batch u).value = ({ p with loader := l' }.skip u.descriptor.id d e) ∧
        l'.layout = l ∧
        (p.loader.layout.isRefused u = false → d.supportsReload = true →
          ∀ name, p.missingReference? d = some name →
            e = .link u.descriptor.id (.dependencyNotReloaded name))) ∨
      ∃ image l',
        (p.reload batch u).value =
            ({ p with loader := l' }.addLoaded u.descriptor.id (l.nextHandle d)) ∧
          p.missingReference? d = none ∧ d.supportsReload = true ∧ l.Admits batch d ∧
          l.registry.conflict? d = none ∧ l'.layout = l.add d image := by
  intro d l
  obtain ⟨hlayout, hok, herror⟩ := p.loader.replacement_cases u
  cases hanswer : (p.loader.replacement u).value with
  | mk r taken =>
  rw [hanswer] at hlayout hok herror
  have hl : l = taken.layout := hlayout.symm
  cases r with
  | error e =>
    obtain ⟨hold, hrefused⟩ := herror e rfl
    have hd : d = u.descriptor := hold
    refine .inl ⟨e, taken, ?_, hlayout, fun h => ?_⟩
    · rw [hd]
      exact reload_of_refused hanswer
    · simp [hrefused] at h
  | ok found =>
    obtain ⟨d', image⟩ := found
    obtain rfl : d' = d := hok d' image rfl
    cases hsupport : d.supportsReload with
    | false => exact .inl ⟨_, taken, reload_of_unsupported hanswer hsupport, hlayout, nofun⟩
    | true =>
      cases hmissing : p.missingReference? d with
      | some name =>
        refine .inl ⟨_, taken, reload_of_missing hanswer hsupport hmissing, hlayout, ?_⟩
        intro _ _ found hfound
        rw [Option.some.inj hfound]
      | none =>
        have hvalue : (p.reload batch u).value = _ := reload_of_found hanswer hsupport hmissing
        have hload := taken.loadInspected_cases d image batch
        generalize (taken.loadInspected d image batch).value = loaded at hvalue hload
        obtain ⟨r, l'⟩ := loaded
        rcases hload with ⟨f, hr, hsame⟩ | ⟨hr, hadmits, hfree, hadded⟩
        · obtain rfl : r = .error f := hr
          exact .inl ⟨f.error, l', hvalue, hsame.trans hlayout, nofun⟩
        · obtain rfl : r = .ok _ := hr
          rw [hl]
          exact .inr ⟨image, l', hvalue, rfl, rfl, hadmits, hfree, hadded⟩

/-- A step of a reload lets the layout grow, up to what is staged. -/
theorem grown_reload (batch : List String) (p : Progress) (u : Unloaded) :
    (p.loader.layout.withStaged .empty).Grown
      ((p.reload batch u).value.loader.layout.withStaged .empty) := by
  rcases p.reload_cases batch u with
    ⟨e, l', hvalue, hl, -⟩ | ⟨image, l', hvalue, -, -, -, hfree, hl⟩
  · rw [hvalue, loader_skip, hl]
    exact .refl
  · rw [hvalue, loader_addLoaded, hl]
    exact .add _ image .refl hfree

/-- The steps of a reload let the layout grow, up to what is staged. -/
theorem grown_foldl_reload (batch : List String) (us : List Unloaded) (p : Progress) :
    (p.loader.layout.withStaged .empty).Grown
      ((us.foldl (fun p u => (p.reload batch u).value) p).loader.layout.withStaged .empty) := by
  induction us generalizing p with
  | nil => exact .refl
  | cons u rest ih => exact (p.grown_reload batch u).trans (ih (p.reload batch u).value)

end Progress

end ModuleRuntime.Module
