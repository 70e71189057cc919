import Mathlib.Data.List.Nodup
import ModuleRuntime.Config

/-!
# Reading configurations back

A configuration is written as a JSON object with every field in it, and read as a draft, in which
every field may be missing. What is read of a written configuration leaves nothing open, so nothing
is filled in by a default: the configuration comes back as it was, unless the runtime cannot work
with it, and then the reading says why.
-/

set_option autoImplicit false

namespace ModuleRuntime

open Document (text? flag? texts? table?)

/-! ## Fields of records -/

namespace Record

variable {ν α : Type} {r : Record ν} {name : String} {v : ν} {decode : ν → Option α} {a : α}

/-- A field is found where no name stands twice. -/
theorem field?_eq_some (hnodup : (r.fields.map Prod.fst).Nodup) (h : (name, v) ∈ r.fields) :
    r.field? name = some v := by
  unfold field?
  rw [Option.map_eq_some_iff]
  cases hfind : r.fields.find? fun f => f.1 == name with
  | none => exact absurd (List.find?_eq_none.mp hfind _ h) (by simp)
  | some f =>
    have hname : f.1 = name := by simpa using List.find?_some hfind
    have hf : f ∈ r.fields := List.mem_of_find?_eq_some hfind
    exact ⟨f, rfl, by rw [List.inj_on_of_nodup_map hnodup hf h hname]⟩

/-- A field that has a value is decoded as that value. -/
theorem optional?_eq_some [Document ν] (h : r.field? name = some v)
    (hpresent : Document.present? v = some (some v)) (hdecode : decode v = some a) :
    r.optional? name decode = some (some a) := by
  unfold optional? Document.nullable?
  simp only [h, hpresent, Option.bind_eq_bind, Option.bind_some, hdecode, Option.map_some]

/-- A field that is there and can be decoded takes its value from there. -/
theorem default?_eq_some (h : r.field? name = some v) (hdecode : decode v = some a) (value : α) :
    r.default? name value decode = some a := by
  unfold default?
  simp only [h, hdecode]

end Record

/-! ## Written values -/

namespace Json

/-- An object all of whose members are known, none of them twice, is a record of them. -/
theorem record?_eq_some (names : List String) {members : List (String × Json)} {v : Json}
    (hv : v = object members) (hknown : ∀ m ∈ members, m.1 ∈ names)
    (hnodup : (members.map Prod.fst).Nodup) :
    ∃ r, Document.record? names v = some r ∧
      ∀ name w, (name, w) ∈ members → r.field? name = some w := by
  subst hv
  have hfilter : (members.filter fun m => names.contains m.1) = members :=
    List.filter_eq_self.mpr fun m hm => List.contains_iff_mem.mpr (hknown m hm)
  refine ⟨⟨members, true⟩, ?_, fun name w hmem => Record.field?_eq_some hnodup hmem⟩
  show record? names (object members) = _
  unfold record?
  simp only [hfilter, if_pos hnodup]

/-- A list of texts is read back. -/
theorem texts?_strings (items : List String) : texts? (strings items) = some items := by
  show (items.map string).mapM text? = some items
  induction items with
  | nil => rfl
  | cons s rest ih =>
    rw [List.map_cons, List.mapM_cons, ih]
    rfl

/-- A table of texts is read as it was written. -/
theorem table?_entries (d : Dictionary String String) :
    table? text? (object (d.mapValues fun _ s => string s).entries) = some d := by
  have hentries (l : List (String × String)) :
      (l.map fun e => (e.1, string e.2)).mapM (fun e => (text? e.2).map (e.1, ·)) = some l := by
    induction l with
    | nil => rfl
    | cons e rest ih =>
      rw [List.map_cons, List.mapM_cons, ih]
      rfl
  calc table? text? (object (d.mapValues fun _ s => string s).entries)
      = ((d.entries.map fun e => (e.1, string e.2)).mapM fun e => (text? e.2).map (e.1, ·)).bind
          fun entries => some (Dictionary.ofList entries) := rfl
    _ = some (Dictionary.ofList d.entries) := by rw [hentries]; rfl
    _ = some d := congrArg some (Dictionary.ext (Dictionary.entries_ofList d.nodup_keys))

end Json

/-! ## Log configurations -/

namespace Log.Config

/-- The draft of a configuration that leaves nothing open. -/
def draft (c : Config) : Draft :=
  ⟨some c.defaultLevel, some c.targetLevels, some c.consoleEnabled, some c.jsonConsole⟩

/-- A written configuration is read as a draft that leaves nothing open. -/
theorem decode?_toJson (c : Config) : Draft.decode? c.toJson = some c.draft := by
  obtain ⟨r, hrecord, hfield⟩ := Json.record?_eq_some Draft.fieldNames (v := c.toJson) rfl
    (by simp [Draft.fieldNames]) (by simp)
  have hdefault : r.optional? "default_level" text? = some (some c.defaultLevel) :=
    Record.optional?_eq_some (hfield _ (.string c.defaultLevel) (by simp)) rfl rfl
  have htargets : r.optional? "target_levels" (table? text?) = some (some c.targetLevels) :=
    Record.optional?_eq_some (hfield _ _ (by simp)) rfl (Json.table?_entries c.targetLevels)
  have hconsole : r.optional? "console_enabled" flag? = some (some c.consoleEnabled) :=
    Record.optional?_eq_some (hfield _ (.bool c.consoleEnabled) (by simp)) rfl rfl
  have hjson : r.optional? "json_format_console" flag? = some (some c.jsonConsole) :=
    Record.optional?_eq_some (hfield _ (.bool c.jsonConsole) (by simp)) rfl rfl
  unfold Draft.decode?
  simp only [hrecord, hdefault, htargets, hconsole, hjson, Option.bind_eq_bind, Option.bind_some]
  rfl

/-- A configuration is read back from the value that it is written as. -/
theorem ofJson_toJson (c : Config) : ofJson c.toJson = c := by
  unfold ofJson
  rw [decode?_toJson]
  rfl

end Log.Config

/-! ## Configurations -/

/-- A policy is read back from its name. -/
theorem SandboxPolicy.decode?_toJson (p : SandboxPolicy) : decode? p.toJson = some p := by
  obtain ⟨r, hrecord, hfield⟩ := Json.record?_eq_some ["allowed_references"] (v := p.toJson) rfl
    (by simp) (by simp)
  have hallowed : r.default? "allowed_references" [] texts? = some p.allowedReferences :=
    Record.default?_eq_some (hfield _ _ (by simp)) (Json.texts?_strings _) []
  unfold decode?
  simp only [hrecord, hallowed, Option.bind_eq_bind, Option.bind_some]

namespace Config

/-- The draft of a configuration that leaves nothing open. -/
def draft (c : Config) : Draft where
  contentPrefix := some c.contentPrefix
  sandboxing := some c.sandboxing
  liveReload := some c.liveReload
  isServer := some c.isServer
  coreModules := some c.coreModules
  sandbox := some c.sandbox
  log := some c.log.draft

/-- A written configuration is read as a draft that leaves nothing open. -/
theorem decode?_toJson (c : Config) : Draft.decode? c.toJson = some c.draft := by
  obtain ⟨r, hrecord, hfield⟩ := Json.record?_eq_some Draft.fieldNames (v := c.toJson) rfl
    (by simp [Draft.fieldNames]) (by simp)
  have hcontent : r.optional? "content_prefix" text? = some (some c.contentPrefix) :=
    Record.optional?_eq_some (hfield _ (.string c.contentPrefix) (by simp)) rfl rfl
  have hsandboxing : r.optional? "sandboxing_enabled" flag? = some (some c.sandboxing) :=
    Record.optional?_eq_some (hfield _ (.bool c.sandboxing) (by simp)) rfl rfl
  have hreload : r.optional? "live_reload_enabled" flag? = some (some c.liveReload) :=
    Record.optional?_eq_some (hfield _ (.bool c.liveReload) (by simp)) rfl rfl
  have hserver : r.optional? "is_server" flag? = some (some c.isServer) :=
    Record.optional?_eq_some (hfield _ (.bool c.isServer) (by simp)) rfl rfl
  have hcore : r.optional? "core_modules" texts? = some (some c.coreModules) :=
    Record.optional?_eq_some (hfield _ _ (by simp)) rfl (Json.texts?_strings c.coreModules)
  have hsandbox : r.optional? "sandbox" SandboxPolicy.decode? = some (some c.sandbox) :=
    Record.optional?_eq_some (hfield _ c.sandbox.toJson (by simp)) rfl c.sandbox.decode?_toJson
  have hlog : r.optional? "log" Log.Config.Draft.decode? = some (some c.log.draft) :=
    Record.optional?_eq_some (hfield _ c.log.toJson (by simp)) rfl c.log.decode?_toJson
  unfold Draft.decode?
  simp only [hrecord, hcontent, hsandboxing, hreload, hserver, hcore, hsandbox, hlog,
    Option.bind_eq_bind, Option.bind_some]
  rfl

/-- What is read of a written configuration is checked like the configuration itself. -/
theorem ofJson_toJson (c : Config) : ofJson c.toJson = c.validated := by
  unfold ofJson
  rw [decode?_toJson]
  rfl

/-- The runtime can work with a configuration: the texts that may not be empty are not. -/
structure IsUsable (c : Config) : Prop where
  contentPrefix : c.contentPrefix ≠ ""
  coreModules : "" ∉ c.coreModules

/-- Why the runtime cannot work with a configuration. The prefix comes first, and then the first
core module that is the empty text. -/
inductive IsFault (c : Config) : Invalid → Prop where
  | contentPrefix (h : c.contentPrefix = "") : IsFault c .emptyContentPrefix
  | coreModule {index : Nat} (hcontent : c.contentPrefix ≠ "")
    (hindex : c.coreModules[index]? = some "") (hfirst : "" ∉ c.coreModules.take index) :
    IsFault c (.emptyCoreModule index)

variable {c : Config} {cause : Invalid}

/-- A configuration with a fault is not usable. -/
theorem IsFault.not_isUsable (h : c.IsFault cause) : ¬c.IsUsable := by
  intro husable
  cases h with
  | contentPrefix hempty => exact husable.contentPrefix hempty
  | coreModule _ hindex _ => exact husable.coreModules (List.mem_of_getElem? hindex)

/-- A search for the empty text stops at the first one. -/
theorem findIdx?_eq_some {l : List String} {index : Nat}
    (h : l.findIdx? (· = "") = some index) : l[index]? = some "" ∧ "" ∉ l.take index := by
  obtain ⟨hlt, hempty, hfirst⟩ := List.findIdx?_eq_some_iff_getElem.mp h
  refine ⟨List.getElem?_eq_some_iff.mpr ⟨hlt, of_decide_eq_true hempty⟩, fun hmem => ?_⟩
  obtain ⟨j, hj, hbefore⟩ := List.mem_take_iff_getElem.mp hmem
  exact hfirst j (by omega) (decide_eq_true hbefore)

/-- A configuration is accepted as it is, or refused with its fault. -/
theorem validated_cases (c : Config) : (c.IsUsable ∧ c.validated = .ok c) ∨
    ∃ cause, c.IsFault cause ∧ c.validated = .error (.invalid cause) := by
  unfold validated
  by_cases hcontent : c.contentPrefix = ""
  · rw [if_pos hcontent]
    exact .inr ⟨_, .contentPrefix hcontent, rfl⟩
  · rw [if_neg hcontent]
    cases hfind : c.coreModules.findIdx? (· = "") with
    | none =>
      refine .inl ⟨⟨hcontent, fun hmem => ?_⟩, rfl⟩
      exact of_decide_eq_false (List.findIdx?_eq_none_iff.mp hfind "" hmem) rfl
    | some index =>
      obtain ⟨hindex, hfirst⟩ := findIdx?_eq_some hfind
      exact .inr ⟨_, .coreModule hcontent hindex hfirst, rfl⟩

/-- A written configuration is read back as it was exactly if the runtime can work with it, and is
refused as invalid, with its fault, exactly if not. A log configuration is always read back as it
was, and no default has a part in it. -/
theorem reads_written_config (c : Config) (l : Log.Config) :
    (ofJson c.toJson = .ok c ↔ c.IsUsable) ∧
      ((∃ cause, ofJson c.toJson = .error (.invalid cause) ∧ c.IsFault cause ∧
        (Error.invalid cause).report.kind = "Validation") ↔ ¬c.IsUsable) ∧
      Log.Config.ofJson l.toJson = l ∧ Log.Config.Draft.decode? l.toJson = some l.draft := by
  refine ⟨?_, ?_, l.ofJson_toJson, l.decode?_toJson⟩
  all_goals rw [ofJson_toJson]
  · rcases c.validated_cases with ⟨husable, hok⟩ | ⟨cause, hfault, herror⟩
    · exact iff_of_true hok husable
    · rw [herror]
      exact iff_of_false (fun h => nomatch h) hfault.not_isUsable
  · rcases c.validated_cases with ⟨husable, hok⟩ | ⟨cause, hfault, herror⟩
    · rw [hok]
      exact iff_of_false (fun ⟨_, h, _⟩ => nomatch h) (not_not_intro husable)
    · exact iff_of_true ⟨cause, herror, hfault, rfl⟩ hfault.not_isUsable

end Config

end ModuleRuntime
