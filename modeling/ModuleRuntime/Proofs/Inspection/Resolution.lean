import ModuleRuntime.Proofs.Failable
import ModuleRuntime.Proofs.Inspection.Refusal

/-!
# What metadata are resolved to

The metadata of an image are resolved or refused. They are resolved exactly if they are sound: the
assembly and every reference have names, the version can be read, no attribute has an empty type or
one that stands twice, and a declaration has only properties of the right kinds. The descriptor then
says what is declared, or what is the case for a module that declares nothing.
-/

set_option autoImplicit false

namespace ModuleRuntime.Module

/-! ## Properties -/

namespace Properties

variable {p : Properties} {key : String}

/-- The property of a name is a truth value, if there is one. -/
def MayHoldFlag (p : Properties) (key : String) : Prop :=
  ∀ value, p.find? key = some value → ∃ b, value = .flag b

/-- The property of a name is a text that is not empty, if there is one. -/
def MayHoldName (p : Properties) (key : String) : Prop :=
  ∀ value, p.find? key = some value → ∃ s, s ≠ "" ∧ value = .text s

/-- A flag is what the property says, or the default where there is none. -/
theorem flagOr_eq_ok_iff {default b : Bool} :
    p.flagOr key default = .ok b ↔ p.MayHoldFlag key ∧ b = (p.flag? key).getD default := by
  unfold flagOr flag? MayHoldFlag
  cases p.find? key with
  | none => simp [eq_comm]
  | some value =>
    cases value with
    | flag b' => simp [eq_comm]
    | _ => simp

/-- A truth value with the default `true` is `false` only where a property says so. -/
theorem flag?_getD_true_eq_false_iff :
    (p.flag? key).getD true = false ↔ p.find? key = some (.flag false) := by
  unfold flag?
  split
  next b hb => simp [hb]
  next hother =>
    constructor
    · rintro ⟨⟩
    · intro h
      exact absurd h (hother false)

/-- The properties of a declaration: a name as id, and truth values. -/
structure IsDeclaration (p : Properties) : Prop where
  id : p.MayHoldName "id"
  isContent : p.MayHoldFlag "is_content_assembly"
  supportsReload : p.MayHoldFlag "supports_live_reloading"
  isSandboxed : p.MayHoldFlag "is_sandboxed"

end Properties

namespace Declaration

variable {p : Properties}

/-- The declared id is the text of the property, if that is there. -/
theorem idOf_eq_ok_iff {id : Option String} :
    idOf p = .ok id ↔ p.MayHoldName "id" ∧ id = p.text? "id" := by
  unfold idOf Properties.text? Properties.MayHoldName
  cases p.find? "id" with
  | none => simp [eq_comm]
  | some value =>
    cases value with
    | text s =>
      by_cases hs : s = ""
      · simp [hs]
      · simp [hs, eq_comm]
    | _ => simp

/-- Properties hold a declaration exactly if each is of its kind; what is not there has its
default. -/
theorem ofProperties_eq_ok_iff {d : Declaration} :
    ofProperties p = .ok d ↔ p.IsDeclaration ∧
      d = ⟨p.text? "id", (p.flag? "is_content_assembly").getD true,
        (p.flag? "supports_live_reloading").getD false, (p.flag? "is_sandboxed").getD true⟩ := by
  unfold ofProperties
  simp only [bind_eq_ok_iff, idOf_eq_ok_iff, Properties.flagOr_eq_ok_iff]
  constructor
  · rintro ⟨_, ⟨hid, rfl⟩, _, ⟨hcontent, rfl⟩, _, ⟨hreload, rfl⟩, _, ⟨hsandboxed, rfl⟩, ⟨⟩⟩
    exact ⟨⟨hid, hcontent, hreload, hsandboxed⟩, rfl⟩
  · rintro ⟨⟨hid, hcontent, hreload, hsandboxed⟩, rfl⟩
    exact ⟨_, ⟨hid, rfl⟩, _, ⟨hcontent, rfl⟩, _, ⟨hreload, rfl⟩, _, ⟨hsandboxed, rfl⟩, rfl⟩

end Declaration

/-! ## Attributes -/

namespace Attribute

variable {attributes : List Attribute} {t t' : Dictionary String Properties} {a : Attribute}

/-- The table with one more attribute. -/
def enter (t : Dictionary String Properties) (a : Attribute) :
    Except Invalid (Dictionary String Properties) :=
  if a.type = "" then .error .emptyAttributeType
  else if t.contains a.type then .error (.repeatedAttribute a.type)
  else .ok (t.put a.type a.properties)

/-- An attribute is entered exactly if its type has a name that is not in the table. -/
theorem enter_eq_ok_iff : enter t a = .ok t' ↔
    a.type ≠ "" ∧ a.type ∉ t.keys ∧ t' = t.put a.type a.properties := by
  unfold enter
  by_cases hempty : a.type = ""
  · simp [hempty]
  · by_cases hknown : a.type ∈ t.keys
    · simp [hempty, hknown, (Dictionary.contains_iff t a.type).mpr hknown]
    · have hnew : t.contains a.type = false := by
        rwa [← Bool.not_eq_true, Dictionary.contains_iff]
      simp [hempty, hknown, hnew, eq_comm]

/-- Attributes are entered one after the other exactly if all their types have names, and no two of
them the same, nor one that is in the table. -/
theorem foldlM_enter_eq_ok_iff : attributes.foldlM enter t = .ok t' ↔
    (∀ a ∈ attributes, a.type ≠ "" ∧ a.type ∉ t.keys) ∧ (attributes.map (·.type)).Nodup ∧
      t'.entries = t.entries ++ attributes.map fun a => (a.type, a.properties) := by
  induction attributes generalizing t with
  | nil =>
    simp only [List.foldlM_nil, List.map_nil, List.append_nil, List.not_mem_nil, false_implies,
      implies_true, List.nodup_nil, true_and]
    constructor
    · rintro ⟨⟩
      rfl
    · intro h
      exact congrArg Except.ok (Dictionary.ext h).symm
  | cons a rest ih =>
    simp only [List.foldlM_cons, bind_eq_ok_iff, enter_eq_ok_iff, ih, List.map_cons,
      List.nodup_cons, List.forall_mem_cons]
    constructor
    · rintro ⟨_, ⟨hname, hnew, rfl⟩, hrest, hnodup, hentries⟩
      rw [Dictionary.keys_put, if_neg hnew] at hrest
      rw [Dictionary.entries_put_of_not_mem hnew] at hentries
      refine ⟨⟨⟨hname, hnew⟩, fun b hb => ?_⟩, ⟨fun hmem => ?_, hnodup⟩, ?_⟩
      · exact ⟨(hrest b hb).1, fun hk => (hrest b hb).2 (List.mem_append_left _ hk)⟩
      · obtain ⟨b, hb, htype⟩ := List.mem_map.mp hmem
        exact (hrest b hb).2 (List.mem_append_right _ (List.mem_singleton.mpr htype))
      · rw [hentries, List.append_assoc, List.singleton_append]
    · rintro ⟨⟨⟨hname, hnew⟩, hrest⟩, ⟨hother, hnodup⟩, hentries⟩
      refine ⟨_, ⟨hname, hnew, rfl⟩, fun b hb => ⟨(hrest b hb).1, fun hk => ?_⟩, hnodup, ?_⟩
      · rw [Dictionary.keys_put, if_neg hnew, List.mem_append, List.mem_singleton] at hk
        rcases hk with hk | hk
        · exact (hrest b hb).2 hk
        · exact hother (List.mem_map.mpr ⟨b, hb, hk⟩)
      · rw [hentries, Dictionary.entries_put_of_not_mem hnew, List.append_assoc,
          List.singleton_append]

/-- Attributes have a table exactly if all their types have names, and no two of them the same. -/
theorem table_eq_ok_iff : table attributes = .ok t ↔
    (∀ a ∈ attributes, a.type ≠ "") ∧ (attributes.map (·.type)).Nodup ∧
      t.entries = attributes.map fun a => (a.type, a.properties) := by
  rw [show table attributes = attributes.foldlM enter Dictionary.empty from rfl,
    foldlM_enter_eq_ok_iff]
  simp [Dictionary.empty, Dictionary.keys]

/-- The table gives each type the properties that stand with it. -/
theorem find?_table_eq_some_iff (h : table attributes = .ok t) {type : String} {p : Properties} :
    t.find? type = some p ↔ ⟨type, p⟩ ∈ attributes := by
  obtain ⟨-, -, hentries⟩ := table_eq_ok_iff.mp h
  rw [← Dictionary.mem_entries_iff, hentries, List.mem_map]
  constructor
  · rintro ⟨⟨_, _⟩, hmem, ⟨⟩⟩
    exact hmem
  · intro hmem
    exact ⟨_, hmem, rfl⟩

end Attribute

/-! ## Metadata -/

namespace Metadata

/-- There is an attribute of a type, with these properties. -/
def Carries (m : Metadata) (type : String) (p : Properties) : Prop :=
  ⟨type, p⟩ ∈ m.attributes

/-- Everything that is checked of metadata. -/
structure IsSound (m : Metadata) : Prop where
  assembly : Text.trim m.assembly ≠ ""
  version : ∃ v, Version.parse m.version = .ok v
  types : ∀ a ∈ m.attributes, a.type ≠ ""
  distinct : (m.attributes.map (·.type)).Nodup
  references : ∀ r ∈ m.references, Text.trim r ≠ ""
  declaration : ∀ p, m.Carries Declaration.type p → p.IsDeclaration

end Metadata

/-! ## Descriptors -/

namespace Inspector

variable {i : Inspector} {image : Image} {m : Metadata} {assembly : String} {version : Version}
  {t : Dictionary String Properties} {declaration : Declaration} {d : Descriptor}

/-- A declaration is what the properties say, or that of a module that declares nothing. -/
theorem declarationOf_eq_ok_iff : i.declarationOf assembly t = .ok declaration ↔
    (∃ p, t.find? Declaration.type = some p ∧ Declaration.ofProperties p = .ok declaration) ∨
      t.find? Declaration.type = none ∧ declaration = i.undeclared assembly := by
  unfold declarationOf
  cases t.find? Declaration.type with
  | none => simp [eq_comm]
  | some p => simp

/-- Metadata are identified exactly if everything that is checked of them is right. -/
theorem identify_eq_ok_iff : i.identify m = .ok (assembly, version, t, declaration) ↔
    Text.trim m.assembly ≠ "" ∧ Version.parse m.version = .ok version ∧
      Attribute.table m.attributes = .ok t ∧ (∀ r ∈ m.references, Text.trim r ≠ "") ∧
      assembly = Text.trim m.assembly ∧ i.declarationOf assembly t = .ok declaration := by
  have hnamed : (m.references.any fun r => Text.trim r == "") = true ↔
      ¬∀ r ∈ m.references, Text.trim r ≠ "" := by simp
  unfold identify Metadata.attributeTable
  simp only [unless_eq_ok_iff, bind_eq_ok_iff, mapError_eq_ok_iff, hnamed, Decidable.not_not]
  constructor
  · rintro ⟨hassembly, _, hversion, _, htable, hreferences, _, hdeclaration, ⟨⟩⟩
    exact ⟨hassembly, hversion, htable, hreferences, rfl, hdeclaration⟩
  · rintro ⟨hassembly, hversion, htable, hreferences, rfl, hdeclaration⟩
    exact ⟨hassembly, _, hversion, _, htable, hreferences, _, hdeclaration, rfl⟩

/-- Metadata are identified in some way exactly if they are sound. -/
theorem exists_identify_iff : (∃ identity, i.identify m = .ok identity) ↔ m.IsSound := by
  constructor
  · rintro ⟨⟨assembly, version, t, declaration⟩, h⟩
    obtain ⟨hassembly, hversion, htable, hreferences, -, hdeclaration⟩ := identify_eq_ok_iff.mp h
    obtain ⟨htypes, hdistinct, -⟩ := Attribute.table_eq_ok_iff.mp htable
    refine ⟨hassembly, ⟨version, hversion⟩, htypes, hdistinct, hreferences, fun p hp => ?_⟩
    have hfind := (Attribute.find?_table_eq_some_iff htable).mpr hp
    rcases declarationOf_eq_ok_iff.mp hdeclaration with ⟨p', hp', hholds⟩ | ⟨hnone, -⟩
    · obtain rfl := Option.some.inj (hfind.symm.trans hp')
      exact (Declaration.ofProperties_eq_ok_iff.mp hholds).1
    · cases hfind.symm.trans hnone
  · rintro ⟨hassembly, ⟨version, hversion⟩, htypes, hdistinct, hreferences, hdeclares⟩
    obtain ⟨t, htable⟩ : ∃ t, Attribute.table m.attributes = .ok t :=
      ⟨⟨m.attributes.map fun a => (a.type, a.properties), 
          by simpa [Function.comp_def] using hdistinct⟩,
        Attribute.table_eq_ok_iff.mpr ⟨htypes, hdistinct, rfl⟩⟩
    obtain ⟨declaration, hdeclaration⟩ : ∃ declaration,
        i.declarationOf (Text.trim m.assembly) t = .ok declaration := by
      cases hfind : t.find? Declaration.type with
      | none => exact ⟨_, declarationOf_eq_ok_iff.mpr (.inr ⟨hfind, rfl⟩)⟩
      | some p =>
        have hp := hdeclares p ((Attribute.find?_table_eq_some_iff htable).mp hfind)
        exact ⟨_, declarationOf_eq_ok_iff.mpr
          (.inl ⟨p, hfind, Declaration.ofProperties_eq_ok_iff.mpr ⟨hp, rfl⟩⟩)⟩
    exact ⟨_, identify_eq_ok_iff.mpr
      ⟨hassembly, hversion, htable, hreferences, rfl, hdeclaration⟩⟩

/-- The descriptor of an image of which the metadata are identified. -/
def descriptorOf (i : Inspector) (image : Image) (m : Metadata) (assembly : String)
    (version : Version) (t : Dictionary String Properties) (declaration : Declaration) :
    Descriptor where
  assembly := assembly
  id := declaration.id.getD assembly
  isContent := declaration.isContent
  supportsReload := declaration.supportsReload
  isSandboxed :=
    (declaration.isSandboxed || i.forceSandbox) && !t.contains Declaration.unsandboxedType
  references := m.references
  attributes := t
  version := version
  library := m.library
  fingerprint := image.fingerprint
  path := image.path

/-- An inspection answers with the descriptor of what is identified. -/
theorem inspect_eq_ok_iff {g : Gauge} (h : image.metadata = .ok m) :
    (i.inspect g image).value.1 = .ok d ↔ ∃ assembly version t declaration,
      i.identify m = .ok (assembly, version, t, declaration) ∧
        d = i.descriptorOf image m assembly version t declaration := by
  rw [value_inspect_eq]
  unfold describe resolve
  simp only [map_eq_ok_iff, bind_eq_ok_iff, h, mapError_eq_ok_iff]
  constructor
  · rintro ⟨_, ⟨_, ⟨⟩, ⟨assembly, version, t, declaration⟩, hidentity, ⟨⟩⟩, rfl⟩
    exact ⟨_, _, _, _, hidentity, rfl⟩
  · rintro ⟨_, _, _, _, hidentity, rfl⟩
    exact ⟨_, ⟨_, rfl, _, hidentity, rfl⟩, rfl⟩

/-- The descriptor says of a module what the image and its metadata say, and what is the case where
they say nothing. -/
structure Resolves (i : Inspector) (image : Image) (m : Metadata) (d : Descriptor) : Prop where
  assembly : d.assembly = Text.trim m.assembly
  version : Version.parse m.version = .ok d.version
  hasId : d.id ≠ ""
  declared : ∀ p, m.Carries Declaration.type p →
    d.id = (p.text? "id").getD d.assembly ∧
      d.isContent = (p.flag? "is_content_assembly").getD true ∧
      d.supportsReload = (p.flag? "supports_live_reloading").getD false
  undeclared : (∀ p, ¬m.Carries Declaration.type p) →
    d.id = d.assembly ∧
      (d.isContent = true ↔ i.contentPrefix.toList <+: d.assembly.toList) ∧
      d.supportsReload = false
  unsandboxed : d.isSandboxed = false ↔
    (∃ p, m.Carries Declaration.unsandboxedType p) ∨
      (∃ p, m.Carries Declaration.type p ∧ p.find? "is_sandboxed" = some (.flag false)) ∧
        i.forceSandbox = false
  references : d.references = m.references
  attributes : ∀ type p, d.attributes.find? type = some p ↔ m.Carries type p
  library : d.library = m.library
  fingerprint : d.fingerprint = image.fingerprint
  path : d.path = image.path

/-- The id is the declared one, which is not empty, or that of the assembly. -/
theorem id_ne_empty (hassembly : assembly ≠ "")
    (hdeclaration : i.declarationOf assembly t = .ok declaration) :
    declaration.id.getD assembly ≠ "" := by
  rcases declarationOf_eq_ok_iff.mp hdeclaration with ⟨p, -, hp⟩ | ⟨-, rfl⟩
  · obtain ⟨hholds, rfl⟩ := Declaration.ofProperties_eq_ok_iff.mp hp
    show (p.text? "id").getD assembly ≠ ""
    unfold Properties.text?
    split
    next s hs =>
      obtain ⟨_, hname, ⟨⟩⟩ := hholds.id _ hs
      exact hname
    next => exact hassembly
  · exact hassembly

/-- A module is not sandboxed by its declaration only if one says so. -/
theorem isSandboxed_eq_false_iff (hdeclaration : i.declarationOf assembly t = .ok declaration) :
    declaration.isSandboxed = false ↔
      ∃ p, t.find? Declaration.type = some p ∧ p.find? "is_sandboxed" = some (.flag false) := by
  rcases declarationOf_eq_ok_iff.mp hdeclaration with ⟨p, hp, hholds⟩ | ⟨hnone, rfl⟩
  · obtain ⟨-, rfl⟩ := Declaration.ofProperties_eq_ok_iff.mp hholds
    show (p.flag? "is_sandboxed").getD true = false ↔ _
    rw [Properties.flag?_getD_true_eq_false_iff, hp]
    simp
  · rw [hnone]
    simp [undeclared]

/-- Metadata that are identified resolve to the descriptor. -/
theorem resolves_descriptorOf (h : i.identify m = .ok (assembly, version, t, declaration)) :
    i.Resolves image m (i.descriptorOf image m assembly version t declaration) := by
  obtain ⟨hassembly, hversion, htable, -, rfl, hdeclaration⟩ := identify_eq_ok_iff.mp h
  have hfind (type : String) (p : Properties) : t.find? type = some p ↔ m.Carries type p :=
    Attribute.find?_table_eq_some_iff htable
  have hmarked : t.contains Declaration.unsandboxedType = true ↔
      ∃ p, m.Carries Declaration.unsandboxedType p := by
    simp only [Dictionary.contains, Option.isSome_iff_exists, hfind]
  refine ⟨rfl, hversion, id_ne_empty hassembly hdeclaration, fun p hp => ?_, fun hnone => ?_, ?_,
    rfl, hfind, rfl, rfl, rfl⟩
  case refine_1 =>
    rcases declarationOf_eq_ok_iff.mp hdeclaration with ⟨p', hp', hholds⟩ | ⟨hnone, -⟩
    · obtain rfl := Option.some.inj (hp'.symm.trans ((hfind _ p).mpr hp))
      obtain ⟨-, rfl⟩ := Declaration.ofProperties_eq_ok_iff.mp hholds
      exact ⟨rfl, rfl, rfl⟩
    · cases hnone.symm.trans ((hfind _ p).mpr hp)
  case refine_2 =>
    rcases declarationOf_eq_ok_iff.mp hdeclaration with ⟨p, hp, -⟩ | ⟨-, rfl⟩
    · exact absurd ((hfind _ p).mp hp) (hnone p)
    · exact ⟨rfl, List.isPrefixOf_iff_prefix, rfl⟩
  case refine_3 =>
    show ((declaration.isSandboxed || i.forceSandbox) &&
      !t.contains Declaration.unsandboxedType) = false ↔ _
    rw [Bool.and_eq_false_iff, Bool.not_eq_false', hmarked, Bool.or_eq_false_iff,
      isSandboxed_eq_false_iff hdeclaration, or_comm]
    simp only [hfind]

/-- Metadata are resolved exactly if they are sound, and then the descriptor says what they do. -/
theorem resolves_metadata (i : Inspector) (g : Gauge) {image : Image} {m : Metadata}
    (h : image.metadata = .ok m) :
    ((∃ d, (i.inspect g image).value.1 = .ok d) ↔ m.IsSound) ∧
      ∀ d, (i.inspect g image).value.1 = .ok d → i.Resolves image m d := by
  constructor
  · rw [← i.exists_identify_iff]
    constructor
    · rintro ⟨d, hd⟩
      obtain ⟨_, _, _, _, hidentity, -⟩ := (inspect_eq_ok_iff h).mp hd
      exact ⟨_, hidentity⟩
    · rintro ⟨⟨assembly, version, t, declaration⟩, hidentity⟩
      exact ⟨_, (inspect_eq_ok_iff h).mpr ⟨_, _, _, _, hidentity, rfl⟩⟩
  · intro d hd
    obtain ⟨_, _, _, _, hidentity, rfl⟩ := (inspect_eq_ok_iff h).mp hd
    exact resolves_descriptorOf hidentity

/-- A declaration with an id of its own. -/
def core : Declaration :=
  ⟨some "core", false, true, true⟩

/-- The metadata of a module with blanks around the name of its assembly, that declares itself to be
sandboxed and carries the marker that takes it out. -/
def marked : Metadata where
  assembly := " Content.Core "
  version := "2.1.0-rc.1"
  references := ["Base"]
  library := none
  attributes := [core.asAttribute, ⟨Declaration.unsandboxedType, .empty⟩]

/-- The marked metadata are sound. -/
theorem isSound_marked : marked.IsSound where
  assembly := by decide +kernel
  version := ⟨⟨2, 1, 0, some "rc.1"⟩, by decide +kernel⟩
  types := by decide
  distinct := by decide
  references := by decide +kernel
  declaration := by
    have hdeclares : ∀ a ∈ marked.attributes, a.type = Declaration.type →
        Declaration.ofProperties a.properties = .ok core := by decide
    intro p hp
    exact (Declaration.ofProperties_eq_ok_iff.mp (hdeclares _ hp rfl)).1

/-- The marker counts also where every module is to be sandboxed. -/
theorem resolves_metadata_marked :
    (Image.ofMetadata marked).metadata = .ok marked ∧
      ∃ d, ((⟨"Content.", true⟩ : Inspector).inspect .idle (.ofMetadata marked)).value.1 = .ok d ∧
        Resolves ⟨"Content.", true⟩ (.ofMetadata marked) marked d ∧ d.isSandboxed = false := by
  have hlegible : Image.IsLegible marked := by decide +kernel
  have hmetadata : (Image.ofMetadata marked).metadata = .ok marked :=
    Image.metadata_ofMetadata hlegible
  obtain ⟨hresolved, hresolves⟩ := resolves_metadata ⟨"Content.", true⟩ .idle hmetadata
  obtain ⟨d, hd⟩ := hresolved.mpr isSound_marked
  have hmarker : marked.Carries Declaration.unsandboxedType .empty :=
    List.mem_cons_of_mem _ (List.mem_singleton_self _)
  exact ⟨hmetadata, d, hd, hresolves d hd, (hresolves d hd).unsandboxed.mpr (.inl ⟨_, hmarker⟩)⟩

end Inspector

end ModuleRuntime.Module
