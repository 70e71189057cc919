import ModuleRuntime.Error
import ModuleRuntime.Json.Writer
import ModuleRuntime.Text.Quoted

/-!
# Attributes of modules

A module carries attributes, each a type with a bag of properties. One attribute says what the
module is for the runtime: its id, and whether it is content, can be reloaded and is sandboxed.
-/

set_option autoImplicit false

namespace ModuleRuntime.Module

/-- The value of a property. -/
inductive Property where
  | flag (b : Bool)
  | integer (n : Int)
  | float (x : Binary64)
  | text (s : String)
  | texts (items : List String)
  deriving DecidableEq

namespace Property

/-- Messages show numbers positionally from `10 ^ -4` up to below `10 ^ 16`, a tie goes up, and only
an exponent below zero has a sign. -/
def numberFormat : NumberFormat := ⟨-4, 15, .up, false⟩

/-- A value as messages show it. -/
def shown : Property → String
  | flag b => "Bool(" ++ (if b then "true" else "false") ++ ")"
  | integer n => "Integer(" ++ toString n ++ ")"
  | float x => "Float(" ++ numberFormat.write x ++ ")"
  | text s => "Text(" ++ Text.quoted s ++ ")"
  | texts items => "List([" ++ ", ".intercalate (items.map Text.quoted) ++ "])"

/-- The value of a JSON value. An integer beyond 64 bits with a sign is a float. -/
def ofJson? : Json → Option Property
  | .bool b => some (flag b)
  | .number (.integer n) =>
    if -2 ^ 63 ≤ n ∧ n < 2 ^ 63 then some (integer n)
    else (Binary64.ofFraction? (decide (n < 0)) n.natAbs 1).map float
  | .number (.binary x) => some (float x)
  | .string s => some (text s)
  | .array items => (items.mapM Json.text?).map texts
  | _ => none

/-- The value as JSON. -/
def toJson : Property → Json
  | flag b => .bool b
  | integer n => .integer n
  | float x => .number (.binary x)
  | text s => .string s
  | texts items => Json.strings items

end Property

/-- The properties of an attribute, by name. -/
abbrev Properties := Dictionary String Property

namespace Properties

/-- The property of a name, if it is a truth value. -/
def flag? (p : Properties) (key : String) : Option Bool :=
  match p.find? key with
  | some (.flag b) => some b
  | _ => none

/-- The property of a name, if it is a text. -/
def text? (p : Properties) (key : String) : Option String :=
  match p.find? key with
  | some (.text s) => some s
  | _ => none

/-- The property of a name, if it is an integer. -/
def integer? (p : Properties) (key : String) : Option Int :=
  match p.find? key with
  | some (.integer n) => some n
  | _ => none

/-- The property of a name, if it is a list of texts. -/
def texts? (p : Properties) (key : String) : Option (List String) :=
  match p.find? key with
  | some (.texts items) => some items
  | _ => none

/-- A truth value that has a default. -/
def flagOr (p : Properties) (key : String) (default : Bool) : Except Invalid Bool :=
  match p.find? key with
  | none => .ok default
  | some (.flag b) => .ok b
  | some other => .error (.propertyNoFlag key other.shown)

/-- The properties of a JSON object. -/
def ofJson? (v : Json) : Option Properties :=
  Document.table? Property.ofJson? v

/-- The properties as a JSON object. -/
def toJson (p : Properties) : Json :=
  .object (p.mapValues fun _ v => v.toJson).entries

/-- The properties in the order of their names. -/
def sorted (p : Properties) : List (String × Property) :=
  p.entries.mergeSort fun a b => decide (a.1 ≤ b.1)

end Properties

/-- An attribute: its type and its properties. -/
structure Attribute where
  type : String
  properties : Properties
  deriving DecidableEq

namespace Attribute

/-- The attribute of a JSON value. -/
def ofJson? (v : Json) : Option Attribute := do
  let r ← v.record? ["type", "properties"]
  some ⟨← r.required? "type" Json.text?,
    ← r.default? "properties" Dictionary.empty Properties.ofJson?⟩

/-- The attribute as JSON. -/
def toJson (a : Attribute) : Json :=
  .object [("type", .string a.type), ("properties", a.properties.toJson)]

/-- The properties of attributes by type. A type has a name and stands only once. -/
def table (attributes : List Attribute) : Except Invalid (Dictionary String Properties) :=
  attributes.foldlM (fun table a =>
    if a.type = "" then .error .emptyAttributeType
    else if table.contains a.type then .error (.repeatedAttribute a.type)
    else .ok (table.put a.type a.properties)) Dictionary.empty

end Attribute

/-- What a module declares itself to be. -/
structure Declaration where
  id : Option String
  isContent : Bool
  supportsReload : Bool
  isSandboxed : Bool
  deriving DecidableEq

namespace Declaration

/-- The type of the attribute that holds a declaration. -/
def type : String := "rtx.module"

/-- The type of the attribute that takes a module out of the sandbox, whatever it declares. -/
def unsandboxedType : String := "rtx.skip_if_sandboxed"

/-- A sandboxed content module under the name of its assembly, without live reload. -/
def default : Declaration :=
  ⟨none, true, false, true⟩

/-- The declared id, which may not be empty. -/
def idOf (p : Properties) : Except Invalid (Option String) :=
  match p.find? "id" with
  | none => .ok none
  | some (.text s) => if s = "" then .error .emptyDeclaredId else .ok (some s)
  | some other => .error (.declaredIdNoText other.shown)

/-- The declaration that properties hold. -/
def ofProperties (p : Properties) : Except Invalid Declaration := do
  let id ← idOf p
  let isContent ← p.flagOr "is_content_assembly" default.isContent
  let supportsReload ← p.flagOr "supports_live_reloading" default.supportsReload
  let isSandboxed ← p.flagOr "is_sandboxed" default.isSandboxed
  return ⟨id, isContent, supportsReload, isSandboxed⟩

/-- The attribute that holds a declaration. -/
def asAttribute (d : Declaration) : Attribute where
  type := type
  properties := Dictionary.ofList <| [
    ("is_content_assembly", .flag d.isContent),
    ("supports_live_reloading", .flag d.supportsReload),
    ("is_sandboxed", .flag d.isSandboxed)] ++ (d.id.map fun id => ("id", Property.text id)).toList

end Declaration

end ModuleRuntime.Module
