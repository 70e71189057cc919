import ModuleRuntime.Document
import ModuleRuntime.Yaml.Node

/-!
# Decoding YAML

YAML nodes as documents. What a plain scalar means depends on what is asked for: any scalar is a
text, and where a list, a table or a record is due nothing at all is an empty one. Records are
mappings; of a name that stands twice neither is taken.
-/

set_option autoImplicit false

namespace ModuleRuntime.Yaml

/-- A node of a document, or nothing at all, with the anchored nodes that aliases stand for. -/
structure Value where
  node : Option Node
  anchored : List (Nat × Node)

namespace Value

/-- The value of a document. -/
def ofTree (t : Tree) : Value :=
  ⟨t.root, t.anchored⟩

/-- The node that an alias stands for; other nodes stand for themselves. -/
def resolved (v : Value) : Option Node :=
  match v.node with
  | some (.reference id) => (v.anchored.reverse.find? fun a => a.1 == id).map Prod.snd
  | n => n

/-- A node within the same document. -/
def within (v : Value) (n : Node) : Value :=
  ⟨some n, v.anchored⟩

/-- Whether a node is nothing at all. -/
def isVoid : Option Node → Bool
  | none => true
  | some (.scalar _ _ .plain "") => true
  | _ => false

/-- The words for null. -/
def isNullWord (s : String) : Bool :=
  ["null", "Null", "NULL", "~"].contains s

/-- The truth value of a word. -/
def flagOfWord? (s : String) : Option Bool :=
  if ["true", "True", "TRUE"].contains s then some true
  else if ["false", "False", "FALSE"].contains s then some false
  else none

/-- A value that may be null. Quotes or a tag other than that of null make a scalar a value. -/
def present? (v : Value) : Option (Option Value) :=
  match v.resolved with
  | none => some none
  | some (.scalar _ tag .plain s) =>
    match tag with
    | some "tag:yaml.org,2002:null" => if isNullWord s then some none else none
    | some _ => some (some v)
    | none => if s.isEmpty || isNullWord s then some none else some (some v)
  | some _ => some (some v)

/-- The text of a scalar. -/
def text? (v : Value) : Option String :=
  match v.resolved with
  | some (.scalar _ _ _ s) => some s
  | _ => none

/-- The truth value of a plain scalar, or of a literal block with the tag of truth values. -/
def flag? (v : Value) : Option Bool :=
  match v.resolved with
  | some (.scalar _ _ .plain s) => flagOfWord? s
  | some (.scalar _ (some "tag:yaml.org,2002:bool") .literal s) => flagOfWord? s
  | _ => none

/-- The items of a sequence. -/
def items? (v : Value) : Option (List Value) :=
  match v.resolved with
  | some (.sequence _ items) => some (items.map v.within)
  | n => if isVoid n then some [] else none

/-- The entries of a mapping whose keys are scalars. -/
def entries? (v : Value) : Option (List (String × Value)) :=
  match v.resolved with
  | some (.mapping _ pairs) =>
    pairs.mapM fun (key, value) => (v.within key).text?.map (·, v.within value)
  | n => if isVoid n then some [] else none

/-- The fields of a record. -/
def record? (names : List String) (v : Value) : Option (Record Value) := do
  let known := (← v.entries?).filter fun e => names.contains e.1
  if (known.map Prod.fst).Nodup then some ⟨known, true⟩ else none

instance : Document Value where
  present? := present?
  text? := text?
  flag? := flag?
  items? := items?
  entries? := entries?
  record? := record?

end Value

end ModuleRuntime.Yaml
