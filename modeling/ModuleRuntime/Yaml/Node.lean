import ModuleRuntime.Dictionary
import ModuleRuntime.Yaml.Token

/-!
# Nodes of YAML documents

The tree of a document. An anchor is known by a number, how many names had been anchored before it;
a name that is anchored again may so share its number with a later one, and the later node counts.
-/

set_option autoImplicit false

namespace ModuleRuntime.Yaml

/-- A node. An alias refers to an anchored node; both carry its number. -/
inductive Node where
  | scalar (anchor : Option Nat) (tag : Option String) (style : Style) (value : String)
  | sequence (anchor : Option Nat) (items : List Node)
  | mapping (anchor : Option Nat) (pairs : List (Node × Node))
  | reference (id : Nat)

namespace Node

/-- A scalar that is left out. -/
def absent : Node :=
  scalar none none .plain ""

/-- The number of the anchor of a node. -/
def anchor? : Node → Option Nat
  | scalar anchor .. => anchor
  | sequence anchor _ => anchor
  | mapping anchor _ => anchor
  | reference _ => none

/-- The anchored nodes of a tree, a node before those within it. -/
def anchored (n : Node) : List (Nat × Node) :=
  (n.anchor?.map (·, n)).toList ++
    match n with
    | sequence _ items => items.attach.flatMap fun ⟨item, _⟩ => item.anchored
    | mapping _ pairs =>
      pairs.attach.flatMap fun ⟨(key, value), _⟩ => key.anchored ++ value.anchored
    | _ => []
  termination_by sizeOf n
  decreasing_by
    all_goals simp_wf
    · rename_i h; have := List.sizeOf_lt_of_mem h; omega
    · rename_i h; have := List.sizeOf_lt_of_mem h; simp only [Prod.mk.sizeOf_spec] at this; omega
    · rename_i h; have := List.sizeOf_lt_of_mem h; simp only [Prod.mk.sizeOf_spec] at this; omega

end Node

/-- What is left of the tokens, the names that are anchored, and the handles of tags. -/
structure Source where
  tokens : List Token
  anchors : Dictionary String Nat
  handles : List (String × String)

/-- A step that reads a node or a part of one. -/
abbrev Reader := StateT Source Option

namespace Reader

/-- The next token. -/
def peek : Reader (Option Token) := do
  return (← get).tokens.head?

/-- Leaves the next token behind. -/
def next : Reader Unit :=
  modify fun s => { s with tokens := s.tokens.tail }

/-- Leaves the next token behind if it is the given one. -/
def take? (t : Token) : Reader Bool := do
  if (← peek) == some t then
    next
    return true
  else return false

/-- Whether the next token is one of the given ones. -/
def isNext (ts : List Token) : Reader Bool := do
  match ← peek with
  | some t => return ts.contains t
  | none => return false

/-- A name and its number, which the name has from now on. -/
def define (name : String) : Reader Nat := do
  let s ← get
  let id := s.anchors.size
  set { s with anchors := s.anchors.put name id }
  return id

/-- The tag of a handle and a suffix. -/
def resolve (handle suffix : String) : Reader String := do
  if handle.isEmpty then return suffix
  else
    match (← get).handles.find? fun h => h.1 == handle with
    | some (_, start) => return start ++ suffix
    | none => failure

/-- The anchor before a node. -/
def anchorName? : Reader (Option String) := do
  match ← peek with
  | some (.anchor name) => do next; return some name
  | _ => return none

/-- The tag before a node. -/
def tagParts? : Reader (Option (String × String)) := do
  match ← peek with
  | some (.tag handle suffix) => do next; return some (handle, suffix)
  | _ => return none

/-- The anchor and the tag before a node, in either order. -/
def properties : Reader (Option Nat × Option String) := do
  let name ← anchorName?
  let parts ← tagParts?
  let name ← if name.isNone && parts.isSome then anchorName? else pure name
  let tag ←
    match parts with
    | some (handle, suffix) => some <$> resolve handle suffix
    | none => pure none
  let anchor ←
    match name with
    | some name => some <$> define name
    | none => pure none
  return (anchor, tag)

mutual

/-- A node. Block collections are read where `block` holds, and a sequence may stand at the
indentation of the mapping around it where `indentless` holds. -/
def node (fuel : Nat) (block indentless : Bool) : Reader Node :=
  match fuel with
  | 0 => failure
  | fuel + 1 => do
    match ← peek with
    | some (.reference name) => do
      next
      match (← get).anchors.find? name with
      | some id => return .reference id
      | none => failure
    | _ => do
      let (anchor, tag) ← properties
      match ← peek with
      | some .blockEntry =>
        if indentless then return .sequence anchor (← indentlessItems fuel)
        else if anchor.isSome || tag.isSome then return .scalar anchor tag .plain ""
        else failure
      | some (.scalar style value) => do
        next
        return .scalar anchor tag style value
      | some .flowSequence => do
        next
        return .sequence anchor (← flowItems fuel true)
      | some .flowMapping => do
        next
        return .mapping anchor (← flowPairs fuel true)
      | t =>
        if block && t == some .blockSequence then do
          next
          return .sequence anchor (← blockItems fuel)
        else if block && t == some .blockMapping then do
          next
          return .mapping anchor (← blockPairs fuel)
        else if anchor.isSome || tag.isSome then return .scalar anchor tag .plain ""
        else failure

/-- A node, or the absent one before one of the given tokens. -/
def nodeUnless (fuel : Nat) (block indentless : Bool) (ends : List Token) : Reader Node :=
  match fuel with
  | 0 => failure
  | fuel + 1 => do
    if ← isNext ends then return .absent else node fuel block indentless

/-- The items of a block sequence. -/
def blockItems (fuel : Nat) : Reader (List Node) :=
  match fuel with
  | 0 => failure
  | fuel + 1 => do
    if ← take? .blockEntry then
      let item ← nodeUnless fuel true false [.blockEntry, .blockEnd]
      return item :: (← blockItems fuel)
    else if ← take? .blockEnd then return []
    else failure

/-- The items of a sequence at the indentation of the mapping around it. -/
def indentlessItems (fuel : Nat) : Reader (List Node) :=
  match fuel with
  | 0 => failure
  | fuel + 1 => do
    if ← take? .blockEntry then
      let item ← nodeUnless fuel true false [.blockEntry, .key, .value, .blockEnd]
      return item :: (← indentlessItems fuel)
    else return []

/-- The pairs of a block mapping. -/
def blockPairs (fuel : Nat) : Reader (List (Node × Node)) :=
  match fuel with
  | 0 => failure
  | fuel + 1 => do
    if ← take? .key then
      let key ← nodeUnless fuel true true [.key, .value, .blockEnd]
      let value ←
        if ← take? .value then nodeUnless fuel true true [.key, .value, .blockEnd]
        else pure .absent
      return (key, value) :: (← blockPairs fuel)
    else if ← take? .blockEnd then return []
    else failure

/-- A pair that stands alone in a flow sequence. Where its key is left out the token after the key
mark is skipped. -/
def flowPair (fuel : Nat) : Reader Node :=
  match fuel with
  | 0 => failure
  | fuel + 1 => do
    let key ←
      if ← isNext [.value, .flowEntry, .flowSequenceEnd] then do
        next
        pure .absent
      else node fuel false false
    let value ←
      if ← take? .value then nodeUnless fuel false false [.flowEntry, .flowSequenceEnd]
      else pure .absent
    return .mapping none [(key, value)]

/-- The items of a flow sequence, with commas between them. -/
def flowItems (fuel : Nat) (first : Bool) : Reader (List Node) :=
  match fuel with
  | 0 => failure
  | fuel + 1 => do
    if ← take? .flowSequenceEnd then return []
    else
      if !first then
        if !(← take? .flowEntry) then failure
      if ← take? .key then
        let item ← flowPair fuel
        return item :: (← flowItems fuel false)
      else if ← take? .flowSequenceEnd then return []
      else
        let item ← node fuel false false
        return item :: (← flowItems fuel false)

/-- The pairs of a flow mapping, with commas between them. -/
def flowPairs (fuel : Nat) (first : Bool) : Reader (List (Node × Node)) :=
  match fuel with
  | 0 => failure
  | fuel + 1 => do
    if ← take? .flowMappingEnd then return []
    else
      if !first then
        if !(← take? .flowEntry) then failure
      if ← take? .key then
        let key ← nodeUnless fuel false false [.value, .flowEntry, .flowMappingEnd]
        let value ←
          if ← take? .value then nodeUnless fuel false false [.flowEntry, .flowMappingEnd]
          else pure .absent
        return (key, value) :: (← flowPairs fuel false)
      else if ← take? .flowMappingEnd then return []
      else
        let key ← node fuel false false
        return (key, .absent) :: (← flowPairs fuel false)

end

/-- The directives before a document: at most one version, which has to be 1.1 or 1.2, and handles
of tags, each at most once. -/
def directives : Nat → Bool → Reader Unit
  | 0, _ => failure
  | fuel + 1, versioned => do
    match ← peek with
    | some (.versionDirective major minor) =>
      if versioned || major != 1 || (minor != 1 && minor != 2) then failure
      else do
        next
        directives fuel true
    | some (.tagDirective handle start) => do
      next
      let s ← get
      if s.handles.any fun h => h.1 == handle then failure
      else do
        set { s with handles := s.handles ++ [(handle, start)] }
        directives fuel versioned
    | _ => return ()

/-- The handles that every document knows, unless it gives them a meaning of its own. -/
def defaultHandles : List (String × String) :=
  [("!", "!"), ("!!", "tag:yaml.org,2002:")]

/-- Whether a token opens a document, or is a directive before one. -/
def opensDocument : Token → Bool
  | .versionDirective .. | .tagDirective .. | .documentStart => true
  | _ => false

/-- Leaves the marks behind that end a document. -/
def documentEnds : Nat → Reader Unit
  | 0 => return ()
  | fuel + 1 => do
    if ← take? .documentEnd then documentEnds fuel

/-- The root of the only document; an empty text has none. -/
def document (fuel : Nat) : Reader (Option Node) := do
  match ← peek with
  | none => return none
  | some t => do
    let root ←
      if opensDocument t then do
        directives fuel false
        modify fun s => { s with handles := s.handles ++ defaultHandles }
        if !(← take? .documentStart) then failure
        match ← peek with
        | none => pure .absent
        | some t =>
          if opensDocument t || t == .documentEnd then pure .absent else node fuel true false
      else do
        modify fun s => { s with handles := defaultHandles }
        node fuel true false
    documentEnds fuel
    match ← peek with
    | none => return some root
    | some _ => failure

end Reader

/-- A document: its root, if it has one, and its anchored nodes. -/
structure Tree where
  root : Option Node
  anchored : List (Nat × Node)

/-- The only document of a text. -/
def read? (text : String) : Option Tree := do
  let tokens ← tokens? text.toList
  let (root, _) ← (Reader.document (3 * tokens.length + 3)).run ⟨tokens, Dictionary.empty, []⟩
  some ⟨root, (root.map Node.anchored).getD []⟩

end ModuleRuntime.Yaml
