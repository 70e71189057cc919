import ModuleRuntime.Yaml.Scalar

/-!
# Tokens of YAML texts

The lines of a block collection are told apart by their indentation, so the tokens that open and
close one stand where no character does. A key needs no mark before it: what may turn out to be one
is remembered until a colon follows on the same line, and its token is then put before it.
-/

set_option autoImplicit false

namespace ModuleRuntime.Yaml

/-- A token. -/
inductive Token where
  | versionDirective (major minor : Nat)
  | tagDirective (handle start : String)
  | documentStart
  | documentEnd
  | blockSequence
  | blockMapping
  | blockEnd
  | flowSequence
  | flowSequenceEnd
  | flowMapping
  | flowMappingEnd
  | blockEntry
  | flowEntry
  | key
  | value
  | reference (name : String)
  | anchor (name : String)
  | tag (handle suffix : String)
  | scalar (style : Style) (value : String)
  deriving DecidableEq

/-- A place in a text: how many octets stand before it, and its line and column. -/
structure Place where
  index : Nat
  line : Nat
  column : Nat

/-- The place behind a character. -/
def Place.next (p : Place) (c : Char) : Place :=
  let index := p.index + c.utf8Size
  if isBreak c then ⟨index, p.line + 1, 0⟩ else ⟨index, p.line, p.column + 1⟩

/-- Where a key may have started: the number of its first token and its place. A key is required
where a line starts at the indentation of the mapping around it. -/
structure Candidate where
  token : Nat
  place : Place
  required : Bool

/-- What has been read of a text: the tokens so far, the columns of the open block collections, and
the candidates for a key on every level of flow collections, the innermost first. -/
structure Scanner where
  rest : List Char
  place : Place
  tokens : List Token
  columns : List Nat
  keyAllowed : Bool
  candidate : Option Candidate
  outer : List (Option Candidate)

namespace Scanner

/-- The scanner before a text. -/
def start (text : List Char) : Scanner :=
  ⟨text, ⟨0, 0, 0⟩, [], [], true, none, []⟩

/-- Whether a flow collection is open. -/
def inFlow (s : Scanner) : Bool :=
  !s.outer.isEmpty

/-- The scanner after the text before `rest`. -/
def moveTo (s : Scanner) (rest : List Char) : Scanner :=
  let read := s.rest.take (s.rest.length - rest.length)
  { s with rest := rest, place := read.foldl Place.next s.place }

/-- The scanner with a token more. -/
def push (s : Scanner) (t : Token) : Scanner :=
  { s with tokens := s.tokens ++ [t] }

/-- The scanner with a token before the one with the given number. -/
def insert (s : Scanner) (n : Nat) (t : Token) : Scanner :=
  { s with tokens := s.tokens.take n ++ t :: s.tokens.drop n }

/-- The scanner without its candidate for a key. A required key cannot be given up. -/
def dropCandidate? (s : Scanner) : Option Scanner :=
  match s.candidate with
  | some c => if c.required then none else some { s with candidate := none }
  | none => some s

/-- The scanner with a candidate for a key at its place, where one is allowed. -/
def saveCandidate? (s : Scanner) : Option Scanner :=
  if s.keyAllowed then do
    let required := !s.inFlow && s.columns.head? == some s.place.column
    let c : Candidate := ⟨s.tokens.length, s.place, required⟩
    let s ← s.dropCandidate?
    some { s with candidate := some c }
  else some s

/-- Whether a candidate is on another line or too far back. -/
def isStale (s : Scanner) (c : Candidate) : Bool :=
  c.place.line < s.place.line || c.place.index + 1024 < s.place.index

/-- The candidate, unless it is stale; a required one may not be. -/
def fresh? (s : Scanner) : Option Candidate → Option (Option Candidate)
  | none => some none
  | some c => if s.isStale c then (if c.required then none else some none) else some (some c)

/-- The scanner without its stale candidates. -/
def dropStale? (s : Scanner) : Option Scanner := do
  let candidate ← s.fresh? s.candidate
  let outer ← s.outer.mapM s.fresh?
  some { s with candidate := candidate, outer := outer }

/-- The scanner with the block collections closed that stand right of a column. -/
def closeTo (s : Scanner) (column : Option Nat) : Scanner :=
  if s.inFlow then s
  else
    let isInner (open_ : Nat) : Bool := (column.map fun c => decide (c < open_)).getD true
    let kept := s.columns.dropWhile isInner
    let closed := s.columns.length - kept.length
    { s with columns := kept, tokens := s.tokens ++ List.replicate closed .blockEnd }

/-- The scanner with a block collection opened at a column, unless one is open there, its token
before the one with the given number. -/
def openAt (s : Scanner) (column n : Nat) (t : Token) : Scanner :=
  let isOpen := (s.columns.head?.map fun c => decide (column ≤ c)).getD false
  if s.inFlow || isOpen then s
  else { s.insert n t with columns := column :: s.columns }

/-! ## Between tokens -/

/-- The text after blanks, comments and breaks, and whether a key is allowed there: a line break
outside flow collections allows one. A tab counts as a blank only where no key is allowed. A byte
order mark may start a line. -/
def skip (inFlow : Bool) : Bool → Bool → Bool → List Char → List Char × Bool
  | allowed, _, _, [] => ([], allowed)
  | allowed, comment, lineStart, c :: rest =>
    if isBreak c then skip inFlow (!inFlow || allowed) false true rest
    else if comment || c == ' ' || (c == '\t' && (inFlow || !allowed))
        || (lineStart && c == byteOrderMark) then
      skip inFlow allowed comment false rest
    else if c == '#' then skip inFlow allowed true false rest
    else (c :: rest, allowed)

/-! ## Directives, anchors and tags -/

/-- A number of at most nine digits and the text after it. -/
def number? (text : List Char) : Option (Nat × List Char) :=
  let digits := text.takeWhile Char.isDigit
  if digits.isEmpty || 9 < digits.length then none
  else some (digits.foldl (fun n c => 10 * n + (c.toNat - 48)) 0, text.drop digits.length)

/-- The handle of a tag and the text after it: words between exclamation marks. The second mark may
be missing where that is no directive. -/
def handle? (directive : Bool) : List Char → Option (List Char × List Char)
  | '!' :: text =>
    let word := text.takeWhile isWord
    match text.drop word.length with
    | '!' :: rest => some ('!' :: word ++ ['!'], rest)
    | rest => if directive && !word.isEmpty then none else some ('!' :: word, rest)
  | _ => none

/-- The octet of two hexadecimal digits after a percent sign. -/
def octet? : List Char → Option (Nat × List Char)
  | '%' :: a :: b :: rest => (Text.natOfHex? [a, b]).map (·, rest)
  | _ => none

/-- How many octets a character takes, by its first one. -/
def octetCount? (first : Nat) : Option Nat :=
  if first < 0x80 then some 1
  else if first / 32 == 6 then some 2
  else if first / 16 == 14 then some 3
  else if first / 8 == 30 then some 4
  else none

/-- A number of octets that go on with a character. -/
def octets? : Nat → List Char → Option (List Char × List Char)
  | 0, text => some ([], text)
  | n + 1, text => do
    let (octet, text) ← octet? text
    if octet / 64 == 2 then do
      let (more, rest) ← octets? n text
      some (Char.ofNat octet :: more, rest)
    else none

/-- The characters of a tag, apart from letters, digits and percent signs. -/
def isTagMark (verbatim : Bool) (c : Char) : Bool :=
  [';', '/', '?', ':', '@', '&', '=', '+', '$', '.', '!', '~', '*', '\'', '(', ')'].contains c
    || (verbatim && [',', '[', ']'].contains c)

/-- The characters of a tag and the text after it. An octet behind a percent sign counts as one. -/
def tagChars? (verbatim : Bool) : Nat → List Char → Option (List Char × List Char)
  | 0, text => some ([], text)
  | _ + 1, [] => some ([], [])
  | fuel + 1, c :: rest =>
    if c == '%' then do
      let (first, after) ← octet? (c :: rest)
      let count ← octetCount? first
      let (more, after) ← octets? (count - 1) after
      let (chars, after) ← tagChars? verbatim fuel after
      some (Char.ofNat first :: more ++ chars, after)
    else if isWord c || isTagMark verbatim c then do
      let (chars, after) ← tagChars? verbatim fuel rest
      some (c :: chars, after)
    else some ([], c :: rest)

/-- The characters of a tag, of which there is at least one unless a head comes before them. -/
def tagText? (verbatim : Bool) (head text : List Char) : Option (List Char × List Char) := do
  let (chars, rest) ← tagChars? verbatim text.length text
  if head.isEmpty && chars.isEmpty then none else some (head.drop 1 ++ chars, rest)

/-- The characters before the first NUL, which ends a tag and the start of one. -/
def cutAtNul (chars : List Char) : List Char :=
  chars.takeWhile fun c => c != Char.ofNat 0

/-- The token of a tag and the text after it. -/
def tag? (inFlow : Bool) (text : List Char) : Option (Token × List Char) := do
  let (handle, suffix, rest) ←
    match text with
    | '!' :: '<' :: text => do
      let (suffix, rest) ← tagText? true [] text
      match rest with
      | '>' :: rest => some ([], suffix, rest)
      | _ => none
    | text => do
      let (handle, rest) ← handle? false text
      if 1 < handle.length && handle.getLast? == some '!' then do
        let (suffix, rest) ← tagText? false [] rest
        some (handle, suffix, rest)
      else do
        let (suffix, rest) ← tagText? false handle rest
        if (cutAtNul suffix).isEmpty then some ([], ['!'], rest) else some (['!'], suffix, rest)
  if startsBlank rest || (inFlow && rest.head? == some ',') then
    some (.tag (String.ofList handle) (String.ofList (cutAtNul suffix)), rest)
  else none

/-- The token of a directive and the text after its line. -/
def directive? (text : List Char) : Option (Token × List Char) := do
  let name := text.takeWhile isWord
  let text := text.drop name.length
  let text ← if startsBlank text then some (text.dropWhile isBlank) else none
  let (token, text) ←
    match String.ofList name with
    | "YAML" => do
      let (major, text) ← number? text
      match text with
      | '.' :: text => do
        let (minor, text) ← number? text
        some (Token.versionDirective major minor, text)
      | _ => none
    | "TAG" => do
      let (handle, text) ← handle? true text
      if (text.head?.map isBlank).getD false then do
        let (start, text) ← tagText? true [] (text.dropWhile isBlank)
        if startsBlank text then
          some (Token.tagDirective (String.ofList handle) (String.ofList (cutAtNul start)), text)
        else none
      else none
    | _ => none
  let text := dropComment text
  if startsBreak text then some (token, dropBreak text) else none

/-- The name of an anchor or an alias and the text after it. -/
def anchorName? (text : List Char) : Option (String × List Char) :=
  let name := text.takeWhile isWord
  let rest := text.drop name.length
  let ends := startsBlank rest
    || (rest.head?.map fun c => ['?', ':', ',', ']', '\x7d', '%', '@', Char.ofNat 96].contains c).getD
      false
  if name.isEmpty || !ends then none else some (String.ofList name, rest)

/-! ## Single tokens -/

/-- A token of one character between documents or collections, after which keys are allowed
or not. -/
def mark (s : Scanner) (t : Token) (count : Nat) (keyAllowed : Bool) : Scanner :=
  { (s.push t).moveTo (s.rest.drop count) with keyAllowed := keyAllowed }

/-- A token that ends all open blocks. -/
def markDocument? (s : Scanner) (t : Token) : Option Scanner := do
  let s ← (s.closeTo none).dropCandidate?
  some (s.mark t 3 false)

/-- A directive. -/
def markDirective? (s : Scanner) : Option Scanner := do
  let s ← (s.closeTo none).dropCandidate?
  let (token, rest) ← directive? (s.rest.drop 1)
  some { (s.push token).moveTo rest with keyAllowed := false }

/-- The start of a flow collection. -/
def openFlow? (s : Scanner) (t : Token) : Option Scanner := do
  let s ← s.saveCandidate?
  some { s.mark t 1 true with candidate := none, outer := s.candidate :: s.outer }

/-- The end of a flow collection. -/
def closeFlow? (s : Scanner) (t : Token) : Option Scanner := do
  let s ← s.dropCandidate?
  match s.outer with
  | [] => some (s.mark t 1 false)
  | candidate :: outer =>
    some { s.mark t 1 false with candidate := candidate, outer := outer }

/-- A comma in a flow collection. -/
def flowEntry? (s : Scanner) : Option Scanner := do
  some ((← s.dropCandidate?).mark .flowEntry 1 true)

/-- The mark of an item or of a key, which opens a block collection where none is open. -/
def blockMark? (s : Scanner) (opening t : Token) (keyAllowed : Bool) : Option Scanner :=
  if !s.inFlow && !s.keyAllowed then none
  else do
    let s ← (s.openAt s.place.column s.tokens.length opening).dropCandidate?
    some (s.mark t 1 keyAllowed)

/-- The mark of a value. What was remembered as a candidate is now a key. -/
def value? (s : Scanner) : Option Scanner :=
  match s.candidate with
  | some c =>
    let s := { s.insert c.token .key with candidate := none }
    some ((s.openAt c.place.column c.token .blockMapping).mark .value 1 false)
  | none =>
    if s.inFlow then some (s.mark .value 1 false)
    else if s.keyAllowed then
      some ((s.openAt s.place.column s.tokens.length .blockMapping).mark .value 1 true)
    else none

/-- A token that may start a key, and after which none is allowed. -/
def content? (s : Scanner) (read : List Char → Option (Token × List Char)) : Option Scanner := do
  let s ← s.saveCandidate?
  let (token, rest) ← read s.rest
  some { (s.push token).moveTo rest with keyAllowed := false }

/-- A plain scalar; one that ends behind a break allows a key. -/
def plain? (s : Scanner) : Option Scanner := do
  let s ← s.saveCandidate?
  let indent := (s.columns.head?.map (· + 1)).getD 0
  let r ← plainFrom? s.inFlow indent .empty true s.place.column s.rest
  some { (s.push (.scalar .plain (String.ofList r.value))).moveTo r.rest with
    keyAllowed := r.afterBreak }

/-- A block scalar. -/
def blockScalar? (s : Scanner) (style : Style) : Option Scanner := do
  let s ← s.dropCandidate?
  let (value, rest) ← block? style s.columns.head? (s.rest.drop 1)
  some { (s.push (.scalar style (String.ofList value))).moveTo rest with keyAllowed := true }

/-- A scalar between quotes. -/
def quotedScalar? (read : List Char → Option (List Atom × List Char)) (text : List Char) :
    Option (Token × List Char) := do
  let (atoms, rest) ← read (text.drop 1)
  some (.scalar .quoted (String.ofList (joinAtoms .empty atoms)), rest)

/-- The characters that have a meaning of their own at the start of a token. -/
def indicators : List Char :=
  [',', '[', ']', '\x7b', '\x7d', '#', '&', '*', '!', '|', '>', '\'', '"', '%', '@', Char.ofNat 96]

/-- Whether a plain scalar may start with a character before a text. -/
def startsPlain (inFlow : Bool) (c : Char) (rest : List Char) : Bool :=
  if c == '-' then !((rest.head?.map isBlank).getD false)
  else if c == '?' || c == ':' then !inFlow && !startsBlank rest
  else !isBlank c && !indicators.contains c

/-- The next token, which starts with the character at the head of the text. -/
def token? (s : Scanner) (c : Char) (rest : List Char) : Option Scanner :=
  if s.place.column == 0 && c == '%' then s.markDirective?
  else if s.place.column == 0 && startsMarker s.rest then
    s.markDocument? (if c == '-' then .documentStart else .documentEnd)
  else
    let alone := startsBlank rest
    match c with
    | '[' => s.openFlow? .flowSequence
    | '\x7b' => s.openFlow? .flowMapping
    | ']' => s.closeFlow? .flowSequenceEnd
    | '\x7d' => s.closeFlow? .flowMappingEnd
    | ',' => s.flowEntry?
    | '*' => s.content? fun text => (anchorName? (text.drop 1)).map fun (n, r) => (.reference n, r)
    | '&' => s.content? fun text => (anchorName? (text.drop 1)).map fun (n, r) => (.anchor n, r)
    | '!' => s.content? (tag? s.inFlow)
    | '\'' => s.content? (quotedScalar? singleQuoted?)
    | '"' => s.content? (quotedScalar? doubleQuoted?)
    | c =>
      if c == '-' && alone then s.blockMark? .blockSequence .blockEntry true
      else if c == '?' && (s.inFlow || alone) then s.blockMark? .blockMapping .key (!s.inFlow)
      else if c == ':' && (s.inFlow || alone) then s.value?
      else if c == '|' && !s.inFlow then s.blockScalar? .literal
      else if c == '>' && !s.inFlow then s.blockScalar? .folded
      else if startsPlain s.inFlow c rest then s.plain?
      else none

/-- The tokens up to the end of the text. Every round but the last reads at least one character. -/
def run? : Nat → Scanner → Option (List Token)
  | 0, _ => none
  | fuel + 1, s => do
    let (rest, keyAllowed) := skip s.inFlow s.keyAllowed false (s.place.column == 0) s.rest
    let s ← { s.moveTo rest with keyAllowed := keyAllowed }.dropStale?
    let s := s.closeTo (some s.place.column)
    match s.rest with
    | [] =>
      let s ← (s.closeTo none).dropCandidate?
      some s.tokens
    | c :: rest => do
      let s ← s.token? c rest
      run? fuel s

end Scanner

/-- The tokens of a text. -/
def tokens? (text : List Char) : Option (List Token) :=
  if text.all isAllowed then (Scanner.start text).run? (text.length + 1) else none

end ModuleRuntime.Yaml
