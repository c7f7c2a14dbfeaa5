import StackManifest.Yaml.Scalar
import StackManifest.Yaml.Token.Lexer

/-!
# The nodes of a markup text

The tokens of a text make up a tree of nodes: scalars, sequences and mappings, each with its
tag. An alias stands for the node with its name; both have the same **number**, so that a node
in several places can be told from several equal nodes. A node that contains itself has no
tree; where it occurs within itself, nothing stands for it.

* `Node` – the nodes;
* `Stream` – the **tokens left**, with what is known from the tokens before;
* `Stream.node` – the node at the beginning of the tokens;
* `Node.read` – the node of a whole text, if it is a single document.
-/

namespace StackManifest.Yaml

/-- A **node**: its number, its tag, and what it consists of. -/
inductive Node where
  | scalar (number : Nat) (tag text : String)
  | sequence (number : Nat) (tag : String) (items : List Node)
  | mapping (number : Nat) (tag : String) (entries : List (Node × Node))
  deriving Inhabited, Repr

namespace Node

/-- The tag of a node. -/
def tag : Node → String
  | .scalar _ t _ | .sequence _ t _ | .mapping _ t _ => t

end Node

/-- The **tokens left** of a text and the fault at their end; the handles of tags, the nodes
that have names, where a node that is not complete yet is missing, and the next number. -/
structure Stream where
  tokens : List Token
  fault : Option Fault
  handles : List (String × String)
  named : List (String × Option Node)
  next : Nat

/-- A step of the reading of nodes. -/
abbrev Reading (α : Type) := StateT Stream (Except Fault) α

namespace Stream

/-- The next token. -/
def peek : Reading Token := do
  let s ← get
  match s.tokens with
  | t :: _ => return t
  | [] => throw (s.fault.getD .markup)

/-- Passes the next token. -/
def pass : Reading Unit := modify fun s => { s with tokens := s.tokens.tail }

/-- Whether the next token is one of some, which is not passed. -/
def sees (ts : List Token) : Reading Bool := do return ts.contains (← peek)

/-- Whether the next token is a given one, which is passed then. -/
def passIf (t : Token) : Reading Bool := do
  if (← peek) = t then pass; return true else return false

/-- Passes a given token, which must come next. -/
def expect (t : Token) : Reading Unit := do
  if !(← passIf t) then throw .markup

/-- A new number. -/
def newNumber : Reading Nat := modifyGet fun s => (s.next, { s with next := s.next + 1 })

/-! ### Properties of nodes -/

/-- The anchor and the tag in front of a node, in either order. -/
structure Properties where
  anchor : Option String
  tag : Option (Option String × String)

/-- The anchor and the tag that come next. -/
def properties (fuel : Nat) (p : Properties) : Reading Properties :=
  match fuel with
  | 0 => return p
  | fuel + 1 => do
    match ← peek with
    | .anchor name =>
      if p.anchor.isSome then return p
      pass
      properties fuel { p with anchor := some name }
    | .tag handle suffix =>
      if p.tag.isSome then return p
      pass
      properties fuel { p with tag := some (handle, suffix) }
    | _ => return p

/-- The tag with its handle replaced by what it stands for. -/
def expandTag (t : Option (Option String × String)) : Reading (Option String) := do
  match t with
  | none => return none
  | some (none, suffix) => return some suffix
  | some (some handle, suffix) =>
    match (← get).handles.lookup handle with
    | some expansion => return some (expansion ++ suffix)
    | none => throw .markup

/-- Gives a node, or a node yet to be read, a **name**. A name can be given once only. -/
def bindName (anchor : Option String) (n : Option Node) : Reading Unit := do
  match anchor with
  | none => return
  | some name => modify fun s => { s with named := (name, n) :: s.named }

/-- Checks that a name is not given yet. -/
def checkName (anchor : Option String) : Reading Unit := do
  match anchor with
  | none => return
  | some name => if ((← get).named.lookup name).isSome then throw .markup

/-- A tag that says nothing: none at all, or an exclamation mark. -/
def isOpen (tag : Option String) : Bool := tag = none || tag = some "!"

/-- The tag of a scalar. -/
def scalarTag (tag : Option String) (plain : Bool) (text : String) : String :=
  if tag = some "!" ∨ (tag = none ∧ plain) then plainTag text else tag.getD Tag.str

/-- The tag of a collection. -/
def collectionTag (tag : Option String) (default : String) : String :=
  if isOpen tag then default else tag.getD default

/-- The node without characters, which stands for nothing. -/
def emptyNode : Reading Node := do return .scalar (← newNumber) Tag.null ""

/-- What kinds of nodes may come next: in a block, also a sequence that is not indented. -/
structure Place where
  block : Bool
  indentless : Bool

/-! ### Nodes -/

mutual

/-- The **node** that comes next. -/
def node (fuel : Nat) (place : Place) : Reading Node :=
  match fuel with
  | 0 => throw .markup
  | fuel + 1 => do
    match ← peek with
    | .alias name =>
      pass
      match (← get).named.lookup name with
      | some (some n) => return n
      | some none => emptyNode
      | none => throw .markup
    | _ =>
      let p ← properties 2 ⟨none, none⟩
      let tag ← expandTag p.tag
      checkName p.anchor
      content fuel place p.anchor tag

/-- The content of a node with an optional name and an optional tag. -/
def content (fuel : Nat) (place : Place) (anchor tag : Option String) : Reading Node :=
  match fuel with
  | 0 => throw .markup
  | fuel + 1 => do
    let collection := fun (default : String) (read : Reading (List Node)) => do
      let number ← newNumber
      bindName anchor none
      let n := Node.sequence number (collectionTag tag default) (← read)
      bindName anchor (some n)
      return n
    let mapping := fun (read : Reading (List (Node × Node))) => do
      let number ← newNumber
      bindName anchor none
      let n := Node.mapping number (collectionTag tag Tag.map) (← read)
      bindName anchor (some n)
      return n
    match ← peek with
    | .blockEntry =>
      if place.indentless then collection Tag.seq (indentlessItems fuel)
      else emptyContent anchor tag
    | .scalar text plain =>
      pass
      let n := Node.scalar (← newNumber) (scalarTag tag plain text) text
      bindName anchor (some n)
      return n
    | .flowSequenceStart => pass; collection Tag.seq (flowItems fuel true)
    | .flowMappingStart => pass; mapping (flowEntries fuel true)
    | .blockSequenceStart =>
      if place.block then pass; collection Tag.seq (blockItems fuel)
      else emptyContent anchor tag
    | .blockMappingStart =>
      if place.block then pass; mapping (blockEntries fuel)
      else emptyContent anchor tag
    | _ => emptyContent anchor tag

/-- A node with a name or a tag and no content. -/
def emptyContent (anchor tag : Option String) : Reading Node := do
  if anchor.isNone ∧ tag.isNone then throw .markup
  let t := if isOpen tag then Tag.null else tag.getD Tag.null
  let n := Node.scalar (← newNumber) t ""
  bindName anchor (some n)
  return n

/-- The node that comes next, or an empty one if some token comes next. -/
def nodeUnless (fuel : Nat) (place : Place) (ends : List Token) : Reading Node :=
  match fuel with
  | 0 => throw .markup
  | fuel + 1 => do if ← sees ends then emptyNode else node fuel place

/-- The items of a sequence in a block. -/
def blockItems (fuel : Nat) : Reading (List Node) :=
  match fuel with
  | 0 => throw .markup
  | fuel + 1 => do
    if ← passIf .blockEntry then
      let n ← nodeUnless fuel ⟨true, false⟩ [.blockEntry, .blockEnd]
      return n :: (← blockItems fuel)
    else
      expect .blockEnd
      return []

/-- The items of a sequence that is not indented. -/
def indentlessItems (fuel : Nat) : Reading (List Node) :=
  match fuel with
  | 0 => throw .markup
  | fuel + 1 => do
    if ← passIf .blockEntry then
      let n ← nodeUnless fuel ⟨true, false⟩ [.blockEntry, .key, .value, .blockEnd]
      return n :: (← indentlessItems fuel)
    else
      return []

/-- The entries of a mapping in a block. -/
def blockEntries (fuel : Nat) : Reading (List (Node × Node)) :=
  match fuel with
  | 0 => throw .markup
  | fuel + 1 => do
    let ends := [Token.key, .value, .blockEnd]
    if ← passIf .key then
      let k ← nodeUnless fuel ⟨true, true⟩ ends
      let v ← if ← passIf .value then nodeUnless fuel ⟨true, true⟩ ends else emptyNode
      return (k, v) :: (← blockEntries fuel)
    else
      expect .blockEnd
      return []

/-- The items of a sequence in brackets. A key in it makes a mapping of one entry. -/
def flowItems (fuel : Nat) (first : Bool) : Reading (List Node) :=
  match fuel with
  | 0 => throw .markup
  | fuel + 1 => do
    if ← passIf .flowSequenceEnd then return []
    if !first then expect .flowEntry
    if ← passIf .key then
      let number ← newNumber
      let k ← nodeUnless fuel ⟨false, false⟩ [.value, .flowEntry, .flowSequenceEnd]
      let v ← if ← passIf .value then
          nodeUnless fuel ⟨false, false⟩ [.flowEntry, .flowSequenceEnd]
        else emptyNode
      return .mapping number Tag.map [(k, v)] :: (← flowItems fuel false)
    if ← passIf .flowSequenceEnd then return []
    let n ← node fuel ⟨false, false⟩
    return n :: (← flowItems fuel false)

/-- The entries of a mapping in braces. -/
def flowEntries (fuel : Nat) (first : Bool) : Reading (List (Node × Node)) :=
  match fuel with
  | 0 => throw .markup
  | fuel + 1 => do
    if ← passIf .flowMappingEnd then return []
    if !first then expect .flowEntry
    if ← passIf .key then
      let k ← nodeUnless fuel ⟨false, false⟩ [.value, .flowEntry, .flowMappingEnd]
      let v ← if ← passIf .value then
          nodeUnless fuel ⟨false, false⟩ [.flowEntry, .flowMappingEnd]
        else emptyNode
      return (k, v) :: (← flowEntries fuel false)
    if ← passIf .flowMappingEnd then return []
    let k ← node fuel ⟨false, false⟩
    let v ← emptyNode
    return (k, v) :: (← flowEntries fuel false)

end

/-! ### Documents -/

/-- The directives in front of a document: the version must be of the first generation, and
each directive can be given once. -/
def directives (fuel : Nat) (versioned : Bool) : Reading Unit :=
  match fuel with
  | 0 => return
  | fuel + 1 => do
    match ← peek with
    | .versionDirective major _ =>
      pass
      if versioned ∨ major ≠ 1 then throw .markup
      directives fuel true
    | .tagDirective handle expansion =>
      pass
      if ((← get).handles.lookup handle).isSome then throw .markup
      modify fun s => { s with handles := s.handles ++ [(handle, expansion)] }
      directives fuel versioned
    | .otherDirective =>
      pass
      directives fuel versioned
    | _ => return

/-- The handles that every document has. -/
def defaultHandles : List (String × String) := [("!", "!"), ("!!", Tag.common)]

/-- The marks after a document, and the end of the text. -/
def ending (fuel : Nat) : Reading Unit :=
  match fuel with
  | 0 => throw .markup
  | fuel + 1 => do if ← passIf .documentEnd then ending fuel else expect .streamEnd

/-- Whether the next token begins a document with a mark or a directive, or there is no
document. -/
def beginsExplicitly : Token → Bool
  | .versionDirective .. | .tagDirective .. | .otherDirective | .documentStart
  | .streamEnd => true
  | _ => false

/-- Whether the next token is beyond the content of a document. -/
def endsDocument : Token → Bool
  | .documentEnd => true
  | t => beginsExplicitly t

/-- The **document** of a text, none if the text is empty. -/
def document (fuel : Nat) : Reading (Option Node) := do
  let t ← peek
  if t = .streamEnd then return none
  if beginsExplicitly t then
    directives fuel false
    expect .documentStart
    modify fun s => { s with handles := s.handles ++ defaultHandles }
    let n ← if endsDocument (← peek) then emptyNode else node fuel ⟨true, false⟩
    ending fuel
    return some n
  else
    modify fun s => { s with handles := defaultHandles }
    let n ← node fuel ⟨true, false⟩
    ending fuel
    return some n

end Stream

/-- The **node of a whole text**, none if the text is empty. -/
def Node.read (cs : List Char) : Except Fault (Option Node) := do
  let (ts, fault) := tokens cs
  let s : Stream := { tokens := ts, fault, handles := [], named := [], next := 1 }
  return (← (Stream.document (4 * ts.length + 4)).run s).1

end StackManifest.Yaml
