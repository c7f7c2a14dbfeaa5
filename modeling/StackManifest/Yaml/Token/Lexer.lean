import StackManifest.Yaml.Token.Scalar

/-!
# Cutting a markup text into tokens

The text is read from left to right. Its structure shows in the indentation of lines, so the
reading keeps the columns of the blocks that are open. A **key** is recognised only at the
colon after it; so the places where a key may have begun are remembered, one for each level of
brackets, and the tokens that a key needs are put in front of it afterwards.

* `KeyPlace` – a place where a key may have begun;
* `Lexer` – the state of the reading;
* `Lexer.step` – the reading of one token, with the block ends in front of it;
* `tokens` – the **tokens** of a text, and the fault at which the reading stopped, if it did.
-/

namespace StackManifest.Yaml

/-- A place where a **key** may have begun: the number of tokens before it, its position in
the text, and whether a key must be there because a line of a block begins with it. -/
structure KeyPlace where
  before : Nat
  index : Nat
  line : Nat
  column : Nat
  required : Bool
  deriving Repr

/-- The **state** of the reading: the place reached, the tokens so far from the last to the
first and their number, the column of the innermost block and of those around it, whether a key
may begin here, and the possible keys for the innermost and the outer levels of brackets. -/
structure Lexer where
  cursor : Cursor
  tokens : List Token
  count : Nat
  indent : Int
  indents : List Int
  allowKey : Bool
  keyPlace : Option KeyPlace
  outer : List (Option KeyPlace)

namespace Lexer

/-- The state at the beginning of a text. -/
def start (cs : List Char) : Lexer :=
  { cursor := .start cs, tokens := [], count := 0, indent := -1, indents := [],
    allowKey := true, keyPlace := none, outer := [] }

/-- Whether the place is within brackets. -/
def inFlow (l : Lexer) : Bool := !l.outer.isEmpty

/-- The state after one more token. -/
def emit (l : Lexer) (t : Token) : Lexer := { l with tokens := t :: l.tokens, count := l.count + 1 }

/-- The state after a token that ends at a place. -/
def emitAt (l : Lexer) (t : Token) (c : Cursor) : Lexer :=
  { l.emit t with cursor := c }

/-- The state with some tokens put in after the first ones. -/
def insertAfter (l : Lexer) (before : Nat) (ts : List Token) : Lexer :=
  let later := l.count - before
  { l with tokens := l.tokens.take later ++ ts.reverse ++ l.tokens.drop later,
           count := l.count + ts.length }

/-! ### Possible keys -/

/-- The state without the possible key of the innermost level. A key that must be there
cannot be given up. -/
def dropKey (l : Lexer) : Except Fault Lexer := do
  require (!(l.keyPlace.any (·.required)))
  return { l with keyPlace := none }

/-- The state with a **possible key** here, where one may begin. -/
def saveKey (l : Lexer) : Except Fault Lexer :=
  if l.allowKey then do
    let l ← l.dropKey
    let c := l.cursor
    return { l with keyPlace := some {
      before := l.count, index := c.index, line := c.line, column := c.column,
      required := !l.inFlow && l.indent == c.column } }
  else .ok l

/-- Whether a possible key has been passed: it began on an earlier line, or too far back. -/
def isStale (c : Cursor) (k : KeyPlace) : Bool := k.line ≠ c.line || 1024 < c.index - k.index

/-- The possible key, unless it has been passed. -/
def freshKey (c : Cursor) (k : Option KeyPlace) : Except Fault (Option KeyPlace) :=
  match k with
  | none => .ok none
  | some k => if isStale c k then do require (!k.required); return none else .ok (some k)

/-- The state without the possible keys that have been passed. -/
def dropStale (l : Lexer) : Except Fault Lexer := do
  return { l with keyPlace := ← freshKey l.cursor l.keyPlace,
                  outer := ← l.outer.mapM (freshKey l.cursor) }

/-! ### Blocks -/

/-- The state with the blocks **ended** that are indented further than a column. -/
def unwind (column : Int) (fuel : Nat) (l : Lexer) : Lexer :=
  match fuel with
  | 0 => l
  | fuel + 1 =>
    if column < l.indent then
      unwind column fuel
        { l.emit .blockEnd with indent := l.indents.headD (-1), indents := l.indents.tail }
    else l

/-- The state with the blocks ended that a column ends; within brackets there are none. -/
def unwindTo (column : Int) (l : Lexer) : Lexer :=
  if l.inFlow then l else l.unwind column (l.indents.length + 1)

/-- Whether a block **begins** at a column, and the state with it open. -/
def openBlock (column : Nat) (l : Lexer) : Bool × Lexer :=
  if l.indent < column then
    (true, { l with indent := column, indents := l.indent :: l.indents })
  else (false, l)

/-- The state with a block begun here, if one begins here. -/
def beginBlock (t : Token) (l : Lexer) : Lexer :=
  let (opened, l) := l.openBlock l.cursor.column
  if opened then l.emit t else l

/-! ### The space between tokens -/

/-- The place of the next token: after spaces, comments and line breaks, and whether a line
break was passed. -/
def skipSpace (fuel : Nat) (c : Cursor) (broke : Bool) : Cursor × Bool :=
  match fuel with
  | 0 => (c, broke)
  | fuel + 1 =>
    let c := c.skipSpaces
    let c := if c.head = '#' then c.skipWhile (!isBreakOrEnd ·) else c
    if isBreak c.head then skipSpace fuel c.lineBreak.2 true else (c, broke)

/-- The state at the next token. A key may begin after a line break outside of brackets. -/
def toNextToken (l : Lexer) : Lexer :=
  let c := l.cursor
  let c := if c.index = 0 ∧ c.head = '\uFEFF' then c.next else c
  let (c, broke) := skipSpace (c.size + 1) c false
  { l with cursor := c, allowKey := l.allowKey || (broke && !l.inFlow) }

/-! ### Tokens -/

/-- The state after a directive or a mark between documents, which end all blocks. -/
def documentLevel (l : Lexer) (cut : Cursor → Except Fault (Token × Cursor)) :
    Except Fault Lexer := do
  let l ← (l.unwindTo (-1)).dropKey
  let (t, c) ← cut l.cursor
  return { l with allowKey := false }.emitAt t c

/-- The end of the text, which ends all blocks. -/
def finish (l : Lexer) : Except Fault Lexer := do
  let l ← (l.unwindTo (-1)).dropKey
  return { l with allowKey := false }.emit .streamEnd

/-- An opening bracket, which may begin a key. -/
def openFlow (t : Token) (l : Lexer) : Except Fault Lexer := do
  let l ← l.saveKey
  return { l with outer := l.keyPlace :: l.outer, keyPlace := none, allowKey := true }.emitAt t
    l.cursor.next

/-- A closing bracket. One that closes nothing is not well-formed. -/
def closeFlow (t : Token) (l : Lexer) : Except Fault Lexer := do
  let l ← l.dropKey
  match l.outer with
  | [] => illFormed
  | k :: outer =>
    return { l with keyPlace := k, outer, allowKey := false }.emitAt t l.cursor.next

/-- A comma within brackets. -/
def flowEntry (l : Lexer) : Except Fault Lexer := do
  let l ← l.dropKey
  return { l with allowKey := true }.emitAt .flowEntry l.cursor.next

/-- The mark of an entry of a sequence. -/
def blockEntry (l : Lexer) : Except Fault Lexer := do
  require (l.inFlow || l.allowKey)
  let l ← (if l.inFlow then l else l.beginBlock .blockSequenceStart).dropKey
  return { l with allowKey := true }.emitAt .blockEntry l.cursor.next

/-- The mark of a key that is written out. -/
def explicitKey (l : Lexer) : Except Fault Lexer := do
  require (l.inFlow || l.allowKey)
  let l ← (if l.inFlow then l else l.beginBlock .blockMappingStart).dropKey
  return { l with allowKey := !l.inFlow }.emitAt .key l.cursor.next

/-- The **colon** after a key. If a key may have begun before it, the tokens of the key, and of
the mapping that it begins, are put in front of it. -/
def colon (l : Lexer) : Except Fault Lexer := do
  match l.keyPlace with
  | some k =>
    let (opened, l) := if l.inFlow then (false, l) else l.openBlock k.column
    let l := l.insertAfter k.before (if opened then [.blockMappingStart, .key] else [.key])
    return { l with keyPlace := none, allowKey := false }.emitAt .value l.cursor.next
  | none =>
    require (l.inFlow || l.allowKey)
    let l ← (if l.inFlow then l else l.beginBlock .blockMappingStart).dropKey
    return { l with allowKey := !l.inFlow }.emitAt .value l.cursor.next

/-- A token of a node's own, which may begin a key. -/
def nodeToken (l : Lexer) (cut : Cursor → Except Fault (Token × Cursor)) :
    Except Fault Lexer := do
  let l ← l.saveKey
  let (t, c) ← cut l.cursor
  return { l with allowKey := false }.emitAt t c

/-- A plain scalar, which may begin a key. -/
def plainScalar (l : Lexer) : Except Fault Lexer := do
  let l ← l.saveKey
  let (t, c, broke) := l.cursor.plain l.inFlow l.indent
  return { l with allowKey := broke }.emitAt t c

/-- A scalar as a block of lines. -/
def blockScalar (folded : Bool) (l : Lexer) : Except Fault Lexer := do
  let l ← { l with allowKey := true }.dropKey
  let (t, c) ← l.cursor.block folded l.indent
  return l.emitAt t c

/-- Whether a plain scalar can begin with a character before another one. -/
def beginsPlain (inFlow : Bool) (c next : Char) : Bool :=
  (!isGap c && !("-?:,[]\x7b\x7d#&*!|>'\"%@\x60".toList.contains c))
    || (!isGap next && (c = '-' || (!inFlow && (c = '?' || c = ':'))))

/-- The reading of **one token** at its place. -/
def token (l : Lexer) : Except Fault Lexer :=
  let c := l.cursor
  let next := c.peek 1
  match c.head with
  | '[' => l.openFlow .flowSequenceStart
  | '\x7b' => l.openFlow .flowMappingStart
  | ']' => l.closeFlow .flowSequenceEnd
  | '\x7d' => l.closeFlow .flowMappingEnd
  | ',' => l.flowEntry
  | '*' => l.nodeToken fun c => do
      let (s, c) ← c.name
      return (.alias s, c)
  | '&' => l.nodeToken fun c => do
      let (s, c) ← c.name
      return (.anchor s, c)
  | '!' => l.nodeToken Cursor.tag
  | '\'' => l.nodeToken (Cursor.quoted false)
  | '"' => l.nodeToken (Cursor.quoted true)
  | ch =>
    if ch = '%' ∧ c.column = 0 then l.documentLevel Cursor.directive
    else if c.column = 0 ∧ c.isDocumentMark then
      l.documentLevel fun c =>
        .ok (if ch = '-' then .documentStart else .documentEnd, c.skip 3)
    else if ch = '-' ∧ isGap next then l.blockEntry
    else if ch = '?' ∧ (l.inFlow ∨ isGap next) then l.explicitKey
    else if ch = ':' ∧ (l.inFlow ∨ isGap next) then l.colon
    else if ch = '|' ∧ !l.inFlow then l.blockScalar false
    else if ch = '>' ∧ !l.inFlow then l.blockScalar true
    else if beginsPlain l.inFlow ch next then l.plainScalar
    else illFormed

/-- The reading of one token, with the space and the block ends in front of it. -/
def step (l : Lexer) : Except Fault Lexer := do
  let l ← l.toNextToken.dropStale
  let l := l.unwindTo l.cursor.column
  if l.cursor.rest.isEmpty then l.finish else l.token

/-- The tokens that nothing can be put in front of any more: those before the first possible
key. -/
def settled (l : Lexer) : List Token :=
  let places := (l.keyPlace :: l.outer).filterMap fun k =>
    k.bind fun k => if isStale l.cursor k then none else some k.before
  l.tokens.reverse.take (places.foldl min l.count)

/-- The reading up to the end of the text or to a fault. A fault shows as soon as a token is asked
for that is not settled. -/
def run (fuel : Nat) (l : Lexer) : List Token × Option Fault :=
  match fuel with
  | 0 => (l.tokens.reverse, some .markup)
  | fuel + 1 =>
    match l.step with
    | .error f => (l.settled, some f)
    | .ok l' =>
      if l'.tokens.head? = some .streamEnd then (l'.tokens.reverse, none) else run fuel l'

end Lexer

/-- The **tokens** of a text, and the fault at which the reading stopped, if it did. -/
def tokens (cs : List Char) : List Token × Option Fault :=
  if cs.all isAllowed then Lexer.run (cs.length + 2) (Lexer.start cs) else ([], some .markup)

end StackManifest.Yaml
