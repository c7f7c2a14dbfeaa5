import StackManifest.Fault
import StackManifest.Json.Reader
import StackManifest.Yaml.Cursor
import StackManifest.Yaml.Token

/-!
# Names, tags and directives

The tokens before a node and before a document: the **anchor** that names a node and the alias
that refers to it, the tag that says what a node is, and the directives.

* `Cursor.name` – the name of an anchor or an alias;
* `Cursor.tag` – a tag, with its **escapes** resolved;
* `Cursor.directive` – a directive and the rest of its line.
-/

namespace StackManifest.Yaml

/-- The fault of a text that is not well-formed. -/
def illFormed : Except Fault α := .error .markup

/-- A condition that a well-formed text meets. -/
def require (b : Bool) : Except Fault Unit := if b then .ok () else illFormed

namespace Cursor

/-- The **name** of an anchor or an alias, after its mark. -/
def name (c : Cursor) : Except Fault (String × Cursor) := do
  let (cs, c) := c.next.takeWhile isWordChar
  require (!cs.isEmpty)
  require (isGap c.head || "?:,]\x7d%@\x60".toList.contains c.head)
  return (String.ofList cs, c)

/-- The characters of a tag besides letters, digits and escapes. -/
def isTagChar (c : Char) : Bool :=
  c.isAlphanum || "-;/?:@&=+$,_.!~*'()[]".toList.contains c

/-- The bytes that are written as escapes, each a percent sign and two hexadecimal digits. -/
def escapedBytes (fuel : Nat) (c : Cursor) : Except Fault (List UInt8 × Cursor) :=
  match fuel with
  | 0 => .ok ([], c)
  | fuel + 1 =>
    if c.head = '%' then
      match Json.hexNumber? [c.peek 1, c.peek 2] with
      | some n => do
        let (bs, c) ← escapedBytes fuel (c.skip 3)
        return (n.toUInt8 :: bs, c)
      | none => illFormed
    else .ok ([], c)

/-- The characters of a tag, with escapes for those that cannot stand in one. -/
def tagChars (fuel : Nat) (c : Cursor) : Except Fault (List Char × Cursor) :=
  match fuel with
  | 0 => .ok ([], c)
  | fuel + 1 =>
    if c.head = '%' then do
      let (bs, c) ← escapedBytes (c.size + 1) c
      match Text.decodeUtf8 bs with
      | .ok cs =>
        let (rest, c) ← tagChars fuel c
        return (cs ++ rest, c)
      | .error _ => illFormed
    else
      let (cs, c) := c.takeWhile isTagChar
      if cs.isEmpty then .ok ([], c)
      else do
        let (rest, c) ← tagChars fuel c
        return (cs ++ rest, c)

/-- The main part of a tag, one character at least. -/
def tagText (c : Cursor) : Except Fault (String × Cursor) := do
  let (cs, c) ← tagChars (c.size + 1) c
  require (!cs.isEmpty)
  return (String.ofList cs, c)

/-- A **handle**: an exclamation mark, or a word between two of them. -/
def tagHandle (c : Cursor) : Except Fault (String × Cursor) := do
  require (c.head = '!')
  if c.peek 1 = ' ' then return ("!", c.next)
  let (cs, d) := c.next.takeWhile isWordChar
  if d.head = '!' then return (String.ofList ('!' :: cs ++ ['!']), d.next)
  require cs.isEmpty
  return ("!", d)

/-- Whether a tag begins with a handle that is more than an exclamation mark. -/
def hasHandle (c : Cursor) : Bool :=
  ((c.rest.drop 1).takeWhile fun ch => !isSpaceOrEnd ch).contains '!'

/-- A **tag**: whole between angle brackets, or after a handle, or an exclamation mark
alone. -/
def tag (c : Cursor) : Except Fault (Token × Cursor) := do
  let next := c.peek 1
  let (t, c) ←
    if next = '<' then do
      let (s, c) ← (c.skip 2).tagText
      require (c.head = '>')
      pure (Token.tag none s, c.next)
    else if isGap next then
      pure (Token.tag none "!", c.next)
    else do
      let (handle, c) ← if c.hasHandle then c.tagHandle else pure ("!", c.next)
      let (s, c) ← c.tagText
      pure (Token.tag (some handle) s, c)
  require (isSpaceOrEnd c.head)
  return (t, c)

/-- The rest of a line that holds nothing but a comment. -/
def restOfLine (c : Cursor) : Except Fault Cursor := do
  let c := c.skipSpaces
  let c := if c.head = '#' then c.skipWhile (!isBreakOrEnd ·) else c
  require (isBreakOrEnd c.head)
  return c.lineBreak.2

/-- A number in digits. -/
def number (c : Cursor) : Except Fault (Nat × Cursor) := do
  let (ds, c) := c.takeWhile Json.isBasicDigit
  require (!ds.isEmpty)
  if digitLimit < ds.length then throw (.tooManyDigits ds.length)
  return (Text.digitsValue ds, c)

/-- The version after its directive's name. -/
def versionDirective (c : Cursor) : Except Fault (Token × Cursor) := do
  let (major, c) ← c.skipSpaces.number
  require (c.head = '.')
  let (minor, c) ← c.next.number
  require (isSpaceOrEnd c.head)
  return (.versionDirective major minor, c)

/-- The handle and its expansion after the name of a tag directive. -/
def tagDirective (c : Cursor) : Except Fault (Token × Cursor) := do
  let (handle, c) ← c.skipSpaces.tagHandle
  require (c.head = ' ')
  let (expansion, c) ← c.skipSpaces.tagText
  require (isSpaceOrEnd c.head)
  return (.tagDirective handle expansion, c)

/-- A **directive** and the rest of its line. -/
def directive (c : Cursor) : Except Fault (Token × Cursor) := do
  let (name, c) := c.next.takeWhile isWordChar
  require (!name.isEmpty && isSpaceOrEnd c.head)
  let (t, c) ←
    if name = "YAML".toList then c.versionDirective
    else if name = "TAG".toList then c.tagDirective
    else pure (Token.otherDirective, c.skipWhile (!isBreakOrEnd ·))
  return (t, ← c.restOfLine)

end Cursor

end StackManifest.Yaml
