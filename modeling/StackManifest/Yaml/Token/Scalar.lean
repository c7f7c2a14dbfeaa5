import StackManifest.Yaml.Token.Property

/-!
# Scalars

A scalar is written **plain**, between single quotes, where a quote is written twice, between
double quotes with escapes, or as a block of lines, kept as they are or folded. A single line
break within a scalar on several lines is read as a space.

* `Cursor.plain` – a plain scalar;
* `Cursor.quoted` – a scalar between quotes of either sort;
* `Cursor.block` – a scalar as a block of lines.
-/

namespace StackManifest.Yaml.Cursor

/-- What several line breaks amount to: a first break that is no usual one stays, a usual one
becomes a space if it is the only one, and the others stay. -/
def foldBreaks (first : List Char) (more : List Char) : List Char :=
  (if first ≠ ['\n'] then first else if more.isEmpty then [' '] else []) ++ more

/-! ### Plain scalars -/

/-- The empty lines after a line break within a plain scalar, and the spaces around them. None
if a mark between documents ends the scalar. -/
def plainBreaks (fuel : Nat) (c : Cursor) : Option (List Char × Cursor) :=
  match fuel with
  | 0 => some ([], c)
  | fuel + 1 =>
    if c.head = ' ' then plainBreaks fuel c.next
    else if isBreak c.head then
      let (b, c) := c.lineBreak
      if c.isDocumentMark then none
      else (plainBreaks fuel c).map fun (bs, c) => (b ++ bs, c)
    else some ([], c)

/-- The space between two stretches of a plain scalar: what it is read as, the place after
it, and whether it holds a line break. Nothing is read where the scalar ends. -/
def plainSpace (c : Cursor) : List Char × Cursor × Bool :=
  let (spaces, d) := c.takeWhile (· = ' ')
  if isBreak d.head then
    let (first, e) := d.lineBreak
    if e.isDocumentMark then ([], e, true)
    else match plainBreaks (e.size + 1) e with
      | none => ([], e, true)
      | some (more, f) => (foldBreaks first more, f, true)
  else (spaces, d, false)

/-- Whether a plain scalar cannot go on at a place: a gap, a colon before a gap, and within
brackets also the marks of structure. -/
def endsPlain (inFlow : Bool) (c next : Char) : Bool :=
  isGap c
    || (c = ':' && (isGap next || (inFlow && ",[]\x7b\x7d".toList.contains next)))
    || (inFlow && ",?[]\x7b\x7d".toList.contains c)

/-- The next stretch of a plain scalar. -/
def plainStretch (inFlow : Bool) : List Char → List Char
  | [] => []
  | c :: cs =>
    if endsPlain inFlow c (cs.headD '\x00') then [] else c :: plainStretch inFlow cs

/-- A **plain scalar** after what was read of it before, to be continued on lines that are
indented far enough. With it come the place after it and whether a line break was passed last
and so a key may follow. -/
def plainFrom (inFlow : Bool) (indent : Int) (fuel : Nat) (before : List Char) (c : Cursor)
    (broke : Bool) : List Char × Cursor × Bool :=
  match fuel with
  | 0 => ([], c, broke)
  | fuel + 1 =>
    if c.head = '#' then ([], c, broke)
    else
      let cs := plainStretch inFlow c.rest
      if cs.isEmpty then ([], c, broke)
      else
        let (space, d, broke) := (c.skip cs.length).plainSpace
        if space.isEmpty ∨ d.head = '#' ∨ (!inFlow ∧ (d.column : Int) < indent) then
          (before ++ cs, d, broke)
        else
          let (rest, d, broke) := plainFrom inFlow indent fuel space d broke
          (before ++ cs ++ rest, d, broke)

/-- A **plain scalar** in a block of a given indentation, the place after it, and whether a
key may follow. -/
def plain (inFlow : Bool) (indent : Int) (c : Cursor) : Token × Cursor × Bool :=
  let (cs, d, broke) := plainFrom inFlow (indent + 1) (c.size + 1) [] c false
  (.scalar (String.ofList cs) true, d, broke)

/-! ### Quoted scalars -/

/-- The line breaks and spaces at the beginning of lines within a quoted scalar. -/
def quotedBreaks (fuel : Nat) (c : Cursor) : Except Fault (List Char × Cursor) :=
  match fuel with
  | 0 => .ok ([], c)
  | fuel + 1 => do
    require (!c.isDocumentMark)
    let d := c.skipWhile fun ch => ch = ' ' || ch = '\t'
    if isBreak d.head then
      let (b, e) := d.lineBreak
      let (bs, e) ← quotedBreaks fuel e
      return (b ++ bs, e)
    else return ([], d)

/-- The space within a quoted scalar. -/
def quotedSpace (c : Cursor) : Except Fault (List Char × Cursor) := do
  let (spaces, d) := c.takeWhile fun ch => ch = ' ' || ch = '\t'
  require (d.head ≠ '\x00')
  if isBreak d.head then
    let (first, e) := d.lineBreak
    let (more, f) ← e.quotedBreaks (e.size + 1)
    return (foldBreaks first more, f)
  else return (spaces, d)

/-- The character that a letter after a backslash stands for. -/
def escaped? (c : Char) : Option Char :=
  [('0', '\x00'), ('a', '\x07'), ('b', '\x08'), ('t', '\t'), ('\t', '\t'), ('n', '\n'),
   ('v', '\x0b'), ('f', '\x0c'), ('r', '\r'), ('e', '\x1b'), (' ', ' '), ('"', '"'),
   ('\\', '\\'), ('/', '/'), ('N', '\u0085'), ('_', '\u00a0'), ('L', '\u2028'),
   ('P', '\u2029')].lookup c

/-- How many hexadecimal digits follow a letter after a backslash. -/
def codeLength? (c : Char) : Option Nat :=
  [('x', 2), ('u', 4), ('U', 8)].lookup c

/-- The character of a code point. -/
def charOfCode (n : Nat) : Except Fault Char :=
  if n < 0x110000 then .ok (Char.ofNat n) else .error (.badCodePoint (n < 0x80000000))

/-- An **escape**, after its backslash. -/
def escape (c : Cursor) : Except Fault (List Char × Cursor) :=
  match escaped? c.head with
  | some ch => .ok ([ch], c.next)
  | none =>
    match codeLength? c.head with
    | some k => do
      let digits := c.next.rest.take k
      require (digits.length = k)
      match Json.hexNumber? digits with
      | some n => return ([← charOfCode n], c.next.skip k)
      | none => illFormed
    | none => do
      require (isBreak c.head)
      let d := c.lineBreak.2
      d.quotedBreaks (d.size + 1)

/-- A quoted scalar from a place within it up to the quote that closes it. -/
def quotedFrom (double : Bool) (fuel : Nat) (c : Cursor) : Except Fault (List Char × Cursor) :=
  match fuel with
  | 0 => illFormed
  | fuel + 1 =>
    let go := fun (cs : List Char) (d : Cursor) => do
      let (rest, e) ← quotedFrom double fuel d
      return (cs ++ rest, e)
    let quote := if double then '"' else '\''
    if c.head = quote then
      if !double ∧ c.peek 1 = '\'' then go ['\''] (c.skip 2) else .ok ([], c.next)
    else if double ∧ c.head = '\\' then do
      let (cs, d) ← c.next.escape
      go cs d
    else if isGap c.head then do
      let (cs, d) ← c.quotedSpace
      go cs d
    else go [c.head] c.next

/-- A **quoted scalar**, from its opening quote. -/
def quoted (double : Bool) (c : Cursor) : Except Fault (Token × Cursor) := do
  let (cs, d) ← quotedFrom double (c.size + 1) c.next
  return (.scalar (String.ofList cs) false, d)

/-! ### Blocks of lines -/

/-- The marks in the head of a block: whether the line breaks at its end are all kept or all
dropped, and how far it is indented. -/
def blockHead (c : Cursor) : Except Fault ((Option Bool × Option Nat) × Cursor) := do
  let chomping := fun (c : Cursor) =>
    if c.head = '+' then (some true, c.next)
    else if c.head = '-' then (some false, c.next)
    else (none, c)
  let indentation := fun (c : Cursor) => do
    if Json.isBasicDigit c.head then
      require (c.head ≠ '0')
      return (some (c.head.toNat - 0x30), c.next)
    else return (none, c)
  let (keep, c) := chomping c
  let (indent, c) ← indentation c
  let (keep, c) := if keep.isNone ∧ indent.isSome then chomping c else (keep, c)
  require (isSpaceOrEnd c.head)
  return ((keep, indent), ← c.restOfLine)

/-- The empty lines in front of a block whose indentation is still to be found, the greatest
column among them, and the place after them. -/
def leadingBreaks (fuel : Nat) (widest : Nat) (c : Cursor) : List Char × Nat × Cursor :=
  match fuel with
  | 0 => ([], widest, c)
  | fuel + 1 =>
    if c.head = ' ' then leadingBreaks fuel (max widest c.next.column) c.next
    else if isBreak c.head then
      let (b, d) := c.lineBreak
      let (bs, widest, d) := leadingBreaks fuel widest d
      (b ++ bs, widest, d)
    else ([], widest, c)

/-- The place after the spaces up to a column. -/
def skipToColumn (indent : Nat) (fuel : Nat) (c : Cursor) : Cursor :=
  match fuel with
  | 0 => c
  | fuel + 1 =>
    if c.column < indent ∧ c.head = ' ' then skipToColumn indent fuel c.next else c

/-- The empty lines between the lines of a block. -/
def blockBreaks (indent : Nat) (fuel : Nat) (c : Cursor) : List Char × Cursor :=
  match fuel with
  | 0 => ([], c)
  | fuel + 1 =>
    let c := c.skipToColumn indent indent
    if isBreak c.head then
      let (b, d) := c.lineBreak
      let (bs, d) := blockBreaks indent fuel d
      (b ++ bs, d)
    else ([], c)

/-- The lines of a block, after the empty lines in front of it; the last two parts are the
line break after the last line and the empty lines at the end. -/
def blockLines (folded : Bool) (indent : Nat) (fuel : Nat) (c : Cursor) :
    List Char × List Char × List Char × Cursor :=
  match fuel with
  | 0 => ([], [], [], c)
  | fuel + 1 =>
    let isSpace := fun (ch : Char) => ch = ' ' || ch = '\t'
    let indented := isSpace c.head
    let (line, c) := c.takeWhile (!isBreakOrEnd ·)
    let (b, c) := c.lineBreak
    let (bs, c) := c.blockBreaks indent (c.size + 1)
    if c.column = indent ∧ c.head ≠ '\x00' then
      let joint :=
        if folded ∧ b = ['\n'] ∧ !indented ∧ !isSpace c.head then
          if bs.isEmpty then [' '] else []
        else b
      let (rest, last, tail, c) := blockLines folded indent fuel c
      (line ++ joint ++ bs ++ rest, last, tail, c)
    else (line, b, bs, c)

/-- A scalar as a **block of lines**, from its mark, in a block of a given indentation. -/
def block (folded : Bool) (parent : Int) (c : Cursor) : Except Fault (Token × Cursor) := do
  let ((keep, increment), c) ← c.next.blockHead
  let least := max (parent + 1) 1 |>.toNat
  let (indent, first, c) := match increment with
    | some n =>
      let indent := least + n - 1
      let (bs, c) := c.blockBreaks indent (c.size + 1)
      (indent, bs, c)
    | none =>
      let (bs, widest, c) := leadingBreaks (c.size + 1) 0 c
      (max least widest, bs, c)
  let (lines, last, tail, c) :=
    if c.column = indent ∧ c.head ≠ '\x00' then
      let (lines, last, tail, c) := blockLines folded indent (c.size + 1) c
      (first ++ lines, last, tail, c)
    else ([], [], first, c)
  let ending := match keep with
    | some false => []
    | some true => last ++ tail
    | none => last
  return (.scalar (String.ofList (lines ++ ending)) false, c)

end StackManifest.Yaml.Cursor
