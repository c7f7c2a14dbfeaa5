import StackManifest.Text.Quoted
import StackManifest.Yaml.Writer.Style

/-!
# The page that a markup text is written on

Writing keeps track of the place on the line, because lines are folded beyond a width, and of
whether the last thing written was blank.

* `Page` – what is **written**, and where;
* `mark`, `newLine`, `indentTo` – marks, line breaks, and the beginning of a line;
* `writePlain`, `writeSingle`, `writeDouble`, `writeLines` – scalars in their styles.
-/

namespace StackManifest.Yaml

/-- What is **written**, last character first; the column, whether the last thing was blank,
and whether only indentation stands on the line. -/
structure Page where
  written : List Char
  column : Nat
  blank : Bool
  indented : Bool

/-- The empty page. -/
def Page.start : Page := ⟨[], 0, true, true⟩

namespace Page

/-- The width beyond which lines are folded. -/
def width : Nat := 80

/-- Puts characters on the page. -/
def put (cs : List Char) (p : Page) : Page :=
  { p with written := cs.reverse ++ p.written, column := p.column + cs.length }

/-- A **mark**, after a blank if it needs one. A mark of structure leaves the line one of
indentation only. -/
def mark (s : String) (needsBlank : Bool) (structural : Bool) (p : Page) : Page :=
  let cs := if p.blank || !needsBlank then s.toList else ' ' :: s.toList
  { p.put cs with blank := false, indented := p.indented && structural }

/-- A line break. -/
def newLine (p : Page) : Page := ⟨'\n' :: p.written, 0, true, true⟩

/-- The beginning of a line at an **indentation**, unless the page stands there already. -/
def indentTo (indent : Nat) (p : Page) : Page :=
  let p := if !p.indented || indent < p.column || (p.column = indent && !p.blank) then p.newLine
    else p
  if p.column < indent then
    { p.put (List.replicate (indent - p.column) ' ') with blank := true }
  else p

/-- The page after something that is no blank. -/
def solid (p : Page) : Page := { p with blank := false, indented := false }

/-- The runs of spaces, of line breaks, and of other characters in a text. -/
def runs (cs : List Char) : List (List Char) :=
  cs.splitBy fun a b => (a = ' ') = (b = ' ') ∧ breaksLine a = breaksLine b

/-- Whether a run is a single space beyond the width. -/
def folds (p : Page) (run : List Char) (split : Bool) : Bool :=
  run = [' '] && width < p.column && split

/-- A scalar **without quotes**. -/
def writePlain (cs : List Char) (split : Bool) (indent : Nat) (p : Page) : Page :=
  if cs.isEmpty then p
  else
    let p := (if p.blank then p else p.put [' ']).solid
    (runs cs).foldl (fun p run =>
      if p.folds run split then (p.indentTo indent).solid else p.put run) p

/-- The runs of a scalar between single quotes: a single space beyond the width is folded
unless it stands at an end, and a line break takes an empty line. -/
def writeRuns (split : Bool) (indent : Nat) (first : Bool) : List (List Char) → Page → Page
  | [], p => p
  | run :: rest, p =>
    let p :=
      if run.head? = some '\n' then (run.foldl (fun p _ => p.newLine) p.newLine).indentTo indent
      else if p.folds run (split && !first && !rest.isEmpty) then p.indentTo indent
      else p.put (run.flatMap fun c => if c = '\'' then ['\'', '\''] else [c])
    writeRuns split indent false rest p

/-- A scalar between **single quotes**. -/
def writeSingle (cs : List Char) (split : Bool) (indent : Nat) (p : Page) : Page :=
  (writeRuns split indent true (runs cs) (p.mark "'" true false)).mark "'" false false

/-- The characters with a short escape, and the letter of it. -/
def escapes : List (Char × Char) :=
  [('\x00', '0'), ('\x07', 'a'), ('\x08', 'b'), ('\t', 't'), ('\n', 'n'), ('\x0b', 'v'),
   ('\x0c', 'f'), ('\r', 'r'), ('\x1b', 'e'), ('"', '"'), ('\\', '\\'), ('\u0085', 'N'),
   ('\u00A0', '_'), ('\u2028', 'L'), ('\u2029', 'P')]

/-- Whether a character stands for itself between double quotes. -/
def isBare (c : Char) : Bool := '\x20' ≤ c && c ≤ '\x7E' && c ≠ '"' && c ≠ '\\'

/-- A number in capital hexadecimal digits with a least width. -/
def capitalHex (width n : Nat) : List Char := (Text.hexDigits width n).map Char.toUpper

/-- The escape of a character. -/
def escape (c : Char) : List Char :=
  match escapes.lookup c with
  | some e => ['\\', e]
  | none =>
    if c.toNat ≤ 0xFF then '\\' :: 'x' :: capitalHex 2 c.toNat
    else if c.toNat ≤ 0xFFFF then '\\' :: 'u' :: capitalHex 4 c.toNat
    else '\\' :: 'U' :: capitalHex 8 c.toNat

/-- A **fold** between double quotes: a backslash at the end of the line, and one before a space
at the beginning of the next. -/
def fold (indent : Nat) (next : Option Char) (p : Page) : Page :=
  let p := ((p.put ['\\']).indentTo indent).solid
  if next = some ' ' then p.put ['\\'] else p

/-- The rest of a scalar between double quotes, after some characters that stand for themselves
and are not on the page yet, last one first. Lines are folded at spaces and beside escapes, but
not around the first or the last character. -/
def writeEscaped (split : Bool) (indent : Nat) (first : Bool) (pending : List Char) :
    List Char → Page → Page
  | [], p => p.put pending.reverse
  | c :: rest, p =>
    let inner := split && !first && !rest.isEmpty
    if isBare c then
      if inner && (c = ' ' || pending.isEmpty) && width < p.column + pending.length then
        writeEscaped split indent false [c] rest ((p.put pending.reverse).fold indent (some c))
      else writeEscaped split indent false (c :: pending) rest p
    else
      let p := (p.put pending.reverse).put (escape c)
      let p := if inner && width + 1 < p.column then p.fold indent rest.head? else p
      writeEscaped split indent false [] rest p

/-- A scalar between **double quotes**. -/
def writeDouble (cs : List Char) (split : Bool) (indent : Nat) (p : Page) : Page :=
  (writeEscaped split indent true [] cs (p.mark "\"" true false)).mark "\"" false false

/-- A scalar **line by line**, where each line has its line break. -/
def writeLines (cs : List Char) (indent : Nat) (p : Page) : Page :=
  let lines := (cs.splitOn '\n').dropLast
  lines.foldl (fun p line => ((p.indentTo indent).put line).newLine)
    (p.mark "|" true false).newLine

/-- A **scalar** in a style. -/
def writeScalar (style : Style) (cs : List Char) (split : Bool) (indent : Nat) : Page → Page :=
  match style with
  | .plain => writePlain cs split indent
  | .single => writeSingle cs split indent
  | .double => writeDouble cs split indent
  | .block => writeLines cs indent

end Page

end StackManifest.Yaml
