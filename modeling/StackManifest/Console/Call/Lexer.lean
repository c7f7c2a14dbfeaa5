import StackManifest.Console.Call.Word
import StackManifest.Text.Lines

/-!
# From characters to words

The words of an expression, each with its line and the number of brackets that are open after it.
Within brackets line breaks are blanks.

* `Token` – a word, with its **line**, and how many brackets are **open** after it;
* `Token.scan` – the **tokens** of a text.
-/

namespace StackManifest.Console.Call

open StackManifest.Text

/-- A word, with its **line**, and how many brackets are **open** after it. The end within a bracket
has the line of the bracket. -/
structure Token where
  word : Word
  line : Nat
  depth : Nat
  deriving Repr

namespace Token

/-- The most brackets that can be open. -/
def depthLimit : Nat := 200

/-- Where the scan is. -/
structure Position where
  line : Nat
  /-- The brackets that are open, innermost first, each with its line. -/
  brackets : List (Char × Nat)
  /-- Whether there are words in the line. -/
  hasWords : Bool

/-- A word at a position. -/
def Position.token (p : Position) (w : Word) : Token := ⟨w, p.line, p.brackets.length⟩

/-- The bracket that closes an opening one. -/
def closing (c : Char) : Char := if c = '(' then ')' else '\x7d'

/-- The position after a **sign**, which may open or close a bracket. -/
def afterSign (p : Position) (s : String) : Except Complaint Position :=
  match s.toList with
  | [c] =>
    if c = '(' ∨ c = '\x7b' then
      if depthLimit ≤ p.brackets.length then .error .tooDeep
      else .ok { p with brackets := (c, p.line) :: p.brackets }
    else if c = ')' ∨ c = '\x7d' then
      match p.brackets with
      | [] => .error (.unmatched c)
      | (d, line) :: brackets =>
        if closing d = c then .ok { p with brackets }
        else .error (.mismatched c d (if line = p.line then none else some line))
    else .ok p
  | _ => .ok p

/-- The characters of a **name**, the first of which is given, or the one that belongs to none. -/
def splitName (cs : List Char) : Except Complaint (String × List Char) :=
  let name := cs.takeWhile fun c => c.isAlphanum || c = '_' || 0x80 ≤ c.toNat
  let wrong := (name.take 1).find? (!beginsName ·) <|> (name.drop 1).find? (!continuesName ·)
  match wrong with
  | some c => .error (.badCharacter c)
  | none => .ok (String.ofList name, cs.drop name.length)

/-- The word at the beginning of some characters that are no blanks, and the characters after. -/
def splitWord (p : Position) (cs : List Char) : Except Complaint (Word × List Char) := do
  match splitMark? [] cs with
  | some (mark, rest) => scanText mark p.line rest
  | none =>
    match cs with
    | c :: rest =>
      if c.isAlpha ∨ c = '_' ∨ 0x80 ≤ c.toNat then
        let (s, rest) ← splitName cs
        return (.name s, rest)
      else if c.isDigit then
        let (form, rest) ← scanNumber cs
        return (.number form, rest)
      else if c = '.' ∧ rest.head?.any Char.isDigit then
        let (form, rest) ← scanFraction rest
        return (.number form, rest)
      else if !isPrintable c then throw (.badCharacter c)
      else
        match splitSign? cs with
        | some (s, rest) => return (.sign s, rest)
        | none => throw .invalid
    | [] => throw .invalid

/-- Whether a line begins with blanks and then a word. -/
def isIndented (cs : List Char) : Bool :=
  let isBlank := fun (c : Char) => c = ' ' || c = '\t'
  cs.head?.any isBlank && (cs.dropWhile isBlank).head?.any fun c => c ≠ '\n' && c ≠ '#'

/-- The tokens of some characters at a position. What is no word is the last of them. -/
def scanFrom (fuel : Nat) (p : Position) (cs : List Char) : List Token :=
  match fuel, cs with
  | 0, _ | _, [] =>
    match p.brackets with
    | (c, line) :: brackets => [⟨.unclosed c, line, brackets.length + 1⟩]
    | [] => [p.token .lineEnd, p.token .finish]
  | fuel + 1, c :: rest =>
    if c = ' ' ∨ c = '\t' ∨ c = '\x0c' then scanFrom fuel p rest
    else if c = '#' then scanFrom fuel p (rest.dropWhile (· ≠ '\n'))
    else if c = '\n' then
      let next := { p with line := p.line + 1, hasWords := false }
      let tokens := scanFrom fuel next rest
      if p.brackets.isEmpty then
        (if p.hasWords then [p.token .lineEnd] else [])
          ++ (if isIndented rest then [next.token .indent] else []) ++ tokens
      else tokens
    else if c = '\\' then
      match rest with
      | '\n' :: after =>
        if after.isEmpty then
          match p.brackets with
          | (c, line) :: brackets => [⟨.unclosed c, line, brackets.length + 1⟩]
          | [] => [p.token (.wrong .unexpectedEnd)]
        else scanFrom fuel { p with line := p.line + 1 } after
      | _ => [p.token (.wrong .badContinuation)]
    else
      let step := do
        let (w, after) ← splitWord p cs
        let next ← match w with
          | .sign s => afterSign p s
          | _ => pure { p with line := p.line + lineCount (cs.take (cs.length - after.length)) }
        return (w, next, after)
      match step with
      | .ok (w, next, after) =>
        { next.token w with line := p.line } :: scanFrom fuel { next with hasWords := true } after
      | .error c => [p.token (.wrong c)]

/-- The **tokens** of a text. -/
def scan (cs : List Char) : List Token :=
  if cs.contains '\x00' then [⟨.wrong .zeroCharacter, 1, 0⟩]
  else
    scanFrom (cs.length + 1) ⟨1, [], false⟩
      (unifyBreaks (cs.dropWhile fun c => c = ' ' || c = '\t'))

end Token

end StackManifest.Console.Call
