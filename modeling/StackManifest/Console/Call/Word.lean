import StackManifest.Console.Call.Complaint
import StackManifest.Text.Letter

/-!
# Words of an expression

An expression is made of names, numbers, texts between quotes, and signs.

* `Word` – a **word**;
* `scanNumber` and `scanText` – a number and a text at the beginning of some characters;
* `splitSign?` – a sign at the beginning of some characters.
-/

namespace StackManifest.Console.Call

open StackManifest.Text

/-- A number, as far as it matters: a decimal one has a number of digits. -/
inductive NumberForm where
  | decimal (digits : Nat)
  | other
  | imaginary
  deriving DecidableEq, Repr

/-- A **word** of an expression. -/
inductive Word where
  | name (s : String)
  | number (form : NumberForm)
  /-- A text: whether it is one of bytes, whether it has a form to fill in, and what is wrong with
  it. -/
  | text (isBytes isFormed : Bool) (wrong : Option Complaint)
  | sign (s : String)
  | indent
  | lineEnd
  | finish
  /-- The end within a bracket. -/
  | unclosed (c : Char)
  /-- What is no word, and the text after it. -/
  | wrong (c : Complaint)
  deriving DecidableEq, Repr

/-! ### Numbers -/

/-- The characters after a decimal number that goes on with digits, or ties between digits. -/
def decimalTail : List Char → Except Complaint (List Char)
  | '_' :: d :: cs => if d.isDigit then decimalTail cs else .error (.badNumber "decimal")
  | ['_'] => .error (.badNumber "decimal")
  | d :: cs => if d.isDigit then decimalTail cs else .ok (d :: cs)
  | [] => .ok []

/-- Whether what follows a number at once begins with a word that may: one that no letter or
digit follows, or one of the shortest. -/
def mayFollow (cs : List Char) : Bool :=
  (["if", "in", "is"].any fun s => s.toList.isPrefixOf cs)
    || ["and", "else", "for", "or", "not"].any fun s =>
      s.toList.isPrefixOf cs
        && !((cs.drop s.length).head?.any fun c => c.isAlphanum || c = '_' || 0x80 ≤ c.toNat)

/-- A number of a kind that **ends** before some characters. -/
def endNumber (kind : String) (form : NumberForm) (cs : List Char) :
    Except Complaint (NumberForm × List Char) :=
  let goesOn := cs.head?.any fun c => c.isAlphanum || c = '_'
  if goesOn ∧ !mayFollow cs then .error (.badNumber kind)
  else .ok (form, cs)

/-- A number that may go on with the letter of an imaginary one. -/
def endReal (form : NumberForm) : List Char → Except Complaint (NumberForm × List Char)
  | 'j' :: cs | 'J' :: cs => endNumber "imaginary" .imaginary cs
  | cs => endNumber "decimal" form cs

/-- A number that may go on with an exponent. -/
def scanExponent (form : NumberForm) (cs : List Char) :
    Except Complaint (NumberForm × List Char) := do
  match cs with
  | e :: rest =>
    if e = 'e' ∨ e = 'E' then
      match rest with
      | c :: d :: tail =>
        if c.isDigit then endReal .other (← decimalTail (d :: tail))
        else if c = '+' ∨ c = '-' then
          if d.isDigit then endReal .other (← decimalTail tail) else throw (.badNumber "decimal")
        else endNumber "decimal" form cs
      | [c] =>
        if c.isDigit then endReal .other []
        else if c = '+' ∨ c = '-' then throw (.badNumber "decimal")
        else endNumber "decimal" form cs
      | [] => endNumber "decimal" form cs
    else endReal form cs
  | [] => return (form, [])

/-- A number after its point. -/
def scanFraction (cs : List Char) : Except Complaint (NumberForm × List Char) := do
  match cs with
  | d :: rest => scanExponent .other (← if d.isDigit then decimalTail rest else pure cs)
  | [] => return (.other, [])

/-- A decimal number after its first digits. -/
def scanDecimal (form : NumberForm) : List Char → Except Complaint (NumberForm × List Char)
  | '.' :: cs => scanFraction cs
  | cs => scanExponent form cs

/-- A number in another base, after its mark or some of its digits. -/
def scanBase (fuel : Nat) (kind : String) (isValid : Char → Bool) (cs : List Char) :
    Except Complaint (NumberForm × List Char) :=
  match fuel with
  | 0 => .error (.badNumber kind)
  | fuel + 1 =>
    let cs := match cs with
      | '_' :: rest => rest
      | cs => cs
    let digits := cs.takeWhile isValid
    let rest := cs.drop digits.length
    match digits, rest with
    | [], c :: _ =>
      if c.isDigit ∧ kind ≠ "hexadecimal" then .error (.badDigit c kind)
      else .error (.badNumber kind)
    | [], [] => .error (.badNumber kind)
    | _, '_' :: _ => scanBase fuel kind isValid rest
    | _, c :: _ =>
      if c.isDigit then .error (.badDigit c kind) else endNumber kind .other rest
    | _, [] => .ok (.other, [])

/-- The characters after the zeros, and the ties between them, with which a number begins. -/
def dropZeros : List Char → Except Complaint (List Char)
  | '_' :: d :: cs =>
    if d = '0' then dropZeros cs
    else if d.isDigit then .ok (d :: cs)
    else .error (.badNumber "decimal")
  | ['_'] => .error (.badNumber "decimal")
  | '0' :: cs => dropZeros cs
  | cs => .ok cs

/-- A **number** at the beginning of some characters, the first of which is a digit. -/
def scanNumber (cs : List Char) : Except Complaint (NumberForm × List Char) := do
  match cs with
  | '0' :: c :: rest =>
    if c = 'x' ∨ c = 'X' then
      scanBase cs.length "hexadecimal" (fun d =>
        d.isDigit || ('a' ≤ d && d ≤ 'f') || ('A' ≤ d && d ≤ 'F')) rest
    else if c = 'o' ∨ c = 'O' then
      scanBase cs.length "octal" (fun d => '0' ≤ d && d ≤ '7') rest
    else if c = 'b' ∨ c = 'B' then
      scanBase cs.length "binary" (fun d => d = '0' || d = '1') rest
    else
      let after ← dropZeros (c :: rest)
      match after with
      | d :: tail =>
        if d.isDigit then
          let tail ← decimalTail tail
          if tail.head?.any fun c => ".eEjJ".toList.contains c then scanDecimal .other tail
          else throw .leadingZeros
        else scanDecimal (.decimal 1) after
      | [] => return (.decimal 1, [])
  | _ :: rest =>
    let after ← decimalTail rest
    let digits := (cs.take (cs.length - after.length)).filter (· ≠ '_')
    scanDecimal (.decimal digits.length) after
  | [] => return (.other, [])

/-! ### Texts -/

/-- The digits of an escape, by its letter. -/
def escapeDigits : List (Char × Nat) := [('x', 2), ('u', 4), ('U', 8)]

/-- Whether a character is a hexadecimal digit. -/
def isHexDigit (c : Char) : Bool :=
  c.isDigit || ('a' ≤ c && c ≤ 'f') || ('A' ≤ c && c ≤ 'F')

/-- What is wrong with the escapes of a text, whose characters take so many places each: one, or
ten beyond the first 128. -/
def wrongEscape (place : Nat) : List Char → Option Complaint
  | '\\' :: c :: cs =>
    match escapeDigits.lookup c with
    | some n =>
      let digits := (cs.take n).takeWhile isHexDigit
      if digits.length < n then
        some (.badEscape place (place + 1 + digits.length) ("truncated \\" ++ c.toString
          ++ String.ofList (List.replicate n 'X') ++ " escape"))
      else if 0x10FFFF < digits.foldl (fun m d => 16 * m + (d.toNat % 32 + d.toNat / 64 * 9) % 16) 0
      then some (.badEscape place (place + 1 + n) "illegal Unicode character")
      else wrongEscape (place + 2) cs
    | none =>
      if c = 'N' then
        let name := (cs.drop 1).takeWhile (· ≠ '\x7d')
        if cs.head? ≠ some '\x7b' then
          some (.badEscape place (place + 1) "malformed \\N character escape")
        else if name.isEmpty ∨ cs.length ≤ name.length + 1 then
          some (.badEscape place (place + 2 + name.length) "malformed \\N character escape")
        else wrongEscape (place + 2) cs
      else wrongEscape (place + if c.toNat < 0x80 then 2 else 16) cs
  | c :: cs => wrongEscape (place + if c.toNat < 0x80 then 1 else 10) cs
  | [] => none

/-- What is wrong with the escapes of a text of bytes. -/
def wrongByteEscape (place : Nat) : List Char → Option Complaint
  | '\\' :: c :: cs =>
    if c = 'x' ∧ ((cs.take 2).takeWhile isHexDigit).length < 2 then some (.badByteEscape place)
    else wrongByteEscape (place + 2) cs
  | _ :: cs => wrongByteEscape (place + 1) cs
  | [] => none

/-- The characters before the closing quotes, with their backslashes, and those after them. -/
def splitText (quote : List Char) (inside : List Char) : List Char → Option (List Char × List Char)
  | [] => none
  | '\\' :: c :: cs => splitText quote (c :: '\\' :: inside) cs
  | c :: cs =>
    if quote.isPrefixOf (c :: cs) then some (inside.reverse, (c :: cs).drop quote.length)
    else if c = '\n' ∧ quote.length = 1 then none
    else splitText quote (c :: inside) cs

/-- The lines that some characters begin. -/
def lineCount (cs : List Char) : Nat := cs.count '\n'

/-- How many lines a text goes on before a line break that no backslash joins. -/
def joinedLines : List Char → Nat
  | [] | '\n' :: _ => 0
  | '\\' :: c :: cs => (if c = '\n' then 1 else 0) + joinedLines cs
  | _ :: cs => joinedLines cs

/-- A **text** after its mark, at its quotes, in a line. -/
def scanText (mark : List Char) (line : Nat) (cs : List Char) :
    Except Complaint (Word × List Char) :=
  let q := (cs.head?).getD '"'
  let quote := if [q, q, q].isPrefixOf cs then [q, q, q] else [q]
  match splitText quote [] (cs.drop quote.length) with
  | some (inside, rest) =>
    let has := fun (c : Char) => mark.any fun d => d.toLower = c
    let wrong :=
      if has 'b' ∧ inside.any (fun c => 0x80 ≤ c.toNat) then some .foreignBytes
      else if has 'r' ∨ has 'f' then none
      else if has 'b' then wrongByteEscape 0 inside
      else wrongEscape 0 inside
    .ok (.text (has 'b') (has 'f') wrong, rest)
  | none =>
    if quote.length = 3 then .error (.unterminated true (line + lineCount cs))
    else .error (.unterminated false (line + joinedLines (cs.drop 1)))

/-- The mark of a text at the beginning of some characters, which quotes must follow. -/
def splitMark? (mark : List Char) : List Char → Option (List Char × List Char)
  | [] => none
  | c :: cs =>
    if c = '"' ∨ c = '\'' then some (mark.reverse, c :: cs)
    else
      let has := fun (d : Char) => mark.contains d
      let d := c.toLower
      let fits :=
        if d = 'b' then !has 'b' && !has 'u' && !has 'f'
        else if d = 'u' then mark.isEmpty
        else if d = 'r' then !has 'r' && !has 'u'
        else if d = 'f' then !has 'f' && !has 'b' && !has 'u'
        else false
      if fits then splitMark? (d :: mark) cs else none

/-! ### Signs -/

/-- The signs of several characters, longest first. -/
def longSigns : List String :=
  ["**=", "//=", "<<=", ">>=", "...", "!=", "%=", "&=", "**", "*=", "+=", "-=", "->", "//", "/=",
   ":=", "<<", "<=", "<>", "==", ">=", ">>", "@=", "^=", "|="]

/-- A **sign** at the beginning of some characters, and the characters after it. -/
def splitSign? (cs : List Char) : Option (String × List Char) :=
  match longSigns.find? fun s => s.toList.isPrefixOf cs with
  | some s => some (s, cs.drop s.length)
  | none =>
    match cs with
    | c :: rest => some (c.toString, rest)
    | [] => none

end StackManifest.Console.Call
