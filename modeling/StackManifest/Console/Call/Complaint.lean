import StackManifest.Fault

/-!
# What is wrong with the arguments of a call

The arguments of a call are written as an expression. Each `Complaint` says why a text is none;
where a mistake is a usual one, it also says what may have been meant.

* `Complaint` – the **causes**;
* `Complaint.message` – their wording.
-/

namespace StackManifest.Console.Call

open StackManifest.Text

/-- **Why** a text is no expression. -/
inductive Complaint where
  /-- A word cannot stand where it does. -/
  | invalid
  /-- The text holds the character of code zero. -/
  | zeroCharacter
  /-- A character belongs to no word. -/
  | badCharacter (c : Char)
  /-- A number of a kind goes on with what does not belong to it. -/
  | badNumber (kind : String)
  /-- A digit is too large for a number of a kind. -/
  | badDigit (c : Char) (kind : String)
  | leadingZeros
  | tooManyDigits (count : Nat)
  /-- Quotes are not closed up to the end, which is in a line. -/
  | unterminated (isLong : Bool) (line : Nat)
  | mixedTexts
  | foreignBytes
  /-- An escape in a text is not complete; its place, and what is wrong with it. -/
  | badEscape (first last : Nat) (reason : String)
  | badByteEscape (place : Nat)
  | badContinuation
  | unexpectedEnd
  | unexpectedIndent
  | unclosed (c : Char)
  | unmatched (c : Char)
  /-- A bracket closes another one, which was opened in a line, if that is not the same. -/
  | mismatched (closing opening : Char) (line : Option Nat)
  | tooDeep
  | missingComma
  | missingElse
  | missingCall (name : String)
  | maybeEqual
  | cannotAssignHere (what : String)
  | cannotAssign (what : String)
  | noAssignment
  | cannotName (what : String)
  | starredGroup (isDouble : Bool)
  | lonelyStar
  | missingColon
  | missingValue
  | starredValue
  | lateArgument (afterUnpacking : Bool)
  | lateStar
  | bareGenerator
  | bareTarget
  | bareStar
  | starredGenerator (isDouble : Bool)
  deriving DecidableEq, Repr

/-- The code of a character, in four hexadecimal digits at least. -/
def codePoint (c : Char) : String :=
  "U+" ++ String.ofList ((hexDigits 4 c.toNat).map Char.toUpper)

/-- The **wording** of a complaint. -/
def Complaint.message : Complaint → String
  | .invalid => "invalid syntax"
  | .zeroCharacter => "source code string cannot contain null bytes"
  | .badCharacter c =>
    if isPrintable c then "invalid character '" ++ c.toString ++ "' (" ++ codePoint c ++ ")"
    else "invalid non-printable character " ++ codePoint c
  | .badNumber kind => s!"invalid {kind} literal"
  | .badDigit c kind => "invalid digit '" ++ c.toString ++ s!"' in {kind} literal"
  | .leadingZeros =>
    "leading zeros in decimal integer literals are not permitted; "
      ++ "use an 0o prefix for octal integers"
  | .tooManyDigits n =>
    (Fault.tooManyDigits n).message
      ++ " - Consider hexadecimal for huge integer literals to avoid decimal conversion limits."
  | .unterminated isLong line =>
    (if isLong then "unterminated triple-quoted string literal" else "unterminated string literal")
      ++ s!" (detected at line {line})"
  | .mixedTexts => "cannot mix bytes and nonbytes literals"
  | .foreignBytes => "bytes can only contain ASCII literal characters"
  | .badEscape first last reason =>
    "(unicode error) 'unicodeescape' codec can't decode bytes in position "
      ++ s!"{first}-{last}: " ++ reason
  | .badByteEscape place => "(value error) invalid \\x escape at position " ++ toString place
  | .badContinuation => "unexpected character after line continuation character"
  | .unexpectedEnd => "unexpected EOF while parsing"
  | .unexpectedIndent => "unexpected indent"
  | .unclosed c => "'" ++ c.toString ++ "' was never closed"
  | .unmatched c => "unmatched '" ++ c.toString ++ "'"
  | .mismatched c d line =>
    "closing parenthesis '" ++ c.toString ++ "' does not match opening parenthesis '"
      ++ d.toString ++ "'" ++ (line.map fun n => s!" on line {n}").getD ""
  | .tooDeep => "too many nested parentheses"
  | .missingComma => "invalid syntax. Perhaps you forgot a comma?"
  | .missingElse => "expected 'else' after 'if' expression"
  | .missingCall name =>
    s!"Missing parentheses in call to '{name}'. Did you mean {name}(...)?"
  | .maybeEqual => "invalid syntax. Maybe you meant '==' or ':=' instead of '='?"
  | .cannotAssignHere what =>
    s!"cannot assign to {what} here. Maybe you meant '==' instead of '='?"
  | .cannotAssign what => s!"cannot assign to {what}"
  | .noAssignment => "expression cannot contain assignment, perhaps you meant \"==\"?"
  | .cannotName what => s!"cannot use assignment expressions with {what}"
  | .starredGroup false => "cannot use starred expression here"
  | .starredGroup true => "cannot use double starred expression here"
  | .lonelyStar => "Invalid star expression"
  | .missingColon => "':' expected after dictionary key"
  | .missingValue => "expression expected after dictionary key and ':'"
  | .starredValue => "cannot use a starred expression in a dictionary value"
  | .lateArgument false => "positional argument follows keyword argument"
  | .lateArgument true => "positional argument follows keyword argument unpacking"
  | .lateStar => "iterable argument unpacking follows keyword argument unpacking"
  | .bareGenerator => "Generator expression must be parenthesized"
  | .bareTarget => "did you forget parentheses around the comprehension target?"
  | .bareStar => "named arguments must follow bare *"
  | .starredGenerator false => "iterable unpacking cannot be used in comprehension"
  | .starredGenerator true => "dict unpacking cannot be used in dict comprehension"

end StackManifest.Console.Call
