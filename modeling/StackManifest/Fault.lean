import StackManifest.Calendar
import StackManifest.Number.Decimal
import StackManifest.Text.Quoted
import StackManifest.Text.Utf8

/-!
# Faults

What stops an operation in the middle: a value of the wrong kind where the operation needs
another one, a quantity that cannot be computed, a text that cannot be read. A fault is not
a report on a document; an operation that meets one has no result.

* `Fault` – the **causes**, each with what its wording needs;
* `FaultFamily` – what kind of failing it is, and `Fault.family`;
* `Fault.message` – the wording.
-/

namespace StackManifest

open StackManifest.Text StackManifest.Number

/-- The number of decimal digits up to which whole numbers are read and written. -/
def digitLimit : Nat := 4300

/-- The **cause** that stops an operation. -/
inductive Fault where
  /-- A table has no entry under a key, which is given as it is shown. -/
  | unknownKey (key : String)
  /-- An operation on decimal numbers has no result. -/
  | decimal (cause : DecimalFault)
  /-- A text has more digits than are read. -/
  | tooManyDigits (count : Nat)
  /-- A whole number has more digits than are written. -/
  | unwritableNumber
  /-- A value that is no number, and is called by a name, was to become a whole number. -/
  | wholeOfNan (name : String)
  /-- An infinity, which is called by a name, was to become a whole number. -/
  | wholeOfInfinity (name : String)
  /-- A quotient of whole numbers is too large. -/
  | quotientTooLarge
  /-- A whole number is too large to be a binary one. -/
  | wholeTooLarge
  /-- A text is no whole number in a base. -/
  | badInteger (base : Nat) (text : String)
  /-- A text is no number. -/
  | badReal (text : String)
  /-- A text is empty where its first character is needed. -/
  | emptyText
  /-- A position, of a name, lies beyond the end of a sequence. -/
  | beyondEnd (position : String)
  /-- A number is too large to be a position at all. -/
  | indexTooLarge
  /-- The kind of a key where a position in a text is needed. -/
  | badTextIndex (key : String)
  /-- Some numbers are no date. -/
  | calendar (cause : CalendarFault)
  /-- A number is no code point, and may be too large even to ask. -/
  | badCodePoint (fits : Bool)
  /-- Some bytes are no text. -/
  | utf8 (cause : Utf8Fault)
  /-- A text is no well-formed markup. -/
  | markup
  /-- A value of a kind has no member of a name. -/
  | noMember (kind member : String)
  /-- A value of a kind has no elements to go through. -/
  | notIterable (kind : String)
  /-- The kind of a key where a position is needed. -/
  | badIndex (container key : String)
  /-- A value of a kind takes no assignments to its elements. -/
  | noAssignment (kind : String)
  /-- A value of a kind has no elements. -/
  | noElements (kind : String)
  /-- Two kinds of values have no product. -/
  | noProduct (left right : String)
  /-- A sequence cannot be repeated a number of times that is of a kind. -/
  | badRepetition (kind : String)
  /-- A value of a kind cannot be a key. -/
  | unhashable (kind : String)
  /-- A value of a kind has no form in the data notation. -/
  | notSerializable (kind : String)
  /-- A value of a kind cannot be the name of a member in the data notation. -/
  | badMemberName (kind : String)
  /-- Two kinds of values have no order, so a sign of order cannot be between them. -/
  | notComparable (sign left right : String)
  /-- A price amount of a group is no amount. -/
  | badAmount (amount name : String)
  /-- A form is looked for in something of a kind that is no text. -/
  | notText (kind : String)
  /-- A value is given for a template under a name that is no text. -/
  | namelessValue
  /-- A value is given for a template under a name that is taken. -/
  | takenName (name : String)
  /-- There is no template of a kind. -/
  | unknownTemplate (kind : String) (known : List String)
  /-- There is no file at a path. -/
  | missingFile (path : String)
  /-- A path leads to a folder. -/
  | folder (path : String)
  /-- A path leads through a file. -/
  | notFolder (path : String)
  /-- A path, or a name in it, is too long. -/
  | longName (path : String)
  /-- A path holds the character of code zero. -/
  | zeroInPath
  /-- A mark on the console closes nothing, or calls for what cannot be called. -/
  | badMark (message : String)
  deriving DecidableEq, Repr

/-- What **kind of failing** a fault is. -/
inductive FaultFamily where
  | key
  | value
  | text
  | type
  | member
  | index
  | arithmetic
  | decimalOverflow
  | overflow
  | file
  | folder
  | notFolder
  | system
  | markup
  | console
  deriving DecidableEq, Repr

/-- The kind of failing that a fault is. -/
def Fault.family : Fault → FaultFamily
  | .unknownKey _ => .key
  | .decimal .overflow => .decimalOverflow
  | .decimal _ => .arithmetic
  | .tooManyDigits _ | .unwritableNumber | .wholeOfNan _ | .badInteger .. | .badReal _
  | .calendar _ | .badCodePoint true | .badAmount .. | .unknownTemplate .. | .zeroInPath => .value
  | .wholeOfInfinity _ | .quotientTooLarge | .wholeTooLarge | .badCodePoint false =>
    .overflow
  | .emptyText | .beyondEnd _ | .indexTooLarge => .index
  | .utf8 _ => .text
  | .markup => .markup
  | .noMember .. => .member
  | .badTextIndex _ | .notIterable _ | .badIndex .. | .noAssignment _ | .noElements _
  | .noProduct .. | .badRepetition _ | .unhashable _ | .notSerializable _ | .badMemberName _
  | .notComparable .. | .notText _ | .namelessValue | .takenName _ => .type
  | .missingFile _ => .file
  | .folder _ => .folder
  | .notFolder _ => .notFolder
  | .longName _ => .system
  | .badMark _ => .console

/-- A fault in the **value** of something, as opposed to its kind or to its place: these
are the faults that the reading and estimating of a document reports like its own. -/
def Fault.isBadValue (f : Fault) : Bool := f.family == .value || f.family == .text

/-- The wording of a decimal fault. -/
def decimalMessage : DecimalFault → String
  | .overflow => "[<class 'decimal.Overflow'>]"
  | .divisionImpossible => "[<class 'decimal.DivisionImpossible'>]"
  | .invalidOperation => "[<class 'decimal.InvalidOperation'>]"
  | .conversionSyntax => "[<class 'decimal.ConversionSyntax'>]"

/-- The **wording** of a fault. -/
def Fault.message : Fault → String
  | .unknownKey k => k
  | .decimal c => decimalMessage c
  | .tooManyDigits n =>
    s!"Exceeds the limit ({digitLimit} digits) for integer string conversion: "
      ++ s!"value has {n} digits; use sys.set_int_max_str_digits() to increase the limit"
  | .unwritableNumber =>
    s!"Exceeds the limit ({digitLimit} digits) for integer string conversion; "
      ++ "use sys.set_int_max_str_digits() to increase the limit"
  | .wholeOfNan name | .wholeOfInfinity name => s!"cannot convert {name} to integer"
  | .quotientTooLarge => "integer division result too large for a float"
  | .wholeTooLarge => "int too large to convert to float"
  | .badInteger base s =>
    s!"invalid literal for int() with base {base}: "
      ++ String.ofList ((quoted s).toList.take 200)
  | .badReal s => s!"could not convert string to float: {quoted s}"
  | .emptyText => "string index out of range"
  | .beyondEnd position => s!"{position} out of range"
  | .indexTooLarge => "cannot fit 'int' into an index-sized integer"
  | .badTextIndex key => s!"string indices must be integers, not '{key}'"
  | .calendar c => c.message
  | .badCodePoint true => "chr() arg not in range(0x110000)"
  | .badCodePoint false => "Python int too large to convert to C int"
  | .utf8 c => c.message
  | .markup => ""
  | .noMember kind member => s!"'{kind}' object has no attribute '{member}'"
  | .notIterable kind => s!"'{kind}' object is not iterable"
  | .badIndex container key => s!"{container} indices must be integers or slices, not {key}"
  | .noAssignment kind => s!"'{kind}' object does not support item assignment"
  | .noElements kind => s!"'{kind}' object is not subscriptable"
  | .noProduct a b => s!"unsupported operand type(s) for *: '{a}' and '{b}'"
  | .badRepetition kind => s!"can't multiply sequence by non-int of type '{kind}'"
  | .unhashable kind => s!"unhashable type: '{kind}'"
  | .notSerializable kind => s!"Object of type {kind} is not JSON serializable"
  | .badMemberName kind => s!"keys must be str, int, float, bool or None, not {kind}"
  | .notComparable sign a b =>
    s!"'{sign}' not supported between instances of '{a}' and '{b}'"
  | .badAmount amount name => s!"Invalid price amount '{amount}' for {name}"
  | .notText kind => s!"expected string or bytes-like object, got '{kind}'"
  | .namelessValue => "keywords must be strings"
  | .takenName name => s!"TemplateGenerator.render() got multiple values for argument '{name}'"
  | .unknownTemplate kind known =>
    s!"Unknown template '{kind}'. Choose from: " ++ ", ".intercalate known
  | .missingFile path => s!"[Errno 2] No such file or directory: {quoted path}"
  | .folder path => s!"[Errno 21] Is a directory: {quoted path}"
  | .notFolder path => s!"[Errno 20] Not a directory: {quoted path}"
  | .longName path => s!"[Errno 36] File name too long: {quoted path}"
  | .zeroInPath => "embedded null byte"
  | .badMark m => m

end StackManifest
