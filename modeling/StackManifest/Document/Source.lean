import StackManifest.Document.Reader
import StackManifest.Json.Reader
import StackManifest.StackError
import StackManifest.Yaml.Reader

/-!
# Documents from their sources

A document comes as a text, as the bytes of a text, or as plain data. A text is read as an
object text if it is one, and as a markup text otherwise.

* `Source` – where a document comes from, and `Source.plainData`, its plain data;
* `missingFields` – the **required fields** that plain data lacks;
* `Document.ofData` and `Document.parse` – the document of plain data and of a source.
-/

namespace StackManifest

/-- **Where** a document comes from. -/
inductive Source where
  | text (cs : List Char)
  | bytes (bs : List UInt8)
  | data (v : Value)

/-- The source that a value is: a text, the bytes of one, or data as it is. -/
def Source.ofValue : Value → Source
  | .text s => .text s.toList
  | .bytes bs => .bytes bs
  | v => .data v

/-- A fault of a markup text as an error about a document. -/
def StackError.ofFault (f : Fault) : StackError :=
  if f = .markup then .illFormed else .unreadable f

/-- The plain data of a text. -/
def textData (cs : List Char) : Except StackError Value :=
  match Json.read? cs with
  | some v => .ok v
  | none => (Yaml.read cs).mapError StackError.ofFault

/-- The **plain data** of a source. -/
def Source.plainData : Source → Except StackError Value
  | .text cs => textData cs
  | .bytes bs =>
    match Text.decodeUtf8 bs with
    | .ok cs => textData cs
    | .error f => .error (.unreadable (.utf8 f))
  | .data v => .ok v

/-- The fields that every document has. -/
def requiredFields : List String := ["version", "services", "deployment"]

/-- Whether a value counts as missing: it is nothing or an empty text. -/
def Value.isMissing : Value → Bool
  | .null => true
  | .text s => s == ""
  | _ => false

/-- The **required fields** that are missing. -/
def missingFields (es : Entries) : List String :=
  requiredFields.filter fun f => (es.get f).isMissing

/-- The **document** of plain data. -/
def Document.ofData (v : Value) : Except StackError Document :=
  match v with
  | .map _ es =>
    let missing := missingFields es
    if missing.isEmpty then
      match Document.read v with
      | .ok d => .ok d
      | .bad ps => .error (.notDocument ps)
    else .error (.missingFields missing)
  | _ => .error .notMapping

/-- The **document** of a source. -/
def Document.parse (s : Source) : Except StackError Document := do
  Document.ofData (← s.plainData)

end StackManifest
