/-!
# The tokens of a markup text

A markup text is first cut into tokens: its **scalars**, the properties before them, and the
marks of structure. Structure that the text shows by indentation has tokens of its own.

* `Token` – the tokens.
-/

namespace StackManifest.Yaml

/-- A **token** of a markup text. -/
inductive Token where
  /-- The version that the text asks for. -/
  | versionDirective (major minor : Nat)
  /-- A short form for the beginning of tags. -/
  | tagDirective (handle expansion : String)
  /-- A directive without effect. -/
  | otherDirective
  | documentStart
  | documentEnd
  | streamEnd
  | blockSequenceStart
  | blockMappingStart
  | blockEnd
  | flowSequenceStart
  | flowMappingStart
  | flowSequenceEnd
  | flowMappingEnd
  | blockEntry
  | flowEntry
  | key
  | value
  /-- A node that was named before. -/
  | alias (name : String)
  /-- A name for the node that follows. -/
  | anchor (name : String)
  /-- A tag for the node that follows, after an optional handle. -/
  | tag (handle : Option String) (suffix : String)
  /-- A scalar: its text, and whether it stands without quotes. -/
  | scalar (text : String) (plain : Bool)
  deriving DecidableEq, Repr

end StackManifest.Yaml
