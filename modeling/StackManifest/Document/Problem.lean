/-!
# Problems of a document

What keeps plain data from being a document. All problems of the data are found, not only
the first one, and each says **where** it lies.

* `ProblemKind` and `Problem` – what is wrong, and the path to it;
* `Checked` – a result, or all problems in order. Independent parts are combined with
  `Checked.and`, which joins their problems.
-/

namespace StackManifest

/-- **What is wrong** with a value. -/
inductive ProblemKind where
  | notText
  | notUtf8
  | notList
  | notMapping
  | notPart
  | notInteger
  | unreadableInteger
  | integerOutOfRange
  | fractionalInteger
  | notFinite
  | notBoolean
  | unreadableBoolean
  | badKey
  | unwritable
  deriving DecidableEq, Repr

/-- The name of a problem in reports. -/
def ProblemKind.name : ProblemKind → String
  | .notText => "string_type"
  | .notUtf8 => "string_unicode"
  | .notList => "list_type"
  | .notMapping => "dict_type"
  | .notPart => "model_type"
  | .notInteger => "int_type"
  | .unreadableInteger => "int_parsing"
  | .integerOutOfRange => "int_parsing_size"
  | .fractionalInteger => "int_from_float"
  | .notFinite => "finite_number"
  | .notBoolean => "bool_type"
  | .unreadableBoolean => "bool_parsing"
  | .badKey => "invalid_key"
  | .unwritable => "value_error"

/-- A problem: **where** it lies, from the outside in, and what is wrong there. -/
structure Problem where
  path : List String
  kind : ProblemKind
  deriving DecidableEq, Repr

/-- A result, or all **problems** that keep it from being one, in order. -/
inductive Checked (α : Type) where
  | ok (a : α)
  | bad (problems : List Problem)

namespace Checked

variable {α β γ : Type}

/-- A single problem right here. -/
def fail (kind : ProblemKind) : Checked α := .bad [⟨[], kind⟩]

/-- The problems of a result that has none, or of one that has some. -/
def problems : Checked α → List Problem
  | .ok _ => []
  | .bad ps => ps

/-- The result of a function of a result. -/
def map (f : α → β) : Checked α → Checked β
  | .ok a => .ok (f a)
  | .bad ps => .bad ps

/-- The result of a step that needs the result before it. -/
def bind (c : Checked α) (f : α → Checked β) : Checked β :=
  match c with
  | .ok a => f a
  | .bad ps => .bad ps

/-- Two **independent** parts: both results, or the problems of both, in order. -/
def and (a : Checked α) (b : Checked β) : Checked (α × β) :=
  match a, b with
  | .ok a, .ok b => .ok (a, b)
  | a, b => .bad (a.problems ++ b.problems)

/-- A function among independent parts, applied. -/
def ap (f : Checked (α → β)) (a : Checked α) : Checked β := (f.and a).map fun p => p.1 p.2

/-- The problems moved **inside** a part with a name. -/
def inside (name : String) : Checked α → Checked α
  | .ok a => .ok a
  | .bad ps => .bad (ps.map fun p => { p with path := name :: p.path })

/-- Several independent parts. -/
def all : List (Checked α) → Checked (List α)
  | [] => .ok []
  | c :: cs => (c.and (all cs)).map fun p => p.1 :: p.2

instance : Functor Checked := { map := map }
instance : Seq Checked := { seq := fun f a => f.ap (a ()) }
instance : Pure Checked := { pure := .ok }

end Checked

end StackManifest
