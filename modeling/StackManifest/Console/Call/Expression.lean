import StackManifest.Console.Call.Lexer

/-!
# Expressions

The arguments of a call are an expression: names, numbers and texts, joined by signs and grouped
by brackets. A text that is none is read a second time with an eye to the usual mistakes, so that
the complaint says what may have been meant.

* `Expression` – an **expression**, as far as it matters;
* `Grammar` – a reader of tokens, which may fail, and then gives the tokens back;
* `Expression.read` – the expression that a text writes, or what is wrong with it.
-/

namespace StackManifest.Console.Call

/-- An **expression**, as far as it matters. -/
inductive Expression where
  | name (s : String)
  /-- A name that is a value: of truth, of nothing, or three points. -/
  | constant (s : String)
  | number (isImaginary : Bool)
  | text (isFormed : Bool)
  | tuple (xs : List Expression)
  | set (xs : List Expression)
  /-- Keys with their values; without a key, a mapping is put in. -/
  | mapping (entries : List (Option Expression × Expression))
  | signed (isPlusOrMinus : Bool) (x : Expression)
  | sum (left right : Expression)
  | call (f : Expression) (isEmpty : Bool)
  /-- Anything else, with what it is called. -/
  | other (what : String)
  deriving Inhabited

/-- What an expression is **called**. -/
def Expression.what : Expression → String
  | .name _ => "name"
  | .constant s => s
  | .number _ | .text false => "literal"
  | .text true => "f-string expression"
  | .tuple _ => "tuple"
  | .set _ => "set display"
  | .mapping _ => "dict literal"
  | .signed .. | .sum .. => "expression"
  | .call .. => "function call"
  | .other s => s

/-- What a reader has **noted**, also where it failed afterwards. -/
structure Notes where
  /-- The fewest tokens that were left when it looked at the next one. -/
  least : Nat
  /-- Where expressions were read without an eye to mistakes, and where parts of them: the numbers
  of tokens that were left. They are not read in another way later. -/
  expressions : List Nat
  primaries : List Nat

/-- A **reader** of tokens. -/
abbrev Grammar (α : Type) := StateT (List Token) (OptionT (ExceptT Complaint (StateM Notes))) α

namespace Grammar

/-- Ends with a complaint. -/
def complain (c : Complaint) : Grammar α := fun _ => OptionT.mk (throw c)

/-- Changes what is noted. -/
def note (change : Notes → Notes) : Grammar Unit := fun ts =>
  OptionT.mk do
    modify change
    return some ((), ts)

/-- What is noted. -/
def notes : Grammar Notes := fun ts =>
  OptionT.mk do
    return some (← get, ts)

/-- What a reader finds, if anything; otherwise no token is taken. -/
def attempt (g : Grammar α) : Grammar (Option α) := fun ts =>
  OptionT.mk do
    match ← (g ts).run with
    | some (a, rest) => return some (some a, rest)
    | none => return some (none, ts)

/-- What a reader finds, if anything, without taking a token. -/
def lookAhead (g : Grammar α) : Grammar (Option α) := do
  let ts ← get
  let a ← attempt g
  set ts
  return a

/-- The next word. The end within a bracket is a complaint, and so is what is no word. -/
def next : Grammar Word := do
  let ts ← get
  note fun n => { n with least := min n.least ts.length }
  match ts.head?.map Token.word with
  | some (.unclosed c) => complain (.unclosed c)
  | some (.wrong c) => complain c
  | some w => return w
  | none => failure

/-- Takes the next word. -/
def advance : Grammar Unit := modify (·.drop 1)

/-- Whether the next word is a sign. -/
def isNext (s : String) : Grammar Bool := do return (← next) == .sign s

/-- Whether the next word is one with a meaning of its own. -/
def isNextWord (s : String) : Grammar Bool := do return (← next) == .name s

/-- Takes a sign. -/
def sign (s : String) : Grammar Unit := do
  if ← isNext s then advance else failure

/-- Takes a word with a meaning of its own. -/
def word (s : String) : Grammar Unit := do
  if ← isNextWord s then advance else failure

/-- Takes one of several signs. -/
def oneOf (ss : List String) : Grammar String := do
  match ← next with
  | .sign s => if ss.contains s then advance; return s else failure
  | _ => failure

/-- The words with a meaning of their own, which are no names. -/
def keywords : List String :=
  ["False", "None", "True", "and", "as", "assert", "async", "await", "break", "class", "continue",
   "def", "del", "elif", "else", "except", "finally", "for", "from", "global", "if", "import",
   "in", "is", "lambda", "nonlocal", "not", "or", "pass", "raise", "return", "try", "while",
   "with", "yield"]

/-- Takes a name. -/
def name : Grammar String := do
  match ← next with
  | .name s => if keywords.contains s then failure else advance; return s
  | _ => failure

/-- The signs of a level between two expressions; those of a later level bind closer. -/
def levels : List (List String) :=
  [["|"], ["^"], ["&"], ["<<", ">>"], ["+", "-"], ["*", "/", "//", "%", "@"]]

/-- A sign of comparison. -/
def comparison : Grammar Unit := do
  match ← attempt (oneOf ["==", "!=", "<", "<=", ">", ">="]) with
  | some _ => return
  | none =>
    if ← isNextWord "is" then
      advance
      discard (attempt (word "not"))
    else if ← isNextWord "in" then advance
    else
      word "not"
      word "in"

/-- Whether a word is a text. -/
def isText : Word → Bool
  | .text .. => true
  | _ => false

/-- Texts that are one: all of them of bytes, or none. Gives whether one has a form to fill in. -/
def joinTexts (kind : Option Bool) : List Word → Except Complaint Bool
  | .text isBytes isFormed wrong :: rest => do
    match wrong with
    | some c => throw c
    | none => pure ()
    if kind.any (· ≠ isBytes) then throw .mixedTexts
    return (← joinTexts (some isBytes) rest) || isFormed
  | _ => .ok false

/-- Several texts one after another. -/
def texts : Grammar Expression := do
  let ts ← get
  let words := (ts.takeWhile fun t => isText t.word).map Token.word
  set (ts.drop words.length)
  discard next
  match joinTexts none words with
  | .ok isFormed => return .text isFormed
  | .error c => complain c

/-- Whether the tokens begin with a name, after which comes a word of some kind. -/
def beginsWith (ts : List Token) (isThere : Word → Bool) : Bool :=
  match ts with
  | ⟨.name s, _, _⟩ :: t :: _ => !keywords.contains s && isThere t.word
  | _ => false

/-- Whether tokens begin with a name that looks like the beginning of a statement, or with one right
before a text: then no comma is missed after it. -/
def beginsSoftly (ts : List Token) : Bool :=
  (match ts with
    | ⟨.name s, _, _⟩ :: _ => ["_", "case", "match"].any fun t => s.toList.isPrefixOf t.toList
    | _ => false) || beginsWith ts isText

/-- The names of calls that were once written without brackets. -/
def oldCalls : List String := ["print", "exec"]

/-- How many brackets are open after the last token that was taken of some. -/
def lastDepth (before after : List Token) : Nat :=
  ((before.take (before.length - after.length)).getLast?.map Token.depth).getD 0

mutual

/-- An expression, with an eye to mistakes if **hints** are wanted, and if it was not read without
before. -/
def expression (hints : Bool) (fuel : Nat) : Grammar Expression :=
  match fuel with
  | 0 => failure
  | fuel + 1 => do
    let place := (← get).length
    let hints := hints && !(← notes).expressions.contains place
    let found ← attempt (expressionAt hints fuel)
    unless hints do note fun n => { n with expressions := place :: n.expressions }
    match found with
    | some a => return a
    | none => failure

/-- An expression, with an eye to mistakes if hints are wanted. -/
def expressionAt (hints : Bool) (fuel : Nat) : Grammar Expression :=
  match fuel with
  | 0 => failure
  | fuel + 1 => do
    if ← isNextWord "lambda" then
      advance
      parameters hints fuel
      sign ":"
      discard (expression hints fuel)
      return .other "lambda"
    let start ← get
    let a ← disjunction hints fuel
    if hints then
      missedComma fuel start a
      missedElse fuel
      missedCall fuel start
    let condition := do
      word "if"
      discard (disjunction hints fuel)
      word "else"
      expression hints fuel
    match ← attempt condition with
    | none => return a
    | some _ => return .other "conditional expression"

/-- The parameters of a function without a name. -/
def parameters (hints : Bool) (fuel : Nat) : Grammar Unit :=
  match fuel with
  | 0 => failure
  | fuel + 1 => do
    let star ← attempt (oneOf ["*", "**"])
    match ← attempt name with
    | none =>
      match star with
      | none => return
      | some _ =>
        if hints then
          if star = some "*" ∧ (← isNext ":") then complain .bareStar
        sign ","
        parameters hints fuel
    | some _ =>
      match ← attempt (sign "=") with
      | some _ => discard (expression hints fuel)
      | none => pure ()
      match ← attempt (sign ",") with
      | some _ => parameters hints fuel
      | none => return

/-- Complains if a comma may be missed after an expression. -/
def missedComma (fuel : Nat) (start : List Token) (a : Expression) : Grammar Unit :=
  match fuel with
  | 0 => failure
  | fuel + 1 => do
    if beginsSoftly start then return
    let before ← get
    match ← attempt (expressionAt false fuel) with
    | none => return
    | some _ =>
      let depth := lastDepth before (← get)
      set before
      let isOld := match a with
        | .name s => oldCalls.contains s
        | _ => false
      if depth ≠ 0 ∧ !isOld then complain .missingComma

/-- Complains if a condition has no other case. -/
def missedElse (fuel : Nat) : Grammar Unit :=
  match fuel with
  | 0 => failure
  | fuel + 1 => do
    let before ← get
    match ← attempt (do word "if"; disjunction true fuel) with
    | none => return
    | some _ =>
      let hasCase := (← isNextWord "else") || (← isNext ":")
      set before
      unless hasCase do complain .missingElse

/-- Complains about a call without brackets, or about what would stand between them. -/
def missedCall (fuel : Nat) (start : List Token) : Grammar Unit :=
  match fuel with
  | 0 => failure
  | fuel + 1 => do
    match start with
    | ⟨.name s, _, _⟩ :: rest =>
      let before ← get
      unless keywords.contains s do
        set rest
        unless ← isNext "(" do
          let found ← attempt (starExpressions true fuel)
          if found.isSome ∧ oldCalls.contains s then complain (.missingCall s)
      set before
    | _ => return

/-- Expressions between commas, some of them starred. -/
def starExpressions (hints : Bool) (fuel : Nat) : Grammar Unit :=
  match fuel with
  | 0 => failure
  | fuel + 1 => do
    discard (starExpression hints fuel)
    match ← attempt (sign ",") with
    | some _ => discard (attempt (starExpressions hints fuel))
    | none => return

/-- An expression, or a starred one. -/
def starExpression (hints : Bool) (fuel : Nat) : Grammar Expression :=
  match fuel with
  | 0 => failure
  | fuel + 1 => do
    if ← isNext "*" then
      advance
      discard (binary hints 0 fuel)
      return .other "starred"
    expression hints fuel

/-- Expressions joined by `or`. -/
def disjunction (hints : Bool) (fuel : Nat) : Grammar Expression :=
  match fuel with
  | 0 => failure
  | fuel + 1 => do joined hints "or" fuel (← conjunction hints fuel)

/-- Expressions joined by `and`. -/
def conjunction (hints : Bool) (fuel : Nat) : Grammar Expression :=
  match fuel with
  | 0 => failure
  | fuel + 1 => do joined hints "and" fuel (← inversion hints fuel)

/-- More expressions joined by a word. -/
def joined (hints : Bool) (s : String) (fuel : Nat) (a : Expression) : Grammar Expression :=
  match fuel with
  | 0 => failure
  | fuel + 1 => do
    let more := do
      word s
      if s = "or" then conjunction hints fuel else inversion hints fuel
    match ← attempt more with
    | some _ => joined hints s fuel (.other "expression")
    | none => return a

/-- An expression that may be negated. -/
def inversion (hints : Bool) (fuel : Nat) : Grammar Expression :=
  match fuel with
  | 0 => failure
  | fuel + 1 => do
    if ← isNextWord "not" then
      advance
      discard (inversion hints fuel)
      return .other "expression"
    compared hints fuel (← binary hints 0 fuel)

/-- More expressions that are compared. -/
def compared (hints : Bool) (fuel : Nat) (a : Expression) : Grammar Expression :=
  match fuel with
  | 0 => failure
  | fuel + 1 => do
    match ← attempt (do comparison; binary hints 0 fuel) with
    | some _ => compared hints fuel (.other "comparison")
    | none => return a

/-- Expressions joined by the signs of a level. -/
def binary (hints : Bool) (level : Nat) (fuel : Nat) : Grammar Expression :=
  match fuel with
  | 0 => failure
  | fuel + 1 => do
    match levels[level]? with
    | none => factor hints fuel
    | some signs => binaryRest hints level signs fuel (← binary hints (level + 1) fuel)

/-- More expressions joined by the signs of a level. -/
def binaryRest (hints : Bool) (level : Nat) (signs : List String) (fuel : Nat) (a : Expression) :
    Grammar Expression :=
  match fuel with
  | 0 => failure
  | fuel + 1 => do
    let more := do return (← oneOf signs, ← binary hints (level + 1) fuel)
    match ← attempt more with
    | some (s, b) =>
      binaryRest hints level signs fuel
        (if s = "+" ∨ s = "-" then .sum a b else .other "expression")
    | none => return a

/-- An expression with signs before it. -/
def factor (hints : Bool) (fuel : Nat) : Grammar Expression :=
  match fuel with
  | 0 => failure
  | fuel + 1 => do
    match ← attempt (oneOf ["+", "-", "~"]) with
    | some s => return .signed (s ≠ "~") (← factor hints fuel)
    | none =>
      let a ← awaited hints fuel
      match ← attempt (do sign "**"; factor hints fuel) with
      | some _ => return .other "expression"
      | none => return a

/-- An expression that may be waited for. -/
def awaited (hints : Bool) (fuel : Nat) : Grammar Expression :=
  match fuel with
  | 0 => failure
  | fuel + 1 => do
    match ← attempt (word "await") with
    | some _ => discard (primary hints fuel); return .other "await expression"
    | none => primary hints fuel

/-- An expression with its members and arguments. -/
def primary (hints : Bool) (fuel : Nat) : Grammar Expression :=
  match fuel with
  | 0 => failure
  | fuel + 1 => do
    let place := (← get).length
    let hints := hints && !(← notes).primaries.contains place
    let found ← attempt (do primaryRest hints fuel (← atom hints fuel))
    unless hints do note fun n => { n with primaries := place :: n.primaries }
    match found with
    | some a => return a
    | none => failure

/-- More members and arguments. -/
def primaryRest (hints : Bool) (fuel : Nat) (a : Expression) : Grammar Expression :=
  match fuel with
  | 0 => failure
  | fuel + 1 => do
    match ← attempt (do sign "."; name) with
    | some _ => primaryRest hints fuel (.other "attribute")
    | none =>
      match ← attempt (do sign "("; arguments hints fuel none true <* sign ")") with
      | some isEmpty => primaryRest hints fuel (.call a isEmpty)
      | none =>
        if hints then
          if ← isNext "\x7b" then discard (lookAhead (wrongBraces fuel))
        return a

/-- The arguments of a call, after one of a name or of a mapping, if there was one. Gives whether
there are none. -/
def arguments (hints : Bool) (fuel : Nat) (named : Option Bool) (isFirst : Bool) : Grammar Bool :=
  match fuel with
  | 0 => failure
  | fuel + 1 => do
    if ← isNext ")" then return isFirst
    let start ← get
    let named ← match ← next with
      | .sign "*" => do
        advance
        if named = some true then
          if hints then complain .lateStar else failure
        match ← attempt (expression hints fuel) with
        | some _ => pure named
        | none => if hints then complain .lonelyStar else failure
      | .sign "**" => do
        advance
        discard (expression hints fuel)
        pure (some true)
      | _ =>
        if beginsWith start (· == .sign "=") then do
          modify (·.drop 2)
          discard (expression hints fuel)
          if hints then
            if (← attempt (clauses hints fuel)).isSome then complain .maybeEqual
          pure (some (named = some true))
        else do
          if hints then wrongName
          let isNamed := beginsWith start (· == .sign ":=")
          discard (nameOr hints fuel)
          if ← isNext "=" then
            if hints ∧ !isNamed then complain .noAssignment else failure
          match ← attempt (clauses hints fuel) with
          | some _ =>
            unless isFirst ∧ (← isNext ")") do
              if hints then complain .bareGenerator else failure
          | none => pure ()
          match named with
          | some afterUnpacking =>
            if hints then complain (.lateArgument afterUnpacking) else failure
          | none => pure none
    match ← attempt (sign ",") with
    | some _ => arguments hints fuel named false
    | none => return false

/-- Complains if a value is to be assigned to a constant. -/
def wrongName : Grammar Unit := do
  match ← get with
  | ⟨.name s, _, _⟩ :: ⟨.sign "=", _, _⟩ :: _ =>
    if ["True", "False", "None"].contains s then complain (.cannotAssign s)
  | _ => return

/-- An expression, or one that is given a name. -/
def nameOr (hints : Bool) (fuel : Nat) : Grammar Expression :=
  match fuel with
  | 0 => failure
  | fuel + 1 => do
    if beginsWith (← get) (· == .sign ":=") then
      modify (·.drop 2)
      discard (expression hints fuel)
      return .other "named expression"
    let a ← expression hints fuel
    if ← isNext ":=" then failure
    return a

/-- What generates the elements of a group. -/
def clauses (hints : Bool) (fuel : Nat) : Grammar Unit :=
  match fuel with
  | 0 => failure
  | fuel + 1 => do
    discard (attempt (word "async"))
    word "for"
    if hints then wrongTarget fuel
    targets fuel
    word "in"
    discard (disjunction hints fuel)
    conditions hints fuel
    discard (attempt (clauses hints fuel))

/-- Complains if no values can be given to what stands for the elements. -/
def wrongTarget (fuel : Nat) : Grammar Unit :=
  match fuel with
  | 0 => failure
  | fuel + 1 => do
    if (← lookAhead (do targets fuel; word "in")).isNone then
      let before ← get
      match ← lookAhead (do return (← binary true 0 fuel, ← isNextWord "in")) with
      | some (a, true) => complainTarget a
      | _ =>
        match ← attempt (starExpression true fuel) with
        | some a => complainTarget a
        | none => pure ()
      set before

/-- Complains about what cannot be given a value. -/
def complainTarget (a : Expression) : Grammar Unit :=
  match a with
  | .name _ | .tuple _ | .other "attribute" | .other "starred" | .other "comparison" => return
  | a => complain (.cannotAssign a.what)

/-- The names that stand for the elements. -/
def targets (fuel : Nat) : Grammar Unit :=
  match fuel with
  | 0 => failure
  | fuel + 1 => do
    discard (attempt (sign "*"))
    match ← binary false 0 fuel with
    | .name _ | .tuple _ | .other "attribute" =>
      match ← attempt (sign ",") with
      | some _ => discard (attempt (targets fuel))
      | none => return
    | _ => failure

/-- The conditions of a clause. -/
def conditions (hints : Bool) (fuel : Nat) : Grammar Unit :=
  match fuel with
  | 0 => failure
  | fuel + 1 => do
    match ← attempt (do word "if"; disjunction hints fuel) with
    | some _ => conditions hints fuel
    | none => return

/-- A name, a number, a text, or a group. -/
def atom (hints : Bool) (fuel : Nat) : Grammar Expression :=
  match fuel with
  | 0 => failure
  | fuel + 1 => do
    match ← next with
    | .name s =>
      if ["True", "False", "None"].contains s then advance; return .constant s
      else return .name (← name)
    | .number form =>
      advance
      match form with
      | .decimal n => if digitLimit < n then complain (.tooManyDigits n) else return .number false
      | form => return .number (form == .imaginary)
    | .text .. => texts
    | .sign "..." => advance; return .constant "ellipsis"
    | .sign "(" => return (← group hints fuel).1
    | .sign s => if s = "\x7b" then braces hints fuel else failure
    | _ => failure

/-- What stands between round brackets, and whether it is a single expression. -/
def group (hints : Bool) (fuel : Nat) : Grammar (Expression × Bool) :=
  match fuel with
  | 0 => failure
  | fuel + 1 => do
    sign "("
    let start ← get
    match ← next with
    | .sign ")" => advance; return (.tuple [], false)
    | .name "yield" =>
      advance
      match ← attempt (word "from") with
      | some _ => discard (expression hints fuel)
      | none => discard (attempt (starExpressions hints fuel))
      sign ")"
      return (.other "yield expression", true)
    | .sign "**" =>
      advance
      discard (expression hints fuel)
      sign ")"
      if hints then complain (.starredGroup true) else failure
    | .sign "*" =>
      match ← attempt (do
          let a ← element hints fuel
          sign ","
          let xs ← elements hints fuel ")"
          sign ")"
          return a :: xs) with
      | some xs => return (.tuple xs, false)
      | none => set start; wrongStar hints true fuel
    | _ =>
      let a ← element hints fuel
      if ← isNext "," then
        advance
        let xs ← elements hints fuel ")"
        sign ")"
        return (.tuple (a :: xs), false)
      if ← isNext ")" then
        advance
        return (a, true)
      clauses hints fuel
      sign ")"
      return (.other "generator expression", false)

/-- Complains about what stands between braces that generate no set. -/
def wrongBraces (fuel : Nat) : Grammar Unit :=
  match fuel with
  | 0 => failure
  | fuel + 1 => do
    advance
    if ← isNext "*" then discard (lookAhead (wrongStar true false fuel))
    discard (element true fuel)
    sign ","
    discard (elements true fuel "\x7d")
    clauses true fuel
    complain .bareTarget

/-- Complains about a star where a group begins. -/
def wrongStar (hints isRound : Bool) (fuel : Nat) : Grammar (Expression × Bool) :=
  match fuel with
  | 0 => failure
  | fuel + 1 => do
    unless hints do failure
    sign "*"
    match ← attempt (expression true fuel) with
    | none => complain .lonelyStar
    | some _ =>
      if (← attempt (clauses hints fuel)).isSome then complain (.starredGenerator false)
      if isRound then
        if ← isNext ")" then complain (.starredGroup false)
      failure

/-- The elements of a group up to a closing bracket; a comma may stand at their end. -/
def elements (hints : Bool) (fuel : Nat) (close : String) : Grammar (List Expression) :=
  match fuel with
  | 0 => failure
  | fuel + 1 => do
    if ← isNext close then return []
    let a ← element hints fuel
    match ← attempt (sign ",") with
    | some _ => return a :: (← elements hints fuel close)
    | none => return [a]

/-- An element of a group. -/
def element (hints : Bool) (fuel : Nat) : Grammar Expression :=
  match fuel with
  | 0 => failure
  | fuel + 1 => do
    let start ← get
    if ← isNext "*" then
      advance
      discard (binary hints 0 fuel)
      return .other "starred"
    if beginsWith start (· == .sign ":=") then nameOr hints fuel
    else elementRest hints fuel start (← expression hints fuel)

/-- An element that begins with an expression, after which no value may be assigned. -/
def elementRest (hints : Bool) (fuel : Nat) (start : List Token) (a : Expression) :
    Grammar Expression :=
  match fuel with
  | 0 => failure
  | fuel + 1 => do
    if hints then
      if ← isNext ":=" then
        match ← lookAhead (do sign ":="; expression hints fuel) with
        | some _ => complain (.cannotName a.what)
        | none => pure ()
      if ← isNext "=" then
        let before ← get
        if beginsWith start (· == .sign "=") then
          match ← lookAhead (do sign "="; discard (binary hints 0 fuel); endOfHint) with
          | some _ => complain .maybeEqual
          | none => pure ()
        else
          set start
          let isGiven ← lookAhead (isAssigned fuel)
          if isGiven ≠ some true then
            set start
            match ← lookAhead (assigned hints fuel) with
            | some b => complain (.cannotAssignHere b.what)
            | none => pure ()
        set before
    if ← isNext ":=" then failure
    return a

/-- What a single value is assigned to. -/
def assigned (hints : Bool) (fuel : Nat) : Grammar Expression :=
  match fuel with
  | 0 => failure
  | fuel + 1 => do
    let a ← binary hints 0 fuel
    sign "="
    discard (binary hints 0 fuel)
    endOfHint
    return a

/-- Whether tokens begin with a group of several, or with a constant. -/
def isAssigned (fuel : Nat) : Grammar Bool :=
  match fuel with
  | 0 => failure
  | fuel + 1 => do
    match ← next with
    | .name s => return ["True", "False", "None"].contains s
    | .sign "(" => return !(← group false fuel).2
    | _ => return false

/-- Fails where one more value is assigned. -/
def endOfHint : Grammar Unit := do
  if (← isNext "=") || (← isNext ":=") then failure

/-- What stands between braces. -/
def braces (hints : Bool) (fuel : Nat) : Grammar Expression :=
  match fuel with
  | 0 => failure
  | fuel + 1 => do
    advance
    let start ← get
    match ← next with
    | .sign "**" =>
      advance
      let a ← binary hints 0 fuel
      entriesRest hints fuel [(none, a)]
    | .sign "*" =>
      match ← attempt (elements hints fuel "\x7d" <* sign "\x7d") with
      | some xs => return .set xs
      | none => set start; return (← wrongStar hints false fuel).1
    | .sign s =>
      if s = "\x7d" then
        advance
        return .mapping []
      bracesFrom hints fuel start
    | _ => bracesFrom hints fuel start

/-- What stands between braces, where no star comes first. -/
def bracesFrom (hints : Bool) (fuel : Nat) (start : List Token) : Grammar Expression :=
  match fuel with
  | 0 => failure
  | fuel + 1 => do
    if beginsWith start (· == .sign ":=") then
      setFrom hints fuel (← nameOr hints fuel)
    else
      let a ← expression hints fuel
      if ← isNext ":" then
        advance
        let b ← entryValue hints fuel
        entriesRest hints fuel [(some a, b)]
      else setFrom hints fuel (← elementRest hints fuel start a)

/-- A set after its first element. -/
def setFrom (hints : Bool) (fuel : Nat) (a : Expression) : Grammar Expression :=
  match fuel with
  | 0 => failure
  | fuel + 1 => do
    if (← attempt (clauses hints fuel)).isSome then
      sign "\x7d"
      return .other "set comprehension"
    let xs ← if ← isNext "," then do advance; elements hints fuel "\x7d" else pure []
    if hints ∧ !xs.isEmpty then
      if (← lookAhead (clauses hints fuel)).isSome then complain .bareTarget
    sign "\x7d"
    return .set (a :: xs)

/-- The value after a key and its colon. -/
def entryValue (hints : Bool) (fuel : Nat) : Grammar Expression :=
  match fuel with
  | 0 => failure
  | fuel + 1 => do
    match ← attempt (expression hints fuel) with
    | some b => return b
    | none =>
      if (← isNext "\x7d") || (← isNext ",") then complain .missingValue
      sign "*"
      discard (binary hints 0 fuel)
      complain .starredValue

/-- The entries of a mapping after those before, last one first. -/
def entriesRest (hints : Bool) (fuel : Nat) (done : List (Option Expression × Expression)) :
    Grammar Expression :=
  match fuel with
  | 0 => failure
  | fuel + 1 => do
    match ← attempt (sign "\x7d") with
    | some _ => return .mapping done.reverse
    | none =>
      match done with
      | [(k, _)] =>
        if (← attempt (clauses hints fuel)).isSome then
          sign "\x7d"
          match k with
          | some _ => return .other "dict comprehension"
          | none => if hints then complain (.starredGenerator true) else failure
      | _ => pure ()
      sign ","
      if ← isNext "\x7d" then
        advance
        return .mapping done.reverse
      match ← attempt (sign "**") with
      | some _ => entriesRest hints fuel ((none, ← binary hints 0 fuel) :: done)
      | none =>
        let k ← expression hints fuel
        unless ← isNext ":" do complain .missingColon
        advance
        let b ← entryValue hints fuel
        entriesRest hints fuel ((some k, b) :: done)

end

/-- Expressions between commas, up to the end. -/
def whole (hints : Bool) (fuel : Nat) : Grammar (List Expression × Bool) :=
  match fuel with
  | 0 => failure
  | fuel + 1 => do
    let a ← expression hints fuel
    match ← attempt (sign ",") with
    | none => return ([a], false)
    | some _ =>
      match ← attempt (whole hints fuel) with
      | some (xs, _) => return (a :: xs, true)
      | none => return ([a], true)

/-- A whole text. -/
def all (hints : Bool) (fuel : Nat) : Grammar Expression := do
  let (xs, isTuple) ← whole hints fuel
  modify (·.dropWhile fun t => t.word == .lineEnd)
  if (← next) ≠ .finish then
    if (← next) = .indent then complain .unexpectedIndent
    failure
  match xs, isTuple with
  | [x], false => return x
  | xs, _ => return .tuple xs

end Grammar

/-- The complaint about some tokens, if the last one that was looked at is in a line. What is no
word comes before what is no expression, and so does a bracket of an earlier line that is not
closed, unless a mistake was recognized. -/
def Complaint.about (tokens : List Token) (line : Nat) (c : Complaint) : Complaint :=
  match tokens.getLast?, c with
  | _, .unexpectedIndent | some ⟨.wrong .badContinuation, _, _⟩, _
  | some ⟨.wrong .unexpectedEnd, _, _⟩, _ => c
  | some ⟨.wrong d, _, _⟩, _ => d
  | some ⟨.unclosed d, opened, _⟩, .invalid => if opened < line then .unclosed d else c
  | _, _ => c

/-- The **expression** that a text writes, or what is wrong with it. -/
def Expression.read (cs : List Char) : Except Complaint Expression :=
  let tokens := Token.scan cs
  let found := fun (hints : Bool) =>
    (Grammar.all hints (40 * (tokens.length + 1)) tokens).run.run ⟨tokens.length, [], []⟩
  let line := fun (n : Notes) =>
    (tokens[tokens.length - n.least]?.map Token.line).getD 0
  match found false with
  | (.ok (some (x, _)), _) => .ok x
  | (.error c, n) => .error (c.about tokens (line n))
  | (.ok none, _) =>
    match found true with
    | (.ok (some (x, _)), _) => .ok x
    | (.error c, n) => .error (c.about tokens (line n))
    | (.ok none, n) => .error (Complaint.invalid.about tokens (line n))

end StackManifest.Console.Call
