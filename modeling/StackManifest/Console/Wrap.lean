import StackManifest.Console.Width
import StackManifest.Text.Blank

/-!
# Breaking lines

A text that is wider than the console goes on in the next line, at a blank if possible. A word
that is wider than a whole line is broken anywhere, or is cut short in a table.

* `words` – the **words** of a line, with the blanks after each;
* `breaks` – the places where a line is broken;
* `wrap` – the lines of a text, in a given `Fitting`.
-/

namespace StackManifest.Console

open StackManifest.Text

/-- How text is made to **fit**: words that are too wide are folded, or cut with an ellipsis. -/
inductive Fitting where
  | fold
  | ellipsis
  deriving DecidableEq, Repr

/-- The **words** of a line: each with the blanks after it, the first one also with those
before. -/
def words (fuel : Nat) (cs : List Char) : List (List Char) :=
  match fuel with
  | 0 => []
  | fuel + 1 =>
    let blanks := cs.takeWhile isBlank
    let rest := cs.drop blanks.length
    let word := rest.takeWhile fun c => !isBlank c
    let after := (rest.drop word.length).takeWhile isBlank
    if word.isEmpty then []
    else (blanks ++ word ++ after) :: words fuel (rest.drop (word.length + after.length))

/-- The clusters of a word cut into parts of a width at most. A rest without a cell is no part. -/
def chop (n : Nat) (part : List Char) (used : Nat) : List Cluster → List (List Char)
  | [] => if used = 0 then [] else [part]
  | k :: ks =>
    if n < used + k.cells then part :: chop n k.chars k.cells ks
    else chop n (part ++ k.chars) (used + k.cells) ks

/-- Where a line is broken so far: the number of characters read, the cells used in the last
line, and the places of the breaks, last one first. -/
structure Breaking where
  start : Nat
  used : Nat
  places : List Nat

/-- The breaks before the parts of a word that is folded. -/
def foldParts (b : Breaking) (start : Nat) : List (List Char) → Breaking
  | [] => b
  | part :: parts =>
    let places := if start = 0 then b.places else start :: b.places
    foldParts { b with places, used := width part } (start + part.length) parts

/-- The break before a word, if it does not fit into the line. -/
def breakWord (n : Nat) (fitting : Fitting) (b : Breaking) (word : List Char) : Breaking :=
  let size := width (dropEnd word)
  let next := fun (b : Breaking) => { b with start := b.start + word.length }
  if b.used + size ≤ n then next { b with used := b.used + width word }
  else if n < size then
    match fitting with
    | .fold => next (foldParts b b.start (chop n [] 0 (clusters word)))
    | .ellipsis =>
      next { b with
        places := if b.start = 0 then b.places else b.start :: b.places, used := width word }
  else if b.used ≠ 0 ∧ b.start ≠ 0 then
    next { b with places := b.start :: b.places, used := width word }
  else next b
where
  /-- A word without the blanks at its end. -/
  dropEnd (cs : List Char) : List Char := (cs.reverse.dropWhile isBlank).reverse

/-- The **places** where a line is broken. -/
def breaks (n : Nat) (fitting : Fitting) (cs : List Char) : List Nat :=
  ((words (cs.length + 1) cs).foldl (breakWord n fitting) ⟨0, 0, []⟩).places.reverse

/-- A line cut at some places. -/
def divide (place : Nat) (cs : List Char) : List Nat → List (List Char)
  | [] => [cs]
  | p :: ps => cs.take (p - place) :: divide p (cs.drop (p - place)) ps

/-- A line without the blanks at its end that are too many. -/
def dropExcess (n : Nat) (cs : List Char) : List Char :=
  let blanks := (cs.reverse.takeWhile isBlank).length
  cs.take (cs.length - min blanks (cs.length - n))

/-- A line that fits. -/
def cut (n : Nat) (fitting : Fitting) (cs : List Char) : List Char :=
  if width cs ≤ n then cs
  else match fitting with
    | .fold => resize n cs
    | .ellipsis => resize (n - 1) cs ++ ['\u2026']

/-- Parts of a line that tabs divide, with spaces up to the next eighth column for each tab. -/
def joinTabs (column : Nat) : List (List Char) → List Char
  | [] => []
  | [part] => part
  | part :: parts =>
    let part := part ++ [' ']
    let n := column + width part
    let spaces := (8 - n % 8) % 8
    part ++ List.replicate spaces ' ' ++ joinTabs (n + spaces) parts

/-- The tabs of a line as **spaces**. -/
def expandTabs (cs : List Char) : List Char := joinTabs 0 (cs.splitOn '\t')

/-- The **lines of a text** in a width. -/
def wrap (n : Nat) (fitting : Fitting) (cs : List Char) : List (List Char) :=
  (cs.splitOn '\n').flatMap fun line =>
    let line := expandTabs line
    (divide 0 line (breaks n fitting line)).map fun l => cut n fitting (dropExcess n l)

end StackManifest.Console
