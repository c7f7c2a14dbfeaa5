import StackManifest.Console.Emoji.FromA
import StackManifest.Console.Emoji.FromF
import StackManifest.Console.Emoji.FromG
import StackManifest.Console.Emoji.FromM
import StackManifest.Console.Emoji.FromN
import StackManifest.Console.Emoji.FromT
import StackManifest.Text.Blank
import StackManifest.Text.Lower

/-!
# Pictures by their names

On the console the name of a picture between two colons stands for the picture. The name may end
with a hyphen and the way in which it is shown, as a picture or as text; a code of that way then
follows the picture.

* `picture?` – the picture of a **name**;
* `splitCode?` – a name between colons at the beginning of a text;
* `withPictures` – a text with pictures **in place of their names**.
-/

namespace StackManifest.Console.Emoji

open StackManifest.Text

/-- The number that some hexadecimal digits write. -/
def hexValue (cs : List Char) : Nat :=
  cs.foldl (fun n c => 16 * n + if c.isDigit then c.toNat - 0x30 else c.toNat - 0x37) 0

/-- A name and its picture. -/
def entry (word : String) : String × List Char :=
  let name := word.toList.takeWhile (· ≠ '=')
  let codes := (word.toList.drop (name.length + 1)).splitOn '.'
  (String.ofList name, codes.map fun cs => Char.ofNat (hexValue cs))

/-- All names with their pictures. -/
def entries : List (String × List Char) :=
  (namesFromA ++ namesFromF ++ namesFromG ++ namesFromM ++ namesFromN ++ namesFromT).flatMap
    fun line => (line.splitOn " ").map entry

/-- The **picture** of a name, in whatever letters the name is written. -/
def picture? (name : List Char) : Option (List Char) :=
  entries.lookup (lower (String.ofList name))

/-- The ways in which a picture is shown, with their codes. -/
def shownAs : List (String × Char) := [("-emoji", '\uFE0F'), ("-text", '\uFE0E')]

/-- The picture of what stands between colons: of a name, perhaps with the way in which it is
shown. -/
def ofCode? (code : List Char) : Option (List Char) :=
  match shownAs.find? fun way => way.1.toList.isSuffixOf code with
  | some (ending, c) => (picture? (code.take (code.length - ending.length))).map (· ++ [c])
  | none => picture? code

/-- What stands **between colons** at the beginning of a text, and the text after it. There is no
blank in it. -/
def splitCode? : List Char → Option (List Char × List Char)
  | ':' :: cs =>
    let code := cs.takeWhile fun c => c ≠ ':' && !isBlank c
    match cs.drop code.length with
    | ':' :: rest => some (code, rest)
    | _ => none
  | _ => none

/-- The text after a name between colons is shorter. -/
theorem length_lt_of_splitCode? {cs code rest : List Char} (h : splitCode? cs = some (code, rest)) :
    rest.length < cs.length := by
  unfold splitCode? at h
  split at h
  · rename_i cs
    dsimp only at h
    split at h
    · rename_i after heq
      have hl := congrArg List.length heq
      simp only [Option.some.injEq, Prod.mk.injEq] at h
      obtain ⟨rfl, rfl⟩ := h
      simp only [List.length_drop, List.length_cons] at hl ⊢
      omega
    · exact absurd h (by simp)
  · exact absurd h (by simp)

/-- A text with pictures **in place of their names**. What is no name is left as it is, with both
its colons. -/
def withPictures (cs : List Char) : List Char :=
  match cs with
  | [] => []
  | c :: rest =>
    match _h : splitCode? (c :: rest) with
    | some (code, after) => (ofCode? code).getD (':' :: code ++ [':']) ++ withPictures after
    | none => c :: withPictures rest
termination_by cs.length
decreasing_by
  · exact length_lt_of_splitCode? _h
  · simp

end StackManifest.Console.Emoji
