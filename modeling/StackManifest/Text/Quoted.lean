import StackManifest.Text.Printable

/-!
# Quoted texts

How a text is shown inside a list or a message: between single quotes, or between double
quotes when it holds a single quote and no double one. The quote, the backslash and what
is not printable are written as escapes.

* `hexDigits` – a number in **hexadecimal** with a least width;
* `escapeChar` – one character between given quotes;
* `quoted` and `quotedBytes` – a text and a sequence of bytes.
-/

namespace StackManifest.Text

/-- A number in hexadecimal, padded with zeros to a least width. -/
def hexDigits (width n : Nat) : List Char :=
  let ds := Nat.toDigits 16 n
  List.replicate (width - ds.length) '0' ++ ds

/-- The **quote** for a text: double when it holds single quotes and no double one. -/
def quoteFor (cs : List Char) : Char :=
  if cs.contains '\'' && !cs.contains '"' then '"' else '\''

/-- A character as it stands between the given quotes. -/
def escapeChar (q c : Char) : List Char :=
  if c = q ∨ c = '\\' then ['\\', c]
  else if c = '\n' then ['\\', 'n']
  else if c = '\r' then ['\\', 'r']
  else if c = '\t' then ['\\', 't']
  else if isPrintable c then [c]
  else if c.toNat < 0x100 then '\\' :: 'x' :: hexDigits 2 c.toNat
  else if c.toNat < 0x10000 then '\\' :: 'u' :: hexDigits 4 c.toNat
  else '\\' :: 'U' :: hexDigits 8 c.toNat

/-- A text between quotes. -/
def quoted (s : String) : String :=
  let q := quoteFor s.toList
  String.ofList (q :: s.toList.flatMap (escapeChar q) ++ [q])

/-- A sequence of **bytes** between quotes, with the mark `b` in front; a byte beyond the
basic characters is written as an escape. -/
def quotedBytes (bs : List UInt8) : String :=
  let cs := bs.map fun b => Char.ofNat b.toNat
  let q := quoteFor cs
  let escape := fun (c : Char) =>
    if 0x80 ≤ c.toNat then '\\' :: 'x' :: hexDigits 2 c.toNat else escapeChar q c
  String.ofList ('b' :: q :: cs.flatMap escape ++ [q])

end StackManifest.Text
