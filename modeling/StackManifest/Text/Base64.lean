/-!
# Bytes as letters

Bytes written with the letters of an alphabet of 64, four letters for three bytes, and an
equals sign for each letter that is missing at the end.

* `base64Letter` and `base64Value?` – the **alphabet**;
* `decodeBase64` – the bytes that a text writes, if its letters come in fours;
* `encodeBase64` – the text of some bytes.
-/

namespace StackManifest.Text

/-- The letter with a value. -/
def base64Letter (n : Nat) : Char :=
  if n < 26 then Char.ofNat (0x41 + n)
  else if n < 52 then Char.ofNat (0x61 + (n - 26))
  else if n < 62 then Char.ofNat (0x30 + (n - 52))
  else if n = 62 then '+' else '/'

/-- The **value** of a letter. -/
def base64Value? (c : Char) : Option Nat :=
  if 'A' ≤ c ∧ c ≤ 'Z' then some (c.toNat - 0x41)
  else if 'a' ≤ c ∧ c ≤ 'z' then some (c.toNat - 0x61 + 26)
  else if '0' ≤ c ∧ c ≤ '9' then some (c.toNat - 0x30 + 52)
  else if c = '+' then some 62
  else if c = '/' then some 63
  else none

/-- How far a group of four letters has been read: how many letters there are, the equals
signs after them, and the bits that make up no byte yet. -/
structure Base64Group where
  letters : Nat
  fillers : Nat
  bits : Nat

/-- The bytes of the **rest** of a text after a part of a group. Characters outside the
alphabet are passed over. Nothing counts after the equals signs that complete a group; a
group that is not complete at the end is no group. -/
def decodeBase64From (g : Base64Group) : List Char → Option (List UInt8)
  | [] => if g.letters = 0 then some [] else none
  | c :: cs =>
    if c = '=' then
      let fillers := if 2 ≤ g.letters then g.fillers + 1 else g.fillers
      if 2 ≤ g.letters ∧ 4 ≤ g.letters + fillers then some []
      else decodeBase64From { g with fillers } cs
    else match base64Value? c with
      | none => decodeBase64From g cs
      | some v =>
        match g.letters with
        | 0 => decodeBase64From ⟨1, 0, v⟩ cs
        | 1 => ((g.bits * 4 + v / 16).toUInt8 :: ·) <$> decodeBase64From ⟨2, 0, v % 16⟩ cs
        | 2 => ((g.bits * 16 + v / 4).toUInt8 :: ·) <$> decodeBase64From ⟨3, 0, v % 4⟩ cs
        | _ => ((g.bits * 64 + v).toUInt8 :: ·) <$> decodeBase64From ⟨0, 0, 0⟩ cs

/-- The **bytes** that a text writes. -/
def decodeBase64 (cs : List Char) : Option (List UInt8) := decodeBase64From ⟨0, 0, 0⟩ cs

/-- The text of some bytes. -/
def encodeBase64 : List UInt8 → List Char
  | a :: b :: c :: rest =>
    let n := (a.toNat * 256 + b.toNat) * 256 + c.toNat
    base64Letter (n / 262144) :: base64Letter (n / 4096 % 64) :: base64Letter (n / 64 % 64)
      :: base64Letter (n % 64) :: encodeBase64 rest
  | [a, b] =>
    let n := (a.toNat * 256 + b.toNat) * 4
    [base64Letter (n / 4096), base64Letter (n / 64 % 64), base64Letter (n % 64), '=']
  | [a] => [base64Letter (a.toNat / 4), base64Letter (a.toNat % 4 * 16), '=', '=']
  | [] => []

end StackManifest.Text
