/-!
# Texts as pairs of bytes

Reading a text whose characters are made up of 16-bit units: one unit each, or a high and a
low **surrogate** for a character beyond the first 65536.

* `units?` – the units that the bytes make up, two bytes each in either order;
* `decodeUnits?` – the characters of a sequence of units;
* `decodeMarked?` – the characters of bytes that begin with the mark of their order.
-/

namespace StackManifest.Text

/-- The **units** that the bytes make up. There are none if a byte is left over. -/
def units? (bigEndian : Bool) : List UInt8 → Option (List Nat)
  | [] => some []
  | [_] => none
  | a :: b :: rest =>
    let unit := if bigEndian then a.toNat * 0x100 + b.toNat else b.toNat * 0x100 + a.toNat
    (units? bigEndian rest).map (unit :: ·)

/-- Whether a unit is the first one of a pair. -/
def isHighSurrogate (u : Nat) : Bool := 0xD800 ≤ u && u < 0xDC00

/-- Whether a unit is the second one of a pair. -/
def isLowSurrogate (u : Nat) : Bool := 0xDC00 ≤ u && u < 0xE000

/-- The **characters** of a sequence of units, if each surrogate belongs to a pair. -/
def decodeUnits? : List Nat → Option (List Char)
  | [] => some []
  | u :: rest =>
    if isHighSurrogate u then
      match rest with
      | [] => none
      | v :: rest =>
        if isLowSurrogate v then
          (decodeUnits? rest).map
            (Char.ofNat (0x10000 + (u - 0xD800) * 0x400 + (v - 0xDC00)) :: ·)
        else none
    else if isLowSurrogate u then none
    else (decodeUnits? rest).map (Char.ofNat u :: ·)

/-- The characters of bytes that begin with the **mark of their order**, which is the first
character. No result at all when there is no mark. -/
def decodeMarked? (bs : List UInt8) : Option (Option (List Char)) :=
  match bs with
  | 0xFF :: 0xFE :: _ => some ((units? false bs).bind decodeUnits?)
  | 0xFE :: 0xFF :: _ => some ((units? true bs).bind decodeUnits?)
  | _ => none

end StackManifest.Text
