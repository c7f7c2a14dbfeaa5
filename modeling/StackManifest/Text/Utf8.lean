/-!
# Texts as bytes

Reading a text from its bytes, each character in one to four of them, and the report of
the first place where the bytes are no text.

* `Utf8Fault` – the bytes that cannot be read and the **reason**;
* `decodeUtf8` – the characters of a sequence of bytes, or its first fault.
-/

namespace StackManifest.Text

/-- Why some bytes are no character. -/
inductive Utf8Reason where
  /-- The first byte begins no character. -/
  | invalidStart
  /-- A later byte does not continue the character. -/
  | invalidContinuation
  /-- The bytes end inside the character. -/
  | endOfData
  deriving DecidableEq, Repr

/-- The wording of a reason. -/
def Utf8Reason.message : Utf8Reason → String
  | .invalidStart => "invalid start byte"
  | .invalidContinuation => "invalid continuation byte"
  | .endOfData => "unexpected end of data"

/-- The **first place** where bytes are no text: the offending bytes lie from `start` up to,
but not including, `stop`, and `first` is the first of them. -/
structure Utf8Fault where
  first : UInt8
  start : Nat
  stop : Nat
  reason : Utf8Reason
  deriving DecidableEq, Repr

/-- The wording of a fault. -/
def Utf8Fault.message (f : Utf8Fault) : String :=
  let place :=
    if f.stop = f.start + 1 then
      "byte 0x" ++ String.ofList (Nat.toDigits 16 f.first.toNat |> pad)
        ++ s!" in position {f.start}"
    else
      s!"bytes in position {f.start}-{f.stop - 1}"
  "'utf-8' codec can't decode " ++ place ++ ": " ++ f.reason.message
where
  /-- Two digits at least. -/
  pad (ds : List Char) : List Char := List.replicate (2 - ds.length) '0' ++ ds

/-- A byte that continues a character. -/
def isContinuation (b : UInt8) : Bool := b.toNat / 0x40 == 2

/-- The least and the greatest second byte after a given first one: the bounds keep out
overlong forms, surrogates and what lies beyond the last code point. -/
def secondByteBounds (b : UInt8) : Nat × Nat :=
  if b = 0xE0 then (0xA0, 0xBF)
  else if b = 0xED then (0x80, 0x9F)
  else if b = 0xF0 then (0x90, 0xBF)
  else if b = 0xF4 then (0x80, 0x8F)
  else (0x80, 0xBF)

/-- How many bytes the character has that begins with a byte, zero when none does. -/
def utf8Length (b : UInt8) : Nat :=
  if b < 0x80 then 1 else if b < 0xC2 then 0 else if b < 0xE0 then 2
  else if b < 0xF0 then 3 else if b < 0xF5 then 4 else 0

/-- The value bits of a first byte. -/
def leadBits (b : UInt8) : Nat :=
  if b < 0x80 then b.toNat else if b < 0xE0 then b.toNat % 0x20
  else if b < 0xF0 then b.toNat % 0x10 else b.toNat % 8

/-- The characters of a sequence of bytes, whose first has the given **position** in the
whole, or the first fault. -/
def decodeUtf8From (position : Nat) : List UInt8 → Except Utf8Fault (List Char)
  | [] => .ok []
  | b :: rest =>
    let fault := fun (n : Nat) (r : Utf8Reason) => Except.error ⟨b, position, position + n, r⟩
    let next := fun (code : Nat) (tail : Except Utf8Fault (List Char)) =>
      (Char.ofNat code :: ·) <$> tail
    let goodSecond := fun (c : UInt8) =>
      (secondByteBounds b).1 ≤ c.toNat && c.toNat ≤ (secondByteBounds b).2
    match utf8Length b with
    | 0 => fault 1 .invalidStart
    | 1 => next b.toNat (decodeUtf8From (position + 1) rest)
    | n + 2 =>
      match rest with
      | [] => fault 1 .endOfData
      | c :: rest =>
        if !goodSecond c then fault 1 .invalidContinuation
        else
          let code := leadBits b * 0x40 + c.toNat % 0x40
          if n = 0 then next code (decodeUtf8From (position + 2) rest)
          else match rest with
          | [] => fault 2 .endOfData
          | d :: rest =>
            if !isContinuation d then fault 2 .invalidContinuation
            else
              let code := code * 0x40 + d.toNat % 0x40
              if n = 1 then next code (decodeUtf8From (position + 3) rest)
              else match rest with
              | [] => fault 3 .endOfData
              | e :: rest =>
                if !isContinuation e then fault 3 .invalidContinuation
                else next (code * 0x40 + e.toNat % 0x40) (decodeUtf8From (position + 4) rest)

/-- The **characters** of a sequence of bytes, or the first fault. -/
def decodeUtf8 (bs : List UInt8) : Except Utf8Fault (List Char) := decodeUtf8From 0 bs

end StackManifest.Text
