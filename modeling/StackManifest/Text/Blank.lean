/-!
# Blank characters

The blanks that are trimmed off a written number: the controls that end or space a line of
text, the four information separators, and the spaces of every script.

* `isBlank` – the class, and `trim`, which cuts it off both ends;
* `isSpace` – the narrower class of white space, without the information separators.
-/

namespace StackManifest.Text

/-- The code points of the spaces beyond the controls. -/
def spaceCodes : List Nat :=
  [0x20, 0x85, 0xA0, 0x1680, 0x2000, 0x2001, 0x2002, 0x2003, 0x2004, 0x2005, 0x2006, 0x2007,
   0x2008, 0x2009, 0x200A, 0x2028, 0x2029, 0x202F, 0x205F, 0x3000]

/-- **White space**: the controls from the tab to the carriage return, and the spaces. -/
def isSpace (c : Char) : Bool :=
  (0x09 ≤ c.toNat && c.toNat ≤ 0x0D) || spaceCodes.contains c.toNat

/-- A **blank**: white space or an information separator. -/
def isBlank (c : Char) : Bool :=
  isSpace c || (0x1C ≤ c.toNat && c.toNat ≤ 0x1F)

/-- The characters left when those of a class are cut off both ends. -/
def trimBy (p : Char → Bool) (cs : List Char) : List Char :=
  ((cs.dropWhile p).reverse.dropWhile p).reverse

/-- The characters left when the blanks are cut off both ends. -/
def trim (cs : List Char) : List Char := trimBy isBlank cs

end StackManifest.Text
