import StackManifest.Json.Reader
import StackManifest.Text.Digit

/-!
# What a plain scalar stands for

A scalar without quotes and without a tag stands for a number, a date, a truth value or
nothing if it is spelled like one, and for a text otherwise. The spellings are patterns of
characters, one for each sort.

* `Tag` – the tags of the sorts;
* `Pattern` – **patterns** of characters, and `Pattern.matches?`;
* `plainTag` – the tag of a plain scalar.
-/

namespace StackManifest.Yaml

/-! ### Tags -/

namespace Tag

/-- The beginning of the tags that every text may use. -/
def common : String := "tag:yaml.org,2002:"

def null : String := common ++ "null"
def bool : String := common ++ "bool"
def int : String := common ++ "int"
def float : String := common ++ "float"
def str : String := common ++ "str"
def seq : String := common ++ "seq"
def map : String := common ++ "map"
def set : String := common ++ "set"
def omap : String := common ++ "omap"
def pairs : String := common ++ "pairs"
def binary : String := common ++ "binary"
def timestamp : String := common ++ "timestamp"
def merge : String := common ++ "merge"
def value : String := common ++ "value"
def directive : String := common ++ "yaml"

end Tag

/-! ### Patterns -/

/-- A **pattern** of characters. -/
inductive Pattern where
  /-- One character of a class. -/
  | one (p : Char → Bool)
  /-- Nothing at all. -/
  | nothing
  /-- One pattern after the other. -/
  | seq (a b : Pattern)
  /-- One pattern or the other. -/
  | alt (a b : Pattern)
  /-- Any number of characters of a class. -/
  | many (p : Char → Bool)
  /-- One pattern any number of times, at most a given one. -/
  | upTo (n : Nat) (a : Pattern)

namespace Pattern

/-- What may be **left** of a text after a pattern. -/
def rests : Pattern → List Char → List (List Char)
  | .one p, c :: cs => if p c then [cs] else []
  | .one _, [] => []
  | .nothing, cs => [cs]
  | .seq a b, cs => (a.rests cs).flatMap b.rests
  | .alt a b, cs => a.rests cs ++ b.rests cs
  | .many p, cs => tails p cs
  | .upTo n a, cs => repeated a.rests n cs
where
  /-- What may be left after some characters of a class. -/
  tails (p : Char → Bool) : List Char → List (List Char)
    | [] => [[]]
    | c :: cs => if p c then tails p cs ++ [c :: cs] else [c :: cs]
  /-- What may be left after some repetitions. -/
  repeated (f : List Char → List (List Char)) : Nat → List Char → List (List Char)
    | 0, cs => [cs]
    | n + 1, cs => cs :: (f cs).flatMap fun rest =>
      if rest.length < cs.length then repeated f n rest else []

/-- Whether a whole text **matches** a pattern. A line feed may come after it. -/
def matches? (a : Pattern) (cs : List Char) : Bool :=
  (a.rests cs).any fun rest => rest = [] || rest = ['\n']

/-- A given character. -/
def char (c : Char) : Pattern := .one (· = c)

/-- One of some characters. -/
def oneOf (s : String) : Pattern := .one s.toList.contains

/-- A given word. -/
def word (s : String) : Pattern := s.toList.foldr (fun c p => .seq (char c) p) .nothing

/-- One of some words. -/
def anyWord (ss : List String) : Pattern :=
  ss.foldr (fun s p => .alt (word s) p) (.one fun _ => false)

/-- A pattern that may be missing. -/
def maybe (a : Pattern) : Pattern := .alt a .nothing

/-- Some patterns in a row. -/
def row (ps : List Pattern) : Pattern := ps.foldr .seq .nothing

/-- One of some patterns. -/
def anyOf (ps : List Pattern) : Pattern := ps.foldr .alt (.one fun _ => false)

end Pattern

open Pattern

/-- A basic digit. -/
def digit : Pattern := .one Json.isBasicDigit

/-- An optional sign. -/
def sign : Pattern := maybe (oneOf "-+")

/-- Any number of digits and underscores. -/
def digits_ : Pattern := .many fun c => Json.isBasicDigit c || c = '_'

/-- One or more of some characters. -/
def some_ (s : String) : Pattern := .seq (oneOf s) (.many s.toList.contains)

/-- Two digits. -/
def twoDigits : Pattern := .seq digit digit

/-- One digit or two. -/
def shortNumber : Pattern := .seq digit (maybe digit)

/-- A power of ten, with its sign. -/
def power : Pattern := maybe (row [oneOf "eE", oneOf "-+", digit, .many Json.isBasicDigit])

/-- Colons with numbers below sixty after them, in a text of some length. -/
def sixties (size : Nat) : Pattern :=
  let part := row [char ':', maybe (oneOf "012345"), digit]
  .seq part (.upTo size part)

/-- The spellings of truth values. -/
def boolPattern : Pattern :=
  anyWord ["yes", "Yes", "YES", "no", "No", "NO", "true", "True", "TRUE", "false", "False",
    "FALSE", "on", "On", "ON", "off", "Off", "OFF"]

/-- The spellings of **numbers with a point**, of infinities and of what is no number. -/
def floatPattern (size : Nat) : Pattern :=
  anyOf
    [row [sign, digit, digits_, char '.', digits_, power],
     row [char '.', digit, digits_, power],
     row [sign, digit, digits_, sixties size, char '.', digits_],
     row [sign, char '.', anyWord ["inf", "Inf", "INF"]],
     row [char '.', anyWord ["nan", "NaN", "NAN"]]]

/-- The spellings of **whole numbers**: to the bases two, eight, ten, sixteen and sixty. -/
def intPattern (size : Nat) : Pattern :=
  anyOf
    [row [sign, word "0b", some_ "01_"],
     row [sign, char '0', some_ "01234567_"],
     row [sign, .alt (char '0') (row [oneOf "123456789", digits_])],
     row [sign, word "0x", some_ "0123456789abcdefABCDEF_"],
     row [sign, oneOf "123456789", digits_, sixties size]]

/-- The spellings of nothing. -/
def nullPattern : Pattern := anyWord ["~", "null", "Null", "NULL", ""]

/-- The distance from universal time after a time of day. -/
def zonePattern : Pattern :=
  maybe (.seq (.many fun c => c = ' ' || c = '\t')
    (.alt (char 'Z') (row [oneOf "-+", shortNumber, maybe (.seq (char ':') twoDigits)])))

/-- The spellings of **dates**, with or without a time of day. -/
def timestampPattern : Pattern :=
  anyOf
    [row [twoDigits, twoDigits, char '-', twoDigits, char '-', twoDigits],
     row [twoDigits, twoDigits, char '-', shortNumber, char '-', shortNumber,
       .alt (oneOf "Tt") (some_ " \t"),
       shortNumber, char ':', twoDigits, char ':', twoDigits,
       maybe (.seq (char '.') (.many Json.isBasicDigit)), zonePattern]]

/-- The sorts of plain scalars: the characters with which a scalar of the sort may begin, its
pattern, and its tag. The scalar without characters is among those that stand for
nothing. -/
def plainSorts (size : Nat) : List (String × Pattern × String) :=
  [("yYnNtTfFoO", boolPattern, Tag.bool),
   ("-+0123456789.", floatPattern size, Tag.float),
   ("-+0123456789", intPattern size, Tag.int),
   ("<", word "<<", Tag.merge),
   ("~nN", nullPattern, Tag.null),
   ("0123456789", timestampPattern, Tag.timestamp),
   ("=", word "=", Tag.value),
   ("!&*", oneOf "!&*", Tag.directive)]

/-- The **tag** of a plain scalar: that of the first sort that it is spelled like, and that of
texts if there is none. -/
def plainTag (s : String) : String :=
  match s.toList with
  | [] => Tag.null
  | c :: cs =>
    ((plainSorts cs.length).findSome? fun (firsts, p, tag) =>
      if firsts.toList.contains c && p.matches? (c :: cs) then some tag else none).getD Tag.str

end StackManifest.Yaml
