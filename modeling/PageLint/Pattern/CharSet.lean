import PageLint.Text.Folding
import PageLint.Text.CharClass
import PageLint.Text.Category
import PageLint.Text.Scripts
import PageLint.Text.Properties

/-!
# Sets of characters

The sets of characters that patterns are built from, with their algebra, and the sets that have a
name.

* `CharSet.holds`: is a character in the set?
* `CharSet.property?`: the set with the name of a category, script or property.
* `CharSet.ascii?`: the set with the name of a class of ASCII characters.
-/

namespace PageLint

/-- A set of characters. -/
inductive CharSet where
  /-- The code points of some inclusive ranges. -/
  | ranges (rs : List (Nat × Nat))
  /-- What is in the first set or in the second. -/
  | union (s t : CharSet)
  /-- What is in both sets. -/
  | inter (s t : CharSet)
  /-- What is not in the set. -/
  | compl (s : CharSet)
  /-- What has a case variant in the set. -/
  | folded (s : CharSet)
  /-- What has an ASCII case variant in the set. -/
  | asciiFolded (s : CharSet)

namespace CharSet

/-- Is the character in the set? -/
def holds : CharSet → Char → Bool
  | ranges rs, c => CharRanges.holds c.toNat rs
  | union s t, c => s.holds c || t.holds c
  | inter s t, c => s.holds c && t.holds c
  | compl s, c => !s.holds c
  | folded s, c => (caseVariants c).any s.holds
  | asciiFolded s, c => s.holds c || s.holds c.toLower || s.holds c.toUpper

/-- An upper bound for the number of runs of code points of the set. -/
def size : CharSet → Nat
  | ranges rs => rs.length
  | union s t | inter s t => s.size + t.size
  | compl s => s.size + 1
  | folded s | asciiFolded s => 2 * s.size

/-- The set without any character. -/
def empty : CharSet := ranges []

/-- The set of all characters. -/
def full : CharSet := ranges [(0, 0x10FFFF)]

/-- The set of one character. -/
def single (c : Char) : CharSet := ranges [(c.toNat, c.toNat)]

/-- What is in the first set and not in the second. -/
def diff (s t : CharSet) : CharSet := inter s (compl t)

/-- What is in exactly one of the sets. -/
def symmDiff (s t : CharSet) : CharSet := union (diff s t) (diff t s)

/-- The characters of some categories. -/
def categories (ks : List Category) : CharSet := ranges (ks.flatMap (·.ranges))

/-- Decimal digits. -/
def digit : CharSet := categories [.digit]

/-- Blanks. -/
def space : CharSet := ranges spaceRanges

/-- Word characters. -/
def word : CharSet := ranges CharRanges.wordRanges

/-- Decimal digits of ASCII. -/
def asciiDigit : CharSet := ranges [(48, 57)]

/-- Blanks of ASCII, the vertical tab among them. -/
def asciiSpace : CharSet := ranges [(9, 13), (32, 32)]

/-- Word characters of ASCII. -/
def asciiWord : CharSet := ranges [(48, 57), (65, 90), (95, 95), (97, 122)]

/-! ### Names -/

/-- The class of ASCII characters with this name. -/
def ascii? : String → Option CharSet
  | "alnum" => some (ranges [(48, 57), (65, 90), (97, 122)])
  | "alpha" => some (ranges [(65, 90), (97, 122)])
  | "ascii" => some (ranges [(0, 127)])
  | "blank" => some (ranges [(9, 9), (32, 32)])
  | "cntrl" => some (ranges [(0, 31), (127, 127)])
  | "digit" => some asciiDigit
  | "graph" => some (ranges [(33, 126)])
  | "lower" => some (ranges [(97, 122)])
  | "print" => some (ranges [(32, 126)])
  | "punct" => some (ranges [(33, 47), (58, 64), (91, 96), (123, 126)])
  | "space" => some asciiSpace
  | "upper" => some (ranges [(65, 90)])
  | "word" => some asciiWord
  | "xdigit" => some (ranges [(48, 57), (65, 70), (97, 102)])
  | _ => none

/-- A name without separators, without an initial `is`, in lower case. -/
def normalizeName (t : Text) : String :=
  let isNamed := (t.take 2).map Char.toLower = ['i', 's']
  let rest := if isNamed then t.drop 2 else t
  let kept := rest.filter fun c => c.toNat < 128 && c != ' ' && c != '_' && c != '-'
  let name := String.ofList (kept.map Char.toLower)
  if isNamed ∧ name = "c" then "isc" else name

/-- Letters. -/
def letters : List Category :=
  [.upperLetter, .lowerLetter, .titleLetter, .modifierLetter, .otherLetter]

/-- The categories with this name; a name can stand for a group of them. -/
def categories? : String → Option (List Category)
  | "l" | "letter" => some letters
  | "lc" | "casedletter" => some [.upperLetter, .lowerLetter, .titleLetter]
  | "lu" | "uppercaseletter" => some [.upperLetter]
  | "ll" | "lowercaseletter" => some [.lowerLetter]
  | "lt" | "titlecaseletter" => some [.titleLetter]
  | "lm" | "modifierletter" => some [.modifierLetter]
  | "lo" | "otherletter" => some [.otherLetter]
  | "m" | "mark" | "combiningmark" => some [.nonspacingMark, .spacingMark, .enclosingMark]
  | "mn" | "nonspacingmark" => some [.nonspacingMark]
  | "mc" | "spacingmark" => some [.spacingMark]
  | "me" | "enclosingmark" => some [.enclosingMark]
  | "n" | "number" => some [.digit, .letterNumber, .otherNumber]
  | "nd" | "decimalnumber" | "digit" => some [.digit]
  | "nl" | "letternumber" => some [.letterNumber]
  | "no" | "othernumber" => some [.otherNumber]
  | "p" | "punctuation" | "punct" =>
    some [.connector, .dash, .opening, .closing, .initialQuote, .finalQuote, .otherPunctuation]
  | "pc" | "connectorpunctuation" => some [.connector]
  | "pd" | "dashpunctuation" => some [.dash]
  | "ps" | "openpunctuation" => some [.opening]
  | "pe" | "closepunctuation" => some [.closing]
  | "pi" | "initialpunctuation" => some [.initialQuote]
  | "pf" | "finalpunctuation" => some [.finalQuote]
  | "po" | "otherpunctuation" => some [.otherPunctuation]
  | "s" | "symbol" => some [.mathSymbol, .currencySymbol, .modifierSymbol, .otherSymbol]
  | "sm" | "mathsymbol" => some [.mathSymbol]
  | "sc" | "currencysymbol" => some [.currencySymbol]
  | "sk" | "modifiersymbol" => some [.modifierSymbol]
  | "so" | "othersymbol" => some [.otherSymbol]
  | "z" | "separator" => some [.space, .lineSeparator, .paragraphSeparator]
  | "zs" | "spaceseparator" => some [.space]
  | "zl" | "lineseparator" => some [.lineSeparator]
  | "zp" | "paragraphseparator" => some [.paragraphSeparator]
  | "c" | "other" => some [.control, .format, .unassigned, .privateUse, .surrogate]
  | "cc" | "control" | "cntrl" => some [.control]
  | "cf" | "format" => some [.format]
  | "cn" | "unassigned" => some [.unassigned]
  | "co" | "privateuse" => some [.privateUse]
  | "cs" | "surrogate" => some [.surrogate]
  | _ => none

/-- The set of a category, or of everything, everything that is assigned, or ASCII. -/
def category? (name : String) : Option CharSet :=
  match name with
  | "any" => some full
  | "assigned" => some (compl (categories [.unassigned]))
  | "ascii" => some (ranges [(0, 127)])
  | _ => (categories? name).map categories

/-- The set listed under a name. -/
def listed? (table : List (List String × List (Nat × Nat))) (name : String) : Option CharSet :=
  (table.find? fun entry => entry.1.contains name).map fun entry => ranges entry.2

/-- The set of a script. -/
def script? (name : String) : Option CharSet := listed? CharRanges.scripts name

/-- The set of a property that characters have or lack. -/
def binary? : String → Option CharSet
  | "alphabetic" | "alpha" =>
    some (union (categories (.letterNumber :: letters)) (ranges CharRanges.otherAlphabetic))
  | "lowercase" | "lower" =>
    some (union (categories [.lowerLetter]) (ranges CharRanges.otherLowercase))
  | "uppercase" | "upper" =>
    some (union (categories [.upperLetter]) (ranges CharRanges.otherUppercase))
  | "whitespace" | "wspace" | "space" => some space
  | "cased" => some (ranges CharRanges.casedRanges)
  | "caseignorable" | "ci" => some (ranges CharRanges.caseIgnorableRanges)
  | name => listed? CharRanges.properties name

/-- The set of a property that is named alone. -/
def property? (t : Text) : Option CharSet :=
  let name := normalizeName t
  if name = "cf" ∨ name = "sc" ∨ name = "lc" then category? name
  else (binary? name).or ((category? name).or (script? name))

/-- The set of the characters whose property has a value. -/
def propertyValue? (property value : Text) : Option CharSet :=
  let value := normalizeName value
  match normalizeName property with
  | "gc" | "generalcategory" => category? value
  | "sc" | "script" | "scx" | "scriptextensions" => script? value
  | _ => none

end CharSet

end PageLint
