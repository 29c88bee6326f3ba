import PageLint.Text.Basic
import PageLint.Text.WordRanges
import PageLint.Text.CaseRanges

/-!
# Lower case

The lower case of characters and of texts, over all of Unicode. A character alone has one or two
characters as its lower case. In a text a capital sigma that ends a word becomes the final form of
the small letter.

* `lowerChar`: the lower case of one character.
* `Text.lower`: the lower case of a text.
-/

namespace PageLint

/-- The lower case of a character. -/
def lowerChar (c : Char) : Text :=
  if c.toNat < 128 then [c.toLower]
  else if c = 'İ' then ['i', '\u0307']
  else
    match CharRanges.lowerRuns.findSome? (·.image? c.toNat) with
    | some n => [Char.ofNat n]
    | none => [c]

/-- A character that has case. -/
def isCased (c : Char) : Bool := CharRanges.holds c.toNat CharRanges.casedRanges

/-- A character that is looked through when the letters beside it are searched. -/
def isCaseIgnorable (c : Char) : Bool := CharRanges.holds c.toNat CharRanges.caseIgnorableRanges

namespace Text

/-- Is the nearest character that is not looked through a letter with case? -/
def meetsCased (t : Text) : Bool := (t.dropWhile isCaseIgnorable).head?.any isCased

/-- The lower case of `ahead`, where `behind` is the text before it, nearest character first. -/
def lowerFrom (behind : Text) : (ahead : Text) → Text
  | [] => []
  | c :: t =>
    let image :=
      if c = 'Σ' then
        if meetsCased behind && !meetsCased t then ['ς'] else ['σ']
      else lowerChar c
    image ++ lowerFrom (c :: behind) t

/-- The lower case of the text. -/
def lower (t : Text) : Text := lowerFrom [] t

end Text

end PageLint
