import PageLint.Text.Basic
import PageLint.Text.CaseRanges

/-!
# Case folding

Characters that differ in case only are sent to one common code point by simple case folding. Two
characters are case variants of each other when they are sent to the same one.

* `foldChar`: the code point that stands for all variants.
* `caseVariants`: all variants of a character.
* `Text.afterFolded?`: takes a head off a text in any case.
-/

namespace PageLint

/-- The code point that stands for the character and its case variants. -/
def foldChar (c : Char) : Nat :=
  if c.toNat < 128 then c.toLower.toNat
  else (CharRanges.foldRuns.findSome? (·.image? c.toNat)).getD c.toNat

/-- The characters that differ from `c` in case only, `c` itself among them. -/
def caseVariants (c : Char) : List Char :=
  let base := foldChar c
  Char.ofNat base :: (CharRanges.foldRuns.filterMap (·.preimage? base)).map Char.ofNat

/-- What follows `head`, in any case, in a text that begins with it. -/
def Text.afterFolded? : (head : Text) → Text → Option Text
  | [], t => some t
  | _ :: _, [] => none
  | h :: head, c :: t => if foldChar h = foldChar c then afterFolded? head t else none

end PageLint
