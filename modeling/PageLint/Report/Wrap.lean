import PageLint.Text.CharClass

/-!
# Wrapping

A text is broken into lines between its words. Each line takes as many words as fit; a word that is
longer than a line stands alone.

* `Text.wrap`: the lines of a text for a width.
-/

namespace PageLint.Text

/-- The lines of the words, when `line` is begun and not empty. -/
def wrapFrom (width : Nat) (line : Text) : List Text → List Text
  | [] => [line]
  | word :: words =>
    if line.length + 1 + word.length ≤ width then wrapFrom width (line ++ ' ' :: word) words
    else line :: wrapFrom width word words

/-- The lines of the words: one empty line if there is no word. -/
def wrapWords (width : Nat) : List Text → List Text
  | [] => [[]]
  | word :: words => wrapFrom width word words

/-- The text in lines of at most `width` characters, as far as its words allow. -/
def wrap (t : Text) (width : Nat) : List Text := wrapWords width t.words

end PageLint.Text
