import PageLint.Text.Basic

/-!
# Front matter

A page may begin with a block of settings between two `---` lines. The block is the shortest text
behind the opening line that is followed by a line break and `---`.

* `FrontMatter.split`: the block, if there is one, and the body behind it.
-/

namespace PageLint.FrontMatter

/-- The front matter of a text, without its fences, and the rest of the text. -/
def split (t : Text) : Option Text × Text :=
  match Text.after? ['-', '-', '-', '\n'] t with
  | none => (none, t)
  | some inside =>
    match Text.splitAt? ['\n', '-', '-', '-'] inside with
    | none => (none, t)
    | some (block, '\n' :: body) => (some block, body)
    | some (block, body) => (some block, body)

end PageLint.FrontMatter
