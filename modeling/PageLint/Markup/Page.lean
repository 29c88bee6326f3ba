import PageLint.Markup.QueryBlock
import PageLint.Markup.Tag
import PageLint.Markup.FrontMatter

/-!
# Pages

A page is a Markdown text under a path. What the rules see of it is read off the text: the front
matter, the query blocks and the component tags.

* `Page.queries`, `Page.sql`: the query blocks and all their SQL.
* `Page.tags` and its parts: the component tags.
* `Page.normalizeNewlines`: line ends of two characters as line feeds.
-/

namespace PageLint

/-- A dashboard page. -/
structure Page where
  /-- The path that findings name. -/
  path : String
  /-- The text of the page. -/
  text : Text

namespace Page

/-- The text with every carriage return before a line feed taken out, in one pass. -/
def normalizeNewlines (t : Text) : Text := t.replace ['\r', '\n'] ['\n']

variable (page : Page)

/-- The block of settings at the start. -/
def frontMatter : Option Text := (FrontMatter.split page.text).1

/-- The text behind the front matter. -/
def body : Text := (FrontMatter.split page.text).2

/-- The position of the body in the text, in bytes. -/
def bodyOffset : Nat := Text.utf8Size page.text - Text.utf8Size page.body

/-- The query blocks, in order. -/
def queries : List QueryBlock := QueryBlock.ofText page.text

/-- The SQL of all blocks, with a line end between each two. -/
def sql : Text := Text.join ['\n'] (page.queries.map (·.text))

/-- The component tags, in order. -/
def tags : List Tag := Tag.ofText page.text

/-- The tags of one kind. -/
def tagsOf (kind : ComponentKind) : List Tag := page.tags.filter (·.kind == kind)

/-- The chart tags. -/
def charts : List Tag := page.tags.filter (·.kind.isChart)

/-- The charts whose `x` is the column `dateAxis`. -/
def timeSeries (dateAxis : String) : List Tag :=
  page.charts.filter fun t => t.bare? "x" == some dateAxis.toList

/-- Is there a tag of a kind that satisfies `p`? -/
def hasTag (p : ComponentKind → Bool) : Bool := page.tags.any (p ·.kind)

/-- The last component of the path. -/
def fileName : Text :=
  (page.path.toList.reverse.takeWhile fun c => c != '/' && c != '\\').reverse

end Page

end PageLint
