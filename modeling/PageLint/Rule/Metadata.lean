import PageLint.Checker
import PageLint.Markup.Page

/-!
# Rules about metadata

Front matter, links and citations.

* `Rule.frontMatter`: there is front matter with a title and a description, and no value that
  holds a colon without quotes.
* `Rule.links`: links within the site have no blanks.
* `Rule.citation`: a page that uses a source cites it.
-/

namespace PageLint.Rule

/-- The key and the value of a front matter line with an unquoted title or description. -/
def unquotedValue? (line : Text) : Option (String × Text) := do
  let (key, t) ← ["title", "description"].findSome? fun key =>
    (Text.after? (key.toList ++ [':']) line).map (key, ·)
  match t.dropWhile isSpace with
  | [] => none
  | c :: value => if c = '"' ∨ c = '\'' then none else some (key, c :: value)

/-- Front matter must exist, with a title; a description is expected. A value with a colon has to
be quoted. -/
def frontMatter (_ : Checker) (page : Page) : List Notice :=
  match page.frontMatter with
  | none => [.error "META_FRONTMATTER" "Missing YAML frontmatter block"]
  | some block =>
    (if block.has "title:" then []
      else [.error "META_FRONTMATTER" "Frontmatter missing 'title:'"]) ++
    (if block.has "description:" then []
      else [.warn "META_FRONTMATTER" "Frontmatter missing 'description:'"]) ++
    block.lines.filterMap fun line =>
      match unquotedValue? line with
      | some (key, value) =>
        if value.contains ':' then
          some (.warn "META_YAML_QUOTE" (key ++
            ": value contains a colon but is not quoted; wrap it in double quotes to prevent a YAML parse error: '"
            ++ Text.str (Text.trim line) ++ "'"))
        else none
      | none => none

/-- Reads a Markdown link to an absolute path that holds a space, and gives the path. -/
def spacedLink : Reader Text := fun _ t => do
  let t ← Text.after? ['['] t
  let (label, t) ← Text.readUpTo? ']' t
  if label.isEmpty then none
  let t ← Text.after? ['('] t
  let _ ← Text.after? ['/'] t
  let (path, rest) ← Text.readUpTo? ')' t
  if (path.dropWhile (!isSpace ·)).head? = some ' ' then return (path, rest) else none

/-- A link path must not hold a plain space. -/
def links (_ : Checker) (page : Page) : List Notice :=
  (page.text.hits spacedLink).map fun h =>
    .error "LINK_ENCODING" ("Unencoded space in link path, use %20: (" ++ h.value.str ++ ")")

/-- The text without any number of copies of `head` at its start. The fuel is the length of the
text. -/
def dropRepeated (head : Text) : (fuel : Nat) → Text → Text
  | 0, t => t
  | fuel + 1, t =>
    match Text.after? head t with
    | some rest => dropRepeated head fuel rest
    | none => t

/-- A page that mentions a source must give its address. -/
def citation (checker : Checker) (page : Page) : List Notice :=
  checker.tables.citations.filterMap fun c =>
    if page.text.has c.trigger && !page.text.has c.url then
      let url := dropRepeated "https://".toList c.url.length c.url.toList
      some (.warn "META_CITATION" ("Page uses " ++ c.trigger ++ " but does not cite https://" ++
        url.str ++ "; add it to the source footnote"))
    else none

end PageLint.Rule
