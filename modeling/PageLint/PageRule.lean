import PageLint.Rule.Metadata
import PageLint.Rule.QuerySafety
import PageLint.Rule.QueryUse
import PageLint.Rule.GapAnnotation
import PageLint.Rule.Nesting
import PageLint.Rule.SeriesColors
import PageLint.Rule.ChartProps
import PageLint.Rule.Narrative

/-!
# Page rules

The rules for pages in the order in which they run. A rule sees one page and the checker, and says
notices; the notices of a page in this order are its findings.

* `PageRule.all`: the rules in order.
* `Checker.checkPage`: all findings about a page.
-/

namespace PageLint

/-- A rule for pages. -/
inductive PageRule where
  /-- Front matter. -/
  | frontMatter
  /-- Links within the site. -/
  | links
  /-- The safety of SQL. -/
  | querySafety
  /-- Formats, linked charts and gap annotations. -/
  | components
  /-- The place of query blocks. -/
  | queryPlacement
  /-- References between components and query blocks. -/
  | queryReferences
  /-- Children of self-closing charts. -/
  | lostChildren
  /-- The order of listed categories. -/
  | seriesColors
  /-- Citations. -/
  | citation
  /-- What keeps charts from misleading. -/
  | affordances
  /-- Point maps. -/
  | maps
  /-- The presentation of charts, tables and cards. -/
  | presentation
  /-- What surrounds the charts of a page. -/
  | pageStructure
  /-- The first sentence. -/
  | opener
  /-- Prose in conditional views. -/
  | conditionalViews
  deriving DecidableEq, Repr

namespace PageRule

/-- The rules in the order in which they run. -/
def all : List PageRule :=
  [frontMatter, links, querySafety, components, queryPlacement, queryReferences, lostChildren,
   seriesColors, citation, affordances, maps, presentation, pageStructure, opener,
   conditionalViews]

/-- What the rule says about a page. -/
def run : PageRule → Checker → Page → List Notice
  | frontMatter => Rule.frontMatter
  | links => Rule.links
  | querySafety => Rule.querySafety
  | components => Rule.components
  | queryPlacement => Rule.queryPlacement
  | queryReferences => Rule.queryReferences
  | lostChildren => Rule.lostChildren
  | seriesColors => Rule.seriesColors
  | citation => Rule.citation
  | affordances => Rule.affordances
  | maps => Rule.maps
  | presentation => Rule.presentation
  | pageStructure => Rule.pageStructure
  | opener => Rule.opener
  | conditionalViews => Rule.conditionalViews

end PageRule

namespace Checker

variable (checker : Checker)

/-- The findings of one rule about a page. -/
def findingsOf (rule : PageRule) (page : Page) : List Finding :=
  (rule.run checker page).map (·.inFile page.path)

/-- The findings of all rules about a page, rule by rule. -/
def findings (page : Page) : List Finding := PageRule.all.flatMap (checker.findingsOf · page)

/-- The findings about a page that was read from a file. Its line ends are unified first. -/
def checkPage (path : String) (text : Text) : List Finding :=
  checker.findings ⟨path, Page.normalizeNewlines text⟩

end Checker

end PageLint
