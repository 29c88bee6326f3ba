import PageLint.Proofs.BuiltinCheckers
import PageLint.Proofs.PageCuts
import PageLint.Proofs.QueryGrammar
import PageLint.Proofs.Splitting

/-!
# The prose of introductions

The introduction of a page stands between its front matter and its first chart, table, map, grid or
summary card (`Rule.Introduction`). It is written in lines of prose, headings and fenced blocks
(`Prose.Piece`), and its length is the number of words of the prose.

Fenced blocks are taken out first, and then headings are emptied. A line of prose stands between line
feeds that stay, so it is not joined with another line. Text without backticks cannot begin a fenced
block, and a block ends with the fence that was written for it, whatever follows.

## Main results

* `Prose.isSome_headingRest?_iff`: which lines are headings.
* `Prose.without_render`, `Prose.withoutHeadings_join`: what is left without fenced blocks, and without
  headings.
* `Prose.words_strip_render`, `Prose.length_words_strip_render`: **the words that are left** are those of
  the prose.
* `Rule.introduction?_eq_some_iff`: where the introduction stands.
* `Checker.introduction_exact`: **only prose counts as introduction**.
-/

namespace PageLint

namespace Prose

open QueryBlock (fence)

/-! ### Headings -/

/-- Is the line a heading: one to six number signs, and then a space or a tab? -/
def IsHeading (line : Text) : Prop :=
  ∃ signs c rest, 1 ≤ signs ∧ signs ≤ 6 ∧ isInlineBlank c = true ∧
    line = List.replicate signs '#' ++ c :: rest

/-- **Which lines are headings.** -/
theorem isSome_headingRest?_iff {line : Text} :
    (headingRest? line).isSome = true ↔ IsHeading line := by
  constructor
  · intro h
    rw [headingRest?] at h
    split at h
    · next c rest hdrop =>
      split at h
      · next hsigns =>
        have htake : line.takeWhile (· == '#') =
            List.replicate (line.takeWhile (· == '#')).length '#' := by
          refine List.eq_replicate_of_mem fun d hd => ?_
          simpa using List.mem_takeWhile_imp hd
        refine ⟨_, c, rest, hsigns.1, hsigns.2.1, hsigns.2.2, ?_⟩
        rw [← htake, ← hdrop, List.takeWhile_append_dropWhile]
      · cases h
    · cases h
  · rintro ⟨signs, c, rest, hone, hsix, hblank, rfl⟩
    have hsigns : ∀ d ∈ List.replicate signs '#', (d == '#') = true := fun d hd =>
      beq_iff_eq.mpr (List.eq_of_mem_replicate hd)
    have hend : ∀ d, (c :: rest).head? = some d → (d == '#') = false := by
      rintro d hd
      obtain rfl := Option.some.inj hd
      refine beq_eq_false_iff_ne.mpr ?_
      rintro rfl
      exact absurd hblank (by decide)
    obtain ⟨htake, hdrop⟩ := Text.takeWhile_dropWhile_append hsigns hend
    simp [headingRest?, htake, hdrop, hone, hsix, hblank]

instance (line : Text) : Decidable (IsHeading line) := decidable_of_iff _ isSome_headingRest?_iff

/-- Headings are emptied line by line. -/
theorem withoutHeadings_join {lines : List Text} (h : ∀ line ∈ lines, '\n' ∉ line) :
    withoutHeadings (Text.join ['\n'] lines) =
      Text.join ['\n'] (lines.map fun line => if IsHeading line then [] else line) := by
  cases lines with
  | nil => rfl
  | cons line lines =>
      rw [withoutHeadings, Text.splitOn_join (List.cons_ne_nil _ _) h]
      simp only [isSome_headingRest?_iff]

/-! ### Pieces -/

/-- Is the text one line, without backticks? -/
def IsPlainLine (line : Text) : Prop := '`' ∉ line ∧ '\n' ∉ line

instance (line : Text) : Decidable (IsPlainLine line) := inferInstanceAs (Decidable (_ ∧ _))

/-- A piece of an introduction as it is written. -/
inductive Piece where
  /-- A line of prose. -/
  | prose (line : Text) (hplain : IsPlainLine line) (hprose : ¬IsHeading line)
  /-- A heading. -/
  | heading (line : Text) (hplain : IsPlainLine line) (hheading : IsHeading line)
  /-- A fenced block. What stands inside holds no fence, and does not run into the closing one. -/
  | fenced (inside : Text) (hfree : ¬fence <:+: inside) (hlast : inside.getLast? ≠ some '`')

namespace Piece

/-- The piece as it is written. -/
def text : Piece → Text
  | prose line _ _ => line
  | heading line _ _ => line
  | fenced inside _ _ => fence ++ (inside ++ fence)

/-- The line that is left of the piece when fenced blocks are taken out. -/
def outside : Piece → Text
  | prose line _ _ => line
  | heading line _ _ => line
  | fenced _ _ _ => []

/-- The words of the prose. -/
def words : Piece → List Text
  | prose line _ _ => Text.words line
  | heading _ _ _ => []
  | fenced _ _ _ => []

/-- What is left of a piece outside fenced blocks is one line. -/
theorem notMem_outside (piece : Piece) : '\n' ∉ piece.outside := by
  cases piece with
  | prose line hplain hprose => exact hplain.2
  | heading line hplain hheading => exact hplain.2
  | fenced inside hfree hlast => exact List.not_mem_nil

/-- What is left of the piece when headings are emptied has the words of the prose. -/
theorem words_outside (piece : Piece) :
    Text.words (if IsHeading piece.outside then [] else piece.outside) = piece.words := by
  cases piece with
  | prose line hplain hprose =>
      rw [outside, if_neg hprose]
      rfl
  | heading line hplain hheading =>
      rw [outside, if_pos hheading]
      rfl
  | fenced inside hfree hlast =>
      rw [outside, ite_self]
      rfl

end Piece

/-- An introduction as it is written: its pieces, with a line feed between each two. -/
def render (pieces : List Piece) : Text := Text.join ['\n'] (pieces.map (·.text))

/-- The number of words of the lines of prose, taken together. -/
def proseSize : List Piece → Nat
  | [] => 0
  | piece :: pieces => piece.words.length + proseSize pieces

/-! ### What is left -/

/-- A fenced block begins with a backtick. -/
theorem fencedBlock_cons_of_ne {before : Option Char} {c : Char} (hc : c ≠ '`') (t : Text) :
    fencedBlock before (c :: t) = none := by
  refine Option.eq_none_iff_forall_ne_some.mpr fun ⟨_, ahead⟩ hread => ?_
  simp only [fencedBlock, Option.bind_eq_bind, Option.bind_eq_some_iff] at hread
  obtain ⟨rest, hafter, -⟩ := hread
  exact hc (List.cons.inj (Text.after?_eq_some_iff.mp hafter)).1

/-- A fenced block is read up to the fence that was written for it, whatever follows. -/
theorem fencedBlock_fence {inside : Text} (hfree : ¬fence <:+: inside)
    (hlast : inside.getLast? ≠ some '`') (before : Option Char) (t : Text) :
    fencedBlock before (fence ++ (inside ++ fence) ++ t) = some ((), t) := by
  have hopen : Text.after? fence (fence ++ (inside ++ fence) ++ t) =
      some (inside ++ (fence ++ t)) := by
    rw [Text.after?_eq_some_iff, List.append_assoc, List.append_assoc]
  have hclose : Text.splitAt? fence (inside ++ (fence ++ t)) = some (inside, t) :=
    (Text.splitAt?_eq_some_iff (by decide)).mpr ⟨rfl, QueryBlock.not_fence_infix hfree hlast⟩
  rw [fencedBlock, hopen, Option.bind_eq_bind, Option.bind_some, hclose]
  rfl

/-- Text without backticks stays. -/
theorem without_append {s : Text} (hs : '`' ∉ s) (t : Text) :
    Text.without fencedBlock (s ++ t) = s ++ Text.without fencedBlock t :=
  Text.without_append (fun _ _ => rfl) (fun _ t hc => fencedBlock_cons_of_ne hc t) hs t

/-- A piece in front of a text leaves its line, or nothing if it is a fenced block. -/
theorem without_text_append (piece : Piece) (t : Text) :
    Text.without fencedBlock (piece.text ++ t) = piece.outside ++ Text.without fencedBlock t := by
  cases piece with
  | prose line hplain hprose => exact without_append hplain.1 t
  | heading line hplain hheading => exact without_append hplain.1 t
  | fenced inside hfree hlast =>
      exact Text.without_fragment_append (fun _ _ => rfl) (List.cons_ne_nil _ _)
        (fencedBlock_fence hfree hlast none t)

/-- Pieces with a line feed before each leave their lines. -/
theorem without_flatMap (pieces : List Piece) :
    Text.without fencedBlock (pieces.flatMap fun piece => '\n' :: piece.text) =
      pieces.flatMap fun piece => '\n' :: piece.outside := by
  induction pieces with
  | nil => rfl
  | cons piece pieces ih =>
      have hline : '`' ∉ ['\n'] := by decide
      rw [List.flatMap_cons, List.flatMap_cons, ← List.singleton_append, List.append_assoc,
        without_append hline, without_text_append, ih, List.singleton_append, List.cons_append]

/-- **What is left without fenced blocks** is a line for each piece. -/
theorem without_render (pieces : List Piece) :
    (render pieces).without fencedBlock = Text.join ['\n'] (pieces.map (·.outside)) := by
  cases pieces with
  | nil => rfl
  | cons piece pieces =>
      rw [render, List.map_cons, List.map_cons, Text.join_cons, Text.join_cons, List.flatMap_map,
        List.flatMap_map, without_text_append]
      exact congrArg _ (without_flatMap pieces)

/-- **The words that are left** are those of the prose. -/
theorem words_strip_render (pieces : List Piece) :
    Text.words (strip (render pieces)) = pieces.flatMap (·.words) := by
  have hlines : ∀ line ∈ pieces.map (·.outside), '\n' ∉ line := by
    intro line hline
    obtain ⟨piece, -, rfl⟩ := List.mem_map.mp hline
    exact piece.notMem_outside
  have hblank : ∀ c ∈ ['\n'], isSpace c = true := List.forall_mem_singleton.mpr (by decide)
  rw [strip, without_render, withoutHeadings_join hlines, List.map_map,
    Text.words_join (List.cons_ne_nil _ _) hblank, List.flatMap_map]
  simp only [Function.comp_apply, Piece.words_outside]

/-- **The size of what is left** is that of the prose. -/
theorem length_words_strip_render (pieces : List Piece) :
    (Text.words (strip (render pieces))).length = proseSize pieces := by
  rw [words_strip_render]
  induction pieces with
  | nil => rfl
  | cons piece pieces ih => rw [List.flatMap_cons, List.length_append, ih, proseSize]

end Prose

/-! ### Introductions -/

namespace Rule

/-- The text is the introduction of the page, and the tag ends it. -/
structure Introduction (page : Page) (tag : Tag) (intro : Text) : Prop where
  /-- The tag is one of the page. -/
  mem : tag ∈ page.tags
  /-- It is of a kind that ends introductions. -/
  ends : endsIntroduction tag.kind = true
  /-- The text stands at the start of the body. -/
  isPrefix : intro <+: page.body
  /-- The tag begins behind the text. -/
  start_eq : tag.start = page.bodyOffset + Text.utf8Size intro
  /-- No other such tag of the body begins before it. -/
  first : ∀ other ∈ page.tags, endsIntroduction other.kind = true → page.bodyOffset ≤ other.start →
    tag.start ≤ other.start

/-- **Where the introduction stands.** -/
theorem introduction?_eq_some_iff {page : Page} {intro : Text} :
    introduction? page = some intro ↔ ∃ tag, Introduction page tag intro := by
  obtain ⟨front, htext⟩ := page.exists_text_eq
  have hoffset := page.bodyOffset_eq htext
  have hslice {part rest : Text} (hbody : page.body = part ++ rest) :
      Text.slice? page.text page.bodyOffset (page.bodyOffset + Text.utf8Size part) = some part := by
    rw [htext, hbody, hoffset, Text.slice?_append]
  have hfind {tag : Tag} : (page.tags.find? fun t =>
        page.bodyOffset ≤ t.start && endsIntroduction t.kind) = some tag ↔
      tag ∈ page.tags ∧ (page.bodyOffset ≤ tag.start ∧ endsIntroduction tag.kind = true) ∧
        ∀ other ∈ page.tags, page.bodyOffset ≤ other.start ∧ endsIntroduction other.kind = true →
          tag.start ≤ other.start := by
    rw [Page.tags, Tag.find?_ofText_eq_some_iff]
    simp only [Bool.and_eq_true, decide_eq_true_eq]
  rw [introduction?, Option.map_eq_some_iff]
  refine exists_congr fun tag => ?_
  rw [hfind]
  constructor
  · rintro ⟨⟨hmem, ⟨hle, hends⟩, hfirst⟩, hintro⟩
    obtain ⟨before, ahead, hsplit, hsize⟩ := Tag.isBoundary_start hmem
    obtain ⟨part, rfl, hbody⟩ := Text.exists_of_boundaries (htext.symm.trans hsplit) (by omega)
    have hstart : tag.start = page.bodyOffset + Text.utf8Size part := by
      rw [← hsize, Text.utf8Size_append, hoffset]
    rw [hstart, hslice hbody, Option.getD_some] at hintro
    subst hintro
    exact ⟨hmem, hends, ⟨ahead, hbody.symm⟩, hstart,
      fun other hother hkind hstart => hfirst other hother ⟨hstart, hkind⟩⟩
  · rintro ⟨hmem, hends, ⟨rest, hrest⟩, hstart, hfirst⟩
    refine ⟨⟨hmem, ⟨by omega, hends⟩, fun other hother h => hfirst other hother h.2 h.1⟩, ?_⟩
    rw [hstart, hslice hrest.symm, Option.getD_some]

/-- What is said about an introduction with too few words. -/
def shortIntroduction (words : Nat) : Notice :=
  .warn "PAGE_INTRO" ("Only " ++ toString words ++
    " words of prose before the first visualization; add a narrative paragraph so readers have context before the charts")

variable {page : Page}

/-- Nothing that is said about the description is about the introduction. -/
theorem filter_descriptionLength :
    (descriptionLength page).filter (·.rule == "PAGE_INTRO") = [] := by
  rw [descriptionLength]
  split
  · rfl
  · simp only
    split
    · rfl
    · split <;> rfl

/-- Of what is said about the surroundings of charts, this is about the introduction. -/
theorem filter_surroundings (intro : Text) :
    (surroundings page (some intro)).filter (·.rule == "PAGE_INTRO") =
      if (Text.words (Prose.strip intro)).length < 30 then
        [shortIntroduction (Text.words (Prose.strip intro)).length]
      else [] := by
  have hlinks (b : Bool) (message : String) :
      (if b then [Notice.warn "PAGE_SEE_ALSO" message] else []).filter
        (·.rule == "PAGE_INTRO") = [] := by cases b <;> rfl
  have hfooter (b : Bool) (message : String) :
      (if b then [] else [Notice.warn "PAGE_FOOTER" message]).filter
        (·.rule == "PAGE_INTRO") = [] := by cases b <;> rfl
  rw [surroundings, List.filter_append, List.filter_append, hlinks, hfooter, List.append_nil,
    List.append_nil, Option.elim_some, introductionLength]
  split
  · rfl
  · rfl

/-- Of what is said about the structure of a page with an introduction, this is about it. -/
theorem filter_pageStructure {intro : Text} (hintro : introduction? page = some intro)
    (checker : Checker) : (pageStructure checker page).filter (·.rule == "PAGE_INTRO") =
      if page.queries ≠ [] ∧ page.hasTag (·.isVisualization) = true ∧
          (Text.words (Prose.strip intro)).length < 30 then
        [shortIntroduction (Text.words (Prose.strip intro)).length]
      else [] := by
  have hdata : hasData page = true ↔
      page.queries ≠ [] ∧ page.hasTag (·.isVisualization) = true := by
    rw [hasData, Bool.and_eq_true, Bool.not_eq_true', List.isEmpty_eq_false_iff]
  rw [pageStructure, List.filter_append, filter_descriptionLength, List.nil_append, hintro]
  by_cases hpage : page.queries ≠ [] ∧ page.hasTag (·.isVisualization) = true
  · rw [if_pos (hdata.mpr hpage), filter_surroundings]
    simp only [hpage, ne_eq, not_false_eq_true, true_and]
  · rw [if_neg (mt hdata.mp hpage), if_neg fun h => hpage ⟨h.1, h.2.1⟩, List.filter_nil]

end Rule

namespace Checker

/-- **Only prose counts as introduction.** Where the introduction of a page is written in lines of
prose, headings and fenced blocks, the number of words that is compared with the least one is that of
the lines of prose, taken together. So on a page with queries and visualizations the introduction is
reported if they are less than 30, with their number; on other pages it is not. -/
theorem introduction_exact (checker : Checker) {page : Page} {tag : Tag} {pieces : List Prose.Piece}
    (h : Rule.Introduction page tag (Prose.render pieces)) :
    let size := Prose.proseSize pieces
    (Rule.introduction? page).map (fun intro => (Text.words (Prose.strip intro)).length) = some size ∧
      (checker.findingsOf .pageStructure page).filter (·.rule == "PAGE_INTRO") =
        if page.queries ≠ [] ∧ page.hasTag (·.isVisualization) = true ∧ size < 30 then
          [(Rule.shortIntroduction size).inFile page.path]
        else [] := by
  intro size
  have hintro := Rule.introduction?_eq_some_iff.mpr ⟨tag, h⟩
  have hsize : (Text.words (Prose.strip (Prose.render pieces))).length = size :=
    Prose.length_words_strip_render pieces
  refine ⟨by rw [hintro, Option.map_some, hsize], ?_⟩
  have hfindings : (checker.findingsOf .pageStructure page).filter (·.rule == "PAGE_INTRO") =
      ((Rule.pageStructure checker page).filter (·.rule == "PAGE_INTRO")).map
        (·.inFile page.path) := by
    rw [findingsOf, List.filter_map]
    rfl
  rw [hfindings, Rule.filter_pageStructure hintro, hsize]
  split
  · rfl
  · rfl

/-- A page with front matter, a heading, a fenced block with a line that looks like a heading, and prose
that begins with a number sign or has more bytes than characters. -/
theorem introduction_exact_mixed :
    let page : Page := ⟨"p.md", ("---\ntitle: Trips\n---\n# Trips 2024\n" ++
      "```sql trips\n# all\nSELECT 1\n```\nFares café\n#1 of 3\n<LineChart data=\x7btrips\x7d/>\n").toList⟩
    ∃ tag pieces, Rule.Introduction page tag (Prose.render pieces) ∧
      Prose.proseSize pieces = 5 ∧
      (plain.findingsOf .pageStructure page).filter (·.rule == "PAGE_INTRO") =
        [(Rule.shortIntroduction 5).inFile "p.md"] := by
  intro page
  let pieces : List Prose.Piece := [
    .heading "# Trips 2024".toList (by decide) (by decide),
    .fenced "sql trips\n# all\nSELECT 1\n".toList (mt Text.occursIn_iff.mpr (by decide +kernel))
      (by decide),
    .prose "Fares café".toList (by decide) (by decide),
    .prose "#1 of 3".toList (by decide) (by decide),
    .prose [] (by decide) (by decide)]
  have hintro : Rule.introduction? page = some (Prose.render pieces) := by decide +kernel
  obtain ⟨tag, h⟩ := Rule.introduction?_eq_some_iff.mp hintro
  have hsize : Prose.proseSize pieces = 5 := by decide +kernel
  have hpage : page.queries ≠ [] ∧ page.hasTag (·.isVisualization) = true := by decide +kernel
  obtain ⟨-, hfindings⟩ := introduction_exact plain h
  rw [hsize, if_pos ⟨hpage.1, hpage.2, by decide⟩] at hfindings
  exact ⟨tag, pieces, h, hsize, hfindings⟩

end Checker

end PageLint
