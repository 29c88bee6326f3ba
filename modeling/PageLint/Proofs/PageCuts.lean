import Mathlib.Data.List.ReduceOption
import PageLint.PageRule
import PageLint.Proofs.AttributeBytes

/-!
# Cuts of a page

While a page is checked, its text is cut at positions in bytes: front matter and body, names and
values of attributes, the SQL before a cast, the text behind a tag and before a component, and the
parts of conditional views. Here the check of a page makes each of these cuts where the position is
computed, says its notices about what is cut out, and comes to nothing if a cut is out of range, ends
before it begins, or is inside a character (`Checker.checkPage?`). It never does.

Positions come from scans of the text, from sizes of its parts, or from walks over its bytes. A scan
finds what it finds between characters (`Hit.isBoundary_start`, `Hit.isBoundary_stop`), and where
positions of two scans are combined, the first is known not to be behind the second.

## Main results

* `FrontMatter.split?_eq`, `Page.bodyOffset?_eq`, `Tag.values?_eq`: the parts of a page that are cut
  out before its rules run.
* `Rule.textsBefore?_eq`, `Rule.lostChild?_eq`, `Rule.introductionCut?_eq`, `Rule.viewCut?_eq`: what
  rules cut out.
* `Checker.checkPage_total`: **the check of a page is total**: all cuts are made, and the findings are
  those of the check.
-/

namespace PageLint

variable {α : Type}

/-- All cuts of a list are made. -/
theorem mapM_eq_some_map {α β : Type} {f : α → Option β} {g : α → β} {l : List α}
    (h : ∀ a ∈ l, f a = some (g a)) : l.mapM f = some (l.map g) := by
  induction l with
  | nil => rfl
  | cons a l ih =>
      rw [List.mapM_cons, h a List.mem_cons_self, ih fun b hb => h b (List.mem_cons_of_mem a hb)]
      rfl

/-! ### Front matter, body and attributes -/

namespace FrontMatter

/-- The block at the start of a text, and the position behind its last fence. -/
def block? (t : Text) : Option (Text × Nat) := do
  let inside ← Text.after? ['-', '-', '-', '\n'] t
  let (block, rest) ← Text.splitAt? ['\n', '-', '-', '-'] inside
  return (block, 4 + Text.utf8Size block + 4 + if rest.head? = some '\n' then 1 else 0)

/-- The front matter of a text, and the rest of the text behind it. -/
def split? (t : Text) : Option (Option Text × Text) :=
  match block? t with
  | none => some (none, t)
  | some (block, stop) => (t.slice? stop (Text.utf8Size t)).map (some block, ·)

/-- A text has no front matter and is all body, or its body begins behind the last fence. -/
theorem split_cases (t : Text) : (block? t = none ∧ split t = (none, t)) ∨
    ∃ block front body, t = front ++ body ∧ block? t = some (block, Text.utf8Size front) ∧
      split t = (some block, body) := by
  rw [block?, split]
  cases hopen : Text.after? ['-', '-', '-', '\n'] t with
  | none => exact .inl ⟨rfl, rfl⟩
  | some inside =>
      obtain rfl := Text.after?_eq_some_iff.mp hopen
      simp only [Option.bind_eq_bind, Option.bind_some]
      cases hclose : Text.splitAt? ['\n', '-', '-', '-'] inside with
      | none => exact .inl ⟨rfl, rfl⟩
      | some parts =>
          obtain ⟨block, rest⟩ := parts
          obtain ⟨rfl, -⟩ := (Text.splitAt?_eq_some_iff (List.cons_ne_nil _ _)).mp hclose
          let front : Text := ['-', '-', '-', '\n'] ++ (block ++ ['\n', '-', '-', '-'])
          have hfront : Text.utf8Size front = 4 + Text.utf8Size block + 4 := by
            have hopening : Text.utf8Size ['-', '-', '-', '\n'] = 4 := by decide
            have hclosing : Text.utf8Size ['\n', '-', '-', '-'] = 4 := by decide
            rw [Text.utf8Size_append, Text.utf8Size_append, hopening, hclosing, Nat.add_assoc]
          simp only [Option.bind_some, ← hfront]
          cases rest with
          | nil => exact .inr ⟨block, front, [], by simp [front], rfl, rfl⟩
          | cons c body =>
              by_cases hc : c = '\n'
              · subst hc
                refine .inr ⟨block, front ++ ['\n'], body, by simp [front], ?_, rfl⟩
                rw [Text.utf8Size_concat]
                rfl
              · refine .inr ⟨block, front, c :: body, by simp [front], ?_, ?_⟩
                · simp [hc]
                · simp [hc]

/-- **The body is cut off** behind the front matter. -/
theorem split?_eq (t : Text) : split? t = some (split t) := by
  rw [split?]
  obtain ⟨hblock, hsplit⟩ | ⟨block, front, body, rfl, hblock, hsplit⟩ := split_cases t
  · rw [hblock, hsplit]
  · rw [hblock, hsplit]
    simp only [Text.slice?_behind, Option.map_some]

end FrontMatter

namespace Page

variable (page : Page)

/-- The position of the body, as a difference of sizes. -/
def bodyOffset? : Option Nat := Text.difference? (Text.utf8Size page.text) (Text.utf8Size page.body)

/-- The body is the end of the text. -/
theorem exists_text_eq : ∃ front, page.text = front ++ page.body := by
  rw [body]
  obtain ⟨-, hsplit⟩ | ⟨block, front, body, htext, -, hsplit⟩ := FrontMatter.split_cases page.text
  · exact ⟨[], by rw [hsplit, List.nil_append]⟩
  · exact ⟨front, by rw [hsplit, htext]⟩

/-- The position of the body is the size of what stands before it. -/
theorem bodyOffset_eq {front : Text} (h : page.text = front ++ page.body) :
    page.bodyOffset = Text.utf8Size front := by
  rw [bodyOffset, h, Text.utf8Size_append, Nat.add_sub_cancel]

/-- The position of the body is no negative difference, and it is the one that the rules add. -/
theorem bodyOffset?_eq : page.bodyOffset? = some page.bodyOffset := by
  obtain ⟨front, htext⟩ := page.exists_text_eq
  refine if_pos ?_
  rw [htext, Text.utf8Size_append]
  exact Nat.le_add_left _ _

/-- The body begins between two characters. -/
theorem isBoundary_bodyOffset : page.text.IsBoundary page.bodyOffset := by
  obtain ⟨front, htext⟩ := page.exists_text_eq
  rw [page.bodyOffset_eq htext, htext]
  exact Text.isBoundary_append _ _

end Page

/-- The attributes of a tag, each with its value as it is written and without its wrapping. -/
def Tag.values? (tag : Tag) : Option (List (Text × Text × Text)) := do
  let attributes ← Attributes.read? tag.raw
  attributes.pairs.mapM fun (name, value) => do
    return (name, value, ← Attributes.bareValue? value)

/-- The attributes of a tag are cut out of its text as they are read by characters. -/
theorem Tag.values?_eq (tag : Tag) : tag.values? = some (tag.attributes.pairs.map
    fun (name, value) => (name, value, Attributes.bareValue value)) := by
  rw [values?, Attributes.read?_eq]
  refine mapM_eq_some_map fun (name, value) _ => ?_
  simp only [Attributes.bareValue?_eq]
  rfl

/-! ### Readers of rules -/

/-- A cast of a column in quotes is never read from nothing. -/
theorem Query.quotedCast_consumes : Query.quotedCast.Consumes := by
  refine Reader.consumes_of_head fun before t value ahead h => ?_
  simp only [quotedCast, Option.bind_eq_bind, Option.bind_eq_some_iff, Prod.exists] at h
  obtain ⟨t₁, h₁, t₂, h₂, name, t₃, h₃, h⟩ := h
  refine ⟨_, t₁, by decide, h₁, ?_⟩
  split at h
  · cases h
  · obtain ⟨t₄, h₄, h⟩ := Option.bind_eq_some_iff.mp h
    obtain ⟨t₅, h₅, h⟩ := Option.bind_eq_some_iff.mp h
    obtain ⟨-, rfl⟩ := Prod.mk.inj (Option.some.inj h)
    have hname : t₃ <:+ t₁ := (Text.suffix_of_readUpTo? h₃).trans
      ((Text.suffix_of_after? h₂).trans (List.dropWhile_suffix isSpace))
    exact (Text.suffix_of_after? h₅).trans ((Text.suffix_of_afterBlanks? h₄).trans hname)

/-- A cast of a certain column is never read from nothing. -/
theorem Query.cappedCast_consumes (column : String) : (Query.cappedCast column).Consumes := by
  refine Reader.consumes_of_head fun before t value ahead h => ?_
  simp only [cappedCast, Option.bind_eq_bind, Option.bind_eq_some_iff] at h
  obtain ⟨t₁, h₁, t₂, h₂, h⟩ := h
  obtain ⟨-, rfl⟩ := Prod.mk.inj (Option.some.inj h)
  refine ⟨_, t₁, by decide, h₁, (Text.suffix_of_after? h₂).trans ?_⟩
  cases hname : t₁.readWord?.bind fun read => Text.after? ['.'] read.2 with
  | none => exact List.suffix_refl t₁
  | some t₃ =>
      obtain ⟨⟨word, t₄⟩, h₄, h₃⟩ := Option.bind_eq_some_iff.mp hname
      exact (Text.suffix_of_after? h₃).trans (Text.suffix_of_readWord? h₄)

/-- The condition of a view is never read from nothing. -/
theorem Rule.viewCondition_consumes : Rule.viewCondition.Consumes := by
  refine Reader.consumes_of_head fun before t value ahead h => ?_
  simp only [viewCondition, Option.bind_eq_bind, Option.bind_eq_some_iff, Prod.exists] at h
  obtain ⟨t₁, h₁, t₂, h₂, t₃, h₃, name, t₄, h₄, h⟩ := h
  have hsuffix : ahead <:+ t₁ := by
    split at h
    · cases h
    · exact (Text.suffix_of_readUpTo? h).trans (Text.suffix_of_afterBlanks? h₂)
  rcases Option.or_eq_some_iff.mp h₁ with hif | ⟨-, helse⟩
  · exact ⟨_, t₁, by decide, hif, hsuffix⟩
  · exact ⟨_, t₁, by decide, helse, hsuffix⟩

namespace Rule

/-! ### The SQL before a cast -/

/-- The texts of at least `n` bytes before the fragments of SQL, cut out at their positions. -/
def textsBefore? (read : Reader α) (n : Nat) (sql : Text) : Option (List Text) :=
  (sql.hits read).mapM fun h => Text.preceding? sql h.start n

/-- The texts before fragments are cut out as they are read by characters. -/
theorem textsBefore?_eq {read : Reader α} (hread : read.Consumes) (n : Nat) (sql : Text) :
    textsBefore? read n sql = some (textsBefore read n sql) := by
  refine mapM_eq_some_map fun h hmem => ?_
  obtain ⟨-, -, hsql⟩ := Text.read_of_mem_hits hread hmem
  rw [hsql]
  exact Text.preceding?_utf8Size h.behind _ n

/-- The rules for the SQL of a page, with what is cut out before its casts. -/
def querySafety? (checker : Checker) (page : Page) : Option (List Notice) :=
  if page.queries.isEmpty then some []
  else do
    let casts ← textsBefore? Query.quotedCast 4 page.sql
    let capped ← checker.tables.cappedColumns.mapM fun column => do
      return (column, ← textsBefore? (Query.cappedCast column) 7 page.sql)
    return queryNotices checker page.sql casts capped

/-- **The rules for SQL** cut out what stands before casts. -/
theorem querySafety?_eq (checker : Checker) (page : Page) :
    querySafety? checker page = some (querySafety checker page) := by
  have hcapped : ∀ column ∈ checker.tables.cappedColumns,
      (do return (column, ← textsBefore? (Query.cappedCast column) 7 page.sql)) =
        some (column, textsBefore (Query.cappedCast column) 7 page.sql) := fun column _ => by
    rw [textsBefore?_eq (Query.cappedCast_consumes column)]
    rfl
  rw [querySafety?, querySafety, textsBefore?_eq Query.quotedCast_consumes, mapM_eq_some_map hcapped]
  split
  · rfl
  · rfl

/-! ### Behind a tag -/

/-- The text behind the first `<`, cut out at its position. -/
def behindOpening? (t : Text) : Option Text :=
  match Text.positionOf? '<' t with
  | none => some []
  | some place => t.slice? (place + 1) (Text.utf8Size t)

/-- What stands behind the first `<` is cut out. -/
theorem behindOpening?_eq (t : Text) : behindOpening? t = some (behindOpening t) := by
  rw [behindOpening?, behindOpening, Text.positionOf?]
  cases hdrop : t.dropWhile (· != '<') with
  | nil =>
      have hnone : '<' ∉ t := fun hmem => by
        simpa using List.dropWhile_eq_nil_iff.mp hdrop '<' hmem
      rw [if_neg (by simpa using hnone)]
      rfl
  | cons c rest =>
      have hhead : (t.dropWhile (· != '<')).head? = some c := by rw [hdrop, List.head?_cons]
      obtain rfl : c = '<' := by simpa using Text.not_of_head?_dropWhile hhead
      let before : Text := t.takeWhile (· != '<')
      have ht : (before ++ ['<']) ++ rest = t := by
        rw [List.append_assoc, List.singleton_append, ← hdrop, List.takeWhile_append_dropWhile]
      have hmem : '<' ∈ t := ht ▸ by simp
      have hsize : Text.utf8Size before + 1 = Text.utf8Size (before ++ ['<']) := by
        rw [Text.utf8Size_concat, Utf8.utf8Size_of_ascii (by decide)]
      have hslice := Text.slice?_behind (before ++ ['<']) rest
      rw [ht] at hslice
      rw [if_pos (List.contains_iff_mem.mpr hmem)]
      simp only [before] at hsize hslice
      simp only [hsize, hslice, List.drop_succ_cons, List.drop_zero]

/-- The notice about the child that a tag loses, with what is cut out behind the tag. -/
def lostChild? (page : Page) (tag : Tag) : Option (Option Notice) := do
  let rest ← page.text.slice? tag.stop (Text.utf8Size page.text)
  if startsWithBlankLine rest then return none
  else return (childAt? (← behindOpening? rest)).map lostChild

/-- The rule about nesting, with what is cut out behind tags. -/
def lostChildren? (page : Page) : Option (List Notice) := do
  return (← (closedParents page).mapM (lostChild? page)).reduceOption

/-- What stands behind a tag of the page is cut out for the search for a child. -/
theorem lostChild?_eq {page : Page} {tag : Tag} (hmem : tag ∈ page.tags) :
    lostChild? page tag = some (
      if startsWithBlankLine (textBehind page tag) then none
      else (childAt? (behindOpening (textBehind page tag))).map lostChild) := by
  have hstop := Tag.isBoundary_stop hmem
  have hslice : page.text.slice? tag.stop (Text.utf8Size page.text) = some (textBehind page tag) :=
    Text.slice?_eq_getD hstop.le_utf8Size hstop (Text.isBoundary_utf8Size _)
  rw [lostChild?, hslice, Option.bind_eq_bind, Option.bind_some, behindOpening?_eq]
  split
  · rfl
  · rfl

/-- **The rule about nesting** cuts out what stands behind tags. -/
theorem lostChildren?_eq (checker : Checker) (page : Page) :
    lostChildren? page = some (lostChildren checker page) := by
  have hcuts := mapM_eq_some_map (l := closedParents page) fun tag htag =>
    lostChild?_eq (List.mem_of_mem_filter htag)
  rw [lostChildren?, hcuts]
  simp [lostChildren, List.reduceOption, List.filterMap_map]

/-! ### Before a component -/

/-- The text between the front matter and the first component that ends the introduction, cut out at
the positions of both. -/
def introductionCut? (page : Page) : Option (Option Text) := do
  let start ← page.bodyOffset?
  match page.tags.find? fun t => start ≤ t.start && endsIntroduction t.kind with
  | none => return none
  | some first => return some (← page.text.slice? start first.start)

/-- The introduction is cut out. -/
theorem introductionCut?_eq (page : Page) : introductionCut? page = some (introduction? page) := by
  rw [introductionCut?, page.bodyOffset?_eq, introduction?, Option.bind_eq_bind, Option.bind_some]
  cases hfirst : page.tags.find? fun t => page.bodyOffset ≤ t.start && endsIntroduction t.kind with
  | none => rfl
  | some first =>
      have hsome := List.find?_some hfirst
      simp only [Bool.and_eq_true, decide_eq_true_eq] at hsome
      have hslice := Text.slice?_eq_getD hsome.1 page.isBoundary_bodyOffset
        (Tag.isBoundary_start (List.mem_of_find?_eq_some hfirst))
      simp only [Option.map_some]
      rw [hslice]
      rfl

/-- The rule about what is around charts, with the introduction that is cut out. -/
def pageStructure? (page : Page) : Option (List Notice) :=
  if hasData page then do
    return descriptionLength page ++ surroundings page (← introductionCut? page)
  else some (descriptionLength page)

/-- **The rule about what is around charts** cuts out the introduction. -/
theorem pageStructure?_eq (checker : Checker) (page : Page) :
    pageStructure? page = some (pageStructure checker page) := by
  rw [pageStructure?, pageStructure, introductionCut?_eq]
  split
  · rfl
  · rw [List.append_nil]

/-! ### Conditional views -/

/-- The notice about one view, with what is cut out behind its condition, before its first component,
and before the view. -/
def viewCut? (page : Page) (h : Hit Text) : Option (Option Notice) :=
  if isFormSwitch (Text.trim h.value) then some none
  else do
    let size := Text.utf8Size page.text
    let behind ← page.text.slice? h.stop size
    match firstDisplay? page h.stop (viewEnd h.stop behind size) with
    | none => return none
    | some first =>
      let opening ← page.text.slice? h.stop first.start
      let before ← page.text.slice? 0 h.start
      return shortOpening? before opening

/-- The parts of a view are cut out, if its condition is one of the page. -/
theorem viewCut?_eq {page : Page} {h : Hit Text} (hmem : h ∈ page.text.hits viewCondition) :
    viewCut? page h = some (viewNotice? page h) := by
  have hstart := Hit.isBoundary_start viewCondition_consumes hmem
  have hstop := Hit.isBoundary_stop viewCondition_consumes hmem
  let size := Text.utf8Size page.text
  obtain ⟨behind, hbehind⟩ : ∃ behind, page.text.slice? h.stop size = some behind :=
    ⟨_, Text.slice?_eq_getD hstop.le_utf8Size hstop (Text.isBoundary_utf8Size _)⟩
  have hbefore := Text.slice?_eq_getD (Nat.zero_le _) (Text.isBoundary_zero _) hstart
  simp only [viewCut?, viewNotice?, hbehind, size, Option.bind_eq_bind, Option.bind_some,
    Option.getD_some]
  split
  · rfl
  · cases hfirst : firstDisplay? page h.stop (viewEnd h.stop behind size) with
    | none => rfl
    | some first =>
        have hsome := List.find?_some hfirst
        simp only [Bool.and_eq_true, decide_eq_true_eq] at hsome
        have hopening := Text.slice?_eq_getD hsome.1.2 hstop
          (Tag.isBoundary_start (List.mem_of_find?_eq_some hfirst))
        simp only [Option.bind_some]
        rw [hopening, hbefore]
        rfl

/-- The rule about conditional views, with what is cut out for each. -/
def conditionalViews? (page : Page) : Option (List Notice) := do
  return (← (page.text.hits viewCondition).mapM (viewCut? page)).reduceOption

/-- **The rule about conditional views** cuts out the parts of each view. -/
theorem conditionalViews?_eq (checker : Checker) (page : Page) :
    conditionalViews? page = some (conditionalViews checker page) := by
  rw [conditionalViews?, mapM_eq_some_map fun h hmem => viewCut?_eq hmem]
  simp [conditionalViews, List.reduceOption, List.filterMap_map]

end Rule

/-! ### The check of a page -/

/-- What a rule says about a page, with what it cuts out. -/
def PageRule.run? (checker : Checker) (page : Page) : PageRule → Option (List Notice)
  | querySafety => Rule.querySafety? checker page
  | lostChildren => Rule.lostChildren? page
  | pageStructure => Rule.pageStructure? page
  | conditionalViews => Rule.conditionalViews? page
  | rule => some (rule.run checker page)

/-- Every rule makes its cuts, and it says what it says without them. -/
theorem PageRule.run?_eq (checker : Checker) (page : Page) (rule : PageRule) :
    rule.run? checker page = some (rule.run checker page) := by
  cases rule with
  | querySafety => exact Rule.querySafety?_eq checker page
  | lostChildren => exact Rule.lostChildren?_eq checker page
  | pageStructure => exact Rule.pageStructure?_eq checker page
  | conditionalViews => exact Rule.conditionalViews?_eq checker page
  | _ => rfl

/-- What is cut out of a page before its rules run: the front matter, the body, and the attributes of
each tag. -/
def Page.parts? (page : Page) : Option (Option Text × Text × List (List (Text × Text × Text))) := do
  let (frontMatter, body) ← FrontMatter.split? page.text
  return (frontMatter, body, ← page.tags.mapM Tag.values?)

/-- The parts of a page are cut out before the rules run. -/
theorem Page.parts?_eq (page : Page) : page.parts? = some (page.frontMatter, page.body,
    page.tags.map fun tag => tag.attributes.pairs.map
      fun (name, value) => (name, value, Attributes.bareValue value)) := by
  rw [parts?, FrontMatter.split?_eq, mapM_eq_some_map fun tag _ => tag.values?_eq]
  rfl

/-- The findings about a page that was read from a file, with all that is cut out of its text. -/
def Checker.checkPage? (checker : Checker) (path : String) (text : Text) :
    Option (List Finding) := do
  let page : Page := ⟨path, Page.normalizeNewlines text⟩
  let _ ← page.parts?
  let notices ← PageRule.all.mapM (·.run? checker page)
  return notices.flatten.map (·.inFile path)

/-- **The check of a page makes all its cuts**, and its findings are those of the rules on characters. -/
theorem Checker.checkPage?_eq (checker : Checker) (path : String) (text : Text) :
    checker.checkPage? path text = some (checker.checkPage path text) := by
  rw [checkPage?, Page.parts?_eq, mapM_eq_some_map fun rule _ => rule.run?_eq checker _]
  simp only [Option.bind_eq_bind, Option.bind_some, checkPage, findings, List.map_flatten,
    List.map_map]
  rfl

/-- **The check of a page is total.** A text is cut at two positions exactly if each is between two of
its characters and they are in their order. All cuts of a page are of this kind, whatever the tables,
the path and the text: they give the front matter, the body and the attributes that the rules read,
and with what the rules cut out of the text, the check gives its findings. -/
theorem Checker.checkPage_total :
    (∀ (t : Text) (start stop : Nat), (t.slice? start stop).isSome = true ↔
      start ≤ stop ∧ t.IsBoundary start ∧ t.IsBoundary stop) ∧
    (∀ page : Page, page.parts? = some (page.frontMatter, page.body,
      page.tags.map fun tag => tag.attributes.pairs.map
        fun (name, value) => (name, value, Attributes.bareValue value))) ∧
    ∀ (checker : Checker) (path : String) (text : Text),
      checker.checkPage? path text = some (checker.checkPage path text) :=
  ⟨fun _ _ _ => Text.isSome_slice?_iff, Page.parts?_eq, Checker.checkPage?_eq⟩

end PageLint
