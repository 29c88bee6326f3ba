import PageLint.Proofs.BuiltinCheckers
import PageLint.Proofs.NamePatterns
import PageLint.Proofs.Scanning

/-!
# References to tables

SQL reads a table where a keyword stands as the start of a word, with blanks and the name of the
table behind it (`Query.Reads`). A checker looks only for the tables that its rule tables name, so of
those it finds exactly the ones that are read.

## Main results

* `Text.any_eq_true_iff`: what it means that a reader succeeds somewhere in a text.
* `Query.readsTable_iff`: **the form of a reference to a table**.
* `Query.reads_iff_refersTo`: for a name that ends a word, that is a whole word behind a keyword.
* `Checker.queriesTable_exact`: **which tables SQL queries**, from the names in the rule tables alone.
-/

namespace PageLint

/-- The last character before a place, when the text that is already passed ends with another. -/
theorem Text.getLast?_cons_or (c : Char) (before : Text) (last : Option Char) :
    (c :: before).getLast?.or last = before.getLast?.or (some c) := by
  rw [List.getLast?_cons]
  cases before.getLast? <;> rfl

/-- A reader succeeds somewhere in a text when the text has a rest at whose head it succeeds. -/
theorem Text.anyFrom_eq_true_iff {α : Type} {read : Reader α} {last : Option Char} {t : Text} :
    anyFrom read last t = true ↔
      ∃ before rest, t = before ++ rest ∧
        (read (before.getLast?.or last) rest).isSome = true := by
  induction t generalizing last with
  | nil =>
      rw [anyFrom]
      constructor
      · intro h
        exact ⟨[], [], rfl, h⟩
      · rintro ⟨before, rest, ht, h⟩
        obtain ⟨rfl, rfl⟩ := List.append_eq_nil_iff.mp ht.symm
        exact h
  | cons c t ih =>
      rw [anyFrom, Bool.or_eq_true, ih]
      constructor
      · rintro (h | ⟨before, rest, rfl, h⟩)
        · exact ⟨[], c :: t, rfl, h⟩
        · exact ⟨c :: before, rest, rfl, by rwa [getLast?_cons_or]⟩
      · rintro ⟨before, rest, ht, h⟩
        cases before with
        | nil =>
            rw [List.nil_append] at ht
            exact Or.inl (ht ▸ h)
        | cons d before =>
            obtain ⟨rfl, rfl⟩ := List.cons.inj ht
            exact Or.inr ⟨before, rest, rfl, by rwa [getLast?_cons_or] at h⟩

/-- A reader succeeds somewhere in a text when it succeeds at the head of a rest of the text, behind
the last character of what stands before the rest. -/
theorem Text.any_eq_true_iff {α : Type} {read : Reader α} {t : Text} :
    t.any read = true ↔
      ∃ before rest, t = before ++ rest ∧ (read before.getLast? rest).isSome = true := by
  simp only [any, anyFrom_eq_true_iff, Option.or_none]

namespace Query

/-- Something holds behind blanks when it holds behind as many of them as there are, or behind some of
them. -/
theorem behindBlanks_iff {p : Text → Bool} {t : Text} :
    behindBlanks p t = true ↔
      ∃ blanks rest, t = blanks ++ rest ∧ blanks ≠ [] ∧ (∀ c ∈ blanks, isSpace c = true) ∧
        p rest = true := by
  induction t with
  | nil =>
      refine iff_of_false Bool.false_ne_true ?_
      rintro ⟨blanks, rest, ht, hne, -⟩
      exact hne (List.append_eq_nil_iff.mp ht.symm).1
  | cons c t ih =>
      rw [behindBlanks, Bool.and_eq_true, Bool.or_eq_true, ih]
      constructor
      · rintro ⟨hc, h | ⟨blanks, rest, rfl, -, hblanks, h⟩⟩
        · exact ⟨[c], t, rfl, List.cons_ne_nil c [], List.forall_mem_singleton.mpr hc, h⟩
        · exact ⟨c :: blanks, rest, rfl, List.cons_ne_nil c blanks,
            List.forall_mem_cons.mpr ⟨hc, hblanks⟩, h⟩
      · rintro ⟨blanks, rest, ht, hne, hblanks, h⟩
        cases blanks with
        | nil => exact absurd rfl hne
        | cons d blanks =>
            obtain ⟨rfl, rfl⟩ := List.cons.inj ht
            obtain ⟨hc, hrest⟩ := List.forall_mem_cons.mp hblanks
            refine ⟨hc, ?_⟩
            cases blanks with
            | nil => exact Or.inl h
            | cons d blanks =>
                exact Or.inr ⟨d :: blanks, rest, rfl, List.cons_ne_nil d blanks, hrest, h⟩

/-- The words behind which the name of a table stands. -/
def IsKeyword (word : Text) : Prop := word = "FROM".toList ∨ word = "JOIN".toList

/-- Does the SQL read the table? A keyword starts a word there, and behind it stand blanks and the name
of the table up to a word boundary. -/
def Reads (sql : Text) (table : String) : Prop :=
  ∃ before keyword blanks rest : Text,
    sql = before ++ (keyword ++ (blanks ++ (table.toList ++ rest))) ∧ IsKeyword keyword ∧
      before.getLast?.any isWordChar = false ∧ blanks ≠ [] ∧ (∀ c ∈ blanks, isSpace c = true) ∧
      Text.atWordBoundary table.toList.getLast? rest = true

/-- A keyword is taken off the head of a text. -/
theorem after_keyword_iff {t rest : Text} :
    (Text.after? "FROM".toList t).or (Text.after? "JOIN".toList t) = some rest ↔
      ∃ keyword, IsKeyword keyword ∧ t = keyword ++ rest := by
  rw [Option.or_eq_some_iff, Text.after?_eq_some_iff, Text.after?_eq_some_iff]
  constructor
  · rintro (h | ⟨-, h⟩)
    · exact ⟨_, Or.inl rfl, h⟩
    · exact ⟨_, Or.inr rfl, h⟩
  · rintro ⟨keyword, rfl | rfl, rfl⟩
    · exact Or.inl rfl
    · exact Or.inr ⟨by simp [Text.after?], rfl⟩

/-- The name of a table is taken off the head of a text. -/
theorem namesTable_iff {table : String} {t : Text} :
    namesTable table t = true ↔
      ∃ rest, t = table.toList ++ rest ∧
        Text.atWordBoundary table.toList.getLast? rest = true := by
  simp only [← Text.after?_eq_some_iff, namesTable]
  cases Text.after? table.toList t with
  | none => simp
  | some rest => simp

/-- What stands at the head of a text is a reference to a table when it has the form of one. -/
theorem tableReference_isSome_iff {table : String} {last : Option Char} {t : Text} :
    (tableReference table last t).isSome = true ↔
      last.any isWordChar = false ∧ ∃ keyword blanks rest : Text,
        t = keyword ++ (blanks ++ (table.toList ++ rest)) ∧ IsKeyword keyword ∧ blanks ≠ [] ∧
          (∀ c ∈ blanks, isSpace c = true) ∧
          Text.atWordBoundary table.toList.getLast? rest = true := by
  rw [tableReference]
  cases hlast : last.any isWordChar with
  | true => simp
  | false =>
      simp only [Bool.false_eq_true, if_false, true_and, Option.isSome_iff_exists]
      constructor
      · rintro ⟨value, hvalue⟩
        obtain ⟨s, hs, h⟩ := Option.bind_eq_some_iff.mp hvalue
        obtain ⟨keyword, hkeyword, rfl⟩ := after_keyword_iff.mp hs
        split at h
        · next hblanks =>
          obtain ⟨blanks, _, rfl, hne, hspace, hname⟩ := behindBlanks_iff.mp hblanks
          obtain ⟨rest, rfl, hboundary⟩ := namesTable_iff.mp hname
          exact ⟨keyword, blanks, rest, rfl, hkeyword, hne, hspace, hboundary⟩
        · cases h
      · rintro ⟨keyword, blanks, rest, rfl, hkeyword, hne, hspace, hboundary⟩
        refine ⟨((), blanks ++ (table.toList ++ rest)), Option.bind_eq_some_iff.mpr
          ⟨_, after_keyword_iff.mpr ⟨keyword, hkeyword, rfl⟩, if_pos ?_⟩⟩
        exact behindBlanks_iff.mpr
          ⟨blanks, _, rfl, hne, hspace, namesTable_iff.mpr ⟨rest, rfl, hboundary⟩⟩

/-- **The form of a reference to a table.** -/
theorem readsTable_iff {sql : Text} {table : String} :
    readsTable sql table = true ↔ Reads sql table := by
  rw [readsTable, Text.any_eq_true_iff, Reads]
  simp only [tableReference_isSome_iff]
  constructor
  · rintro ⟨before, _, rfl, hlast, keyword, blanks, rest, rfl, h⟩
    obtain ⟨hkeyword, hne, hspace, hboundary⟩ := h
    exact ⟨before, keyword, blanks, rest, rfl, hkeyword, hlast, hne, hspace, hboundary⟩
  · rintro ⟨before, keyword, blanks, rest, rfl, hkeyword, hlast, hne, hspace, hboundary⟩
    exact ⟨before, _, rfl, hlast, keyword, blanks, rest, rfl, hkeyword, hne, hspace, hboundary⟩

instance (sql : Text) (table : String) : Decidable (Reads sql table) :=
  decidable_of_iff (readsTable sql table = true) readsTable_iff

/-- Does a keyword stand in the SQL with no word character in front of it, and behind it blanks and the
name of the table, with no word character behind that? -/
def RefersTo (sql : Text) (table : String) : Prop :=
  ∃ before keyword blanks after : Text,
    sql = before ++ (keyword ++ (blanks ++ (table.toList ++ after))) ∧ IsKeyword keyword ∧
      (∀ c, before.getLast? = some c → isWordChar c = false) ∧ blanks ≠ [] ∧
      (∀ c ∈ blanks, isSpace c = true) ∧ ∀ c, after.head? = some c → isWordChar c = false

/-- A table whose name ends a word is read where SQL refers to it as a whole word. -/
theorem reads_iff_refersTo {sql : Text} {table : String}
    (hword : ∃ c, table.toList.getLast? = some c ∧ isWordChar c = true) :
    Reads sql table ↔ RefersTo sql table := by
  obtain ⟨last, hlast, hlast_word⟩ := hword
  have hbefore (before : Text) : before.getLast?.any isWordChar = false ↔
      ∀ c, before.getLast? = some c → isWordChar c = false := by
    cases before.getLast? <;> simp
  simp only [Reads, RefersTo, hlast, Text.atWordBoundary_iff hlast_word, hbefore]

end Query

/-- Is the table a primary table or the source of a gap? -/
def RuleTables.Watches (tables : RuleTables) (table : String) : Prop :=
  table ∈ tables.primaryTables ∨ ∃ gap ∈ tables.gaps, gap.source = table

namespace Checker

/-- A table is queried when it is watched and read. -/
theorem queriesTable_iff {checker : Checker} {sql : Text} {table : String} :
    checker.queriesTable sql table = true ↔
      table ∈ checker.watchedTables ∧ Query.Reads sql table := by
  rw [queriesTable, Bool.and_eq_true, List.contains_iff_mem, Query.readsTable_iff]

/-- Primary tables are watched. -/
theorem mem_watchedTables_of_mem_primaryTables {checker : Checker} {table : String}
    (h : table ∈ checker.tables.primaryTables) : table ∈ checker.watchedTables :=
  List.mem_append_left _ h

/-- A primary table is queried when one of them is read. -/
theorem queriesPrimary_iff {checker : Checker} {sql : Text} :
    checker.queriesPrimary sql = true ↔
      ∃ table ∈ checker.tables.primaryTables, Query.Reads sql table := by
  simp only [queriesPrimary, List.any_eq_true, queriesTable_iff]
  constructor
  · rintro ⟨table, htable, -, hreads⟩
    exact ⟨table, htable, hreads⟩
  · rintro ⟨table, htable, hreads⟩
    exact ⟨table, htable, mem_watchedTables_of_mem_primaryTables htable, hreads⟩

/-- The tables that a checker searches SQL for are those that its rule tables name. -/
theorem mem_watchedTables_iff {tables : RuleTables} {checker : Checker}
    (h : ofTables tables = .ok checker) {table : String} :
    table ∈ checker.watchedTables ↔ tables.Watches table := by
  obtain ⟨markers, rfl⟩ := exists_of_ofTables h
  rw [watchedTables, List.mem_append, List.mem_map, RuleTables.Watches]

/-- **Tables are matched as whole words.** A table that the rule tables name, with a name that ends with
a word character, is queried by SQL exactly when the SQL refers to it as a whole word. A table that they
do not name is not queried. How often and in which order they name the tables makes no difference. -/
theorem queriesTable_exact {tables : RuleTables} {checker : Checker}
    (h : ofTables tables = .ok checker) :
    (∀ (table : String) (sql : Text), tables.Watches table →
      (∃ c, table.toList.getLast? = some c ∧ isWordChar c = true) →
        (checker.queriesTable sql table = true ↔ Query.RefersTo sql table)) ∧
    (∀ (table : String) (sql : Text), ¬tables.Watches table →
      checker.queriesTable sql table = false) ∧
    ∀ (tables' : RuleTables) (checker' : Checker), ofTables tables' = .ok checker' →
      (∀ table, tables'.Watches table ↔ tables.Watches table) →
        checker'.queriesTable = checker.queriesTable := by
  refine ⟨?_, ?_, ?_⟩
  · intro table sql hwatches hword
    rw [queriesTable_iff, mem_watchedTables_iff h, and_iff_right hwatches,
      Query.reads_iff_refersTo hword]
  · intro table sql hnot
    rw [← Bool.not_eq_true, queriesTable_iff, mem_watchedTables_iff h]
    exact fun hqueried => hnot hqueried.1
  · intro tables' checker' h' hsame
    funext sql table
    rw [Bool.eq_iff_iff, queriesTable_iff, queriesTable_iff, mem_watchedTables_iff h,
      mem_watchedTables_iff h', hsame]

/-- A table that is named twice and the source of a gap with a point in its name: the first is not read
where a longer name stands, the second is read across a line end. -/
theorem queriesTable_exact_wholeWords :
    let tables (primary : List String) : RuleTables :=
      { RuleTables.unmarked with
        primaryTables := primary
        gaps := [⟨"fleet.v2", "Jan 2024", "Mar 2024", ""⟩] }
    let checker (primary : List String) : Checker := ofUnmarked (tables primary)
    let twice := ["trips", "trips"]
    let sql := "FROM trips_v1 JOIN\n  fleet.v2, FROM depots".toList
    ofTables (tables twice) = .ok (checker twice) ∧ (tables twice).Watches "trips" ∧
      (tables twice).Watches "fleet.v2" ∧ ¬(tables twice).Watches "depots" ∧
      (checker twice).queriesTable sql "trips" = false ∧ Query.RefersTo sql "fleet.v2" ∧
      (checker twice).queriesTable sql "depots" = false ∧
      (checker ["trips"]).queriesTable = (checker twice).queriesTable := by
  intro tables checker twice sql
  have htwice : ofTables (tables twice) = .ok (checker twice) :=
    ofTables_ofUnmarked
      (RuleTables.readsNames_ofText? (by decide +kernel) (by decide +kernel)) rfl
  have honce : ofTables (tables ["trips"]) = .ok (checker ["trips"]) :=
    ofTables_ofUnmarked
      (RuleTables.readsNames_ofText? (by decide +kernel) (by decide +kernel)) rfl
  have htrips : (tables twice).Watches "trips" := .inl List.mem_cons_self
  have hfleet : (tables twice).Watches "fleet.v2" := .inr ⟨_, List.mem_cons_self, rfl⟩
  have hdepots : ¬(tables twice).Watches "depots" := by
    simp [tables, twice, RuleTables.Watches]
  obtain ⟨hexact, hunwatched, hsame⟩ := queriesTable_exact htwice
  have hquery : (checker twice).queriesTable sql "fleet.v2" = true := by decide +kernel
  have hrefers : Query.RefersTo sql "fleet.v2" :=
    (hexact _ sql hfleet ⟨'2', rfl, by decide +kernel⟩).mp hquery
  refine ⟨htwice, htrips, hfleet, hdepots, by decide +kernel, hrefers, hunwatched _ sql hdepots,
    hsame _ _ honce fun table => ?_⟩
  simp [tables, twice, RuleTables.Watches]

end Checker

end PageLint
