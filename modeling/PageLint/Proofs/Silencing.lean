import Mathlib.Data.List.Basic
import PageLint.Lint
import PageLint.Proofs.BuiltinCheckers

/-!
# Silencing by known issues

What known issues do to the findings about data. Each finding is traced back to what it is about
(`DataCheck.Origin`): the value of a row, with the cells of the row that name its date and its
entity, the sum over a period, or anything else. An issue names an origin when its file and its
column are those of the check, and its date and its entity are those of the origin or the wildcard
(`KnownIssue.Names`).

The index of known issues is opened once: a look-up in it is the first issue with the key
(`KnownIssues.getElem?_indexOf`), so the four look-ups for a cell together are a match with the
wildcard (`KnownIssues.covers_ofList_iff`), whatever stands in the cells.

## Main results

* `KnownIssues.covers_ofList_iff`: a cell is covered exactly when an issue matches it.
* `Checker.map_traced`: the traced findings are the findings about data.
* `Checker.checkData_accepting`: **more known issues take exactly the findings away that they
  name**, and keep the order of the others and the number of files.
-/

namespace PageLint

/-! ### Matching -/

/-- Does the issue match a cell? A date or an entity of the issue that is the wildcard matches
all. -/
def KnownIssue.Covers (k : KnownIssue) (file date entity column : String) : Prop :=
  k.file = file ∧ k.column = column ∧ (k.date = date ∨ k.date = KnownIssue.wildcard) ∧
    (k.entity = entity ∨ k.entity = KnownIssue.wildcard)

instance (k : KnownIssue) (file date entity column : String) :
    Decidable (k.Covers file date entity column) :=
  inferInstanceAs (Decidable (_ ∧ _))

namespace KnownIssues

/-- The index holds the first issue for each key. The fold may start from any index, whose entries
stay. -/
theorem getElem?_foldl_insertIfNew (issues : List KnownIssue) (key : KnownIssue.Key)
    (index : Std.HashMap KnownIssue.Key KnownIssue) :
    (issues.foldl (fun index i => index.insertIfNew i.key i) index)[key]? =
      index[key]?.or (issues.find? (·.key == key)) := by
  induction issues generalizing index with
  | nil => simp
  | cons i issues ih =>
      rw [List.foldl_cons, ih, Std.HashMap.getElem?_insertIfNew, List.find?_cons]
      by_cases hkey : i.key = key
      · subst hkey
        by_cases hmem : i.key ∈ index
        · simp [hmem]
        · simp [hmem]
      · simp [beq_eq_false_iff_ne.mpr hkey]

/-- A look-up in the index is a search from the front. -/
theorem getElem?_indexOf (issues : List KnownIssue) (key : KnownIssue.Key) :
    (indexOf issues)[key]? = issues.find? (·.key == key) := by
  rw [indexOf, getElem?_foldl_insertIfNew]
  simp

/-- The key of an issue is one of those under which a cell is looked up exactly when the issue
matches the cell. -/
theorem key_mem_keys_iff {k : KnownIssue} {file date entity column : String} :
    k.key ∈ keys file date entity column ↔ k.Covers file date entity column := by
  simp only [keys, KnownIssue.key, KnownIssue.Covers, List.mem_cons, List.not_mem_nil, or_false,
    Prod.mk.injEq]
  constructor
  · rintro (⟨hf, hd, he, hc⟩ | ⟨hf, hd, he, hc⟩ | ⟨hf, hd, he, hc⟩ | ⟨hf, hd, he, hc⟩)
    · exact ⟨hf, hc, Or.inl hd, Or.inl he⟩
    · exact ⟨hf, hc, Or.inl hd, Or.inr he⟩
    · exact ⟨hf, hc, Or.inr hd, Or.inl he⟩
    · exact ⟨hf, hc, Or.inr hd, Or.inr he⟩
  · rintro ⟨hf, hc, hd | hd, he | he⟩
    · exact Or.inl ⟨hf, hd, he, hc⟩
    · exact Or.inr (Or.inl ⟨hf, hd, he, hc⟩)
    · exact Or.inr (Or.inr (Or.inl ⟨hf, hd, he, hc⟩))
    · exact Or.inr (Or.inr (Or.inr ⟨hf, hd, he, hc⟩))

/-- A cell is covered exactly when one of the issues matches it. -/
theorem covers_ofList_iff {issues : List KnownIssue} {file date entity column : String} :
    (ofList issues).covers file date entity column = true ↔
      ∃ k ∈ issues, k.Covers file date entity column := by
  simp only [covers, find?, ofList, List.isSome_findSome?, List.any_eq_true, getElem?_indexOf,
    List.find?_isSome, beq_iff_eq]
  constructor
  · rintro ⟨key, hkey, k, hk, rfl⟩
    exact ⟨k, hk, key_mem_keys_iff.mp hkey⟩
  · rintro ⟨k, hk, hcovers⟩
    exact ⟨k.key, key_mem_keys_iff.mpr hcovers, k, hk, rfl⟩

/-- Coverage by a list of issues is a search for one that matches. -/
theorem covers_ofList (issues : List KnownIssue) (file date entity column : String) :
    (ofList issues).covers file date entity column =
      issues.any fun k => decide (k.Covers file date entity column) := by
  rw [Bool.eq_iff_iff, covers_ofList_iff, List.any_eq_true]
  simp only [decide_eq_true_eq]

/-- Further issues cover what they match. -/
theorem covers_ofList_append (issues more : List KnownIssue) (file date entity column : String) :
    (ofList (issues ++ more)).covers file date entity column =
      ((ofList issues).covers file date entity column ||
        more.any fun k => decide (k.Covers file date entity column)) := by
  rw [covers_ofList, covers_ofList, List.any_append]

end KnownIssues

/-! ### Tracing findings -/

namespace DataCheck

/-- What a finding about data is about. -/
inductive Origin where
  /-- The value of a row that is beyond a bound; `date` and `entity` are cells of the row. -/
  | value (check : RangeCheck) (date entity : String)
  /-- A sum that is too small. -/
  | total (check : AggregateCheck)
  /-- Anything else. -/
  | other

end DataCheck

open DataCheck

/-- Does the issue **name** what a finding is about? The value of a row is named by an issue for
its file and column with its date and its entity; a sum by an issue for its file and column with
its period and all entities. The wildcard stands for all dates and all entities. -/
def KnownIssue.Names (k : KnownIssue) : Origin → Prop
  | .value r date entity =>
    k.file = r.file ∧ k.column = r.column ∧ (k.date = date ∨ k.date = KnownIssue.wildcard) ∧
      (k.entity = entity ∨ k.entity = KnownIssue.wildcard)
  | .total a =>
    k.file = a.file ∧ k.column = a.column ∧ (k.date = a.period ∨ k.date = KnownIssue.wildcard) ∧
      k.entity = KnownIssue.wildcard
  | .other => False

instance (k : KnownIssue) : DecidablePred k.Names
  | .value _ _ _ => inferInstanceAs (Decidable (_ ∧ _))
  | .total _ => inferInstanceAs (Decidable (_ ∧ _))
  | .other => inferInstanceAs (Decidable False)

namespace DataCheck

/-- A finding about data with what it is about. -/
abbrev Traced := Origin × Finding

/-- Does one of the issues name what a finding is about? -/
def isNamed (issues : List KnownIssue) (o : Origin) : Bool := issues.any fun k => decide (k.Names o)

/-- The findings that none of the issues name, in their order. -/
def unnamed (issues : List KnownIssue) (fs : List Traced) : List Traced :=
  fs.filter fun f => !isNamed issues f.1

/-- What no issue names of two lists is what none names of each. -/
theorem unnamed_append (issues : List KnownIssue) (fs gs : List Traced) :
    unnamed issues (fs ++ gs) = unnamed issues fs ++ unnamed issues gs :=
  List.filter_append fs gs

/-- What no issue names of many lists is what none names of each. -/
theorem unnamed_flatMap {α : Type} (issues : List KnownIssue) (l : List α) (f : α → List Traced) :
    unnamed issues (l.flatMap f) = l.flatMap fun a => unnamed issues (f a) :=
  List.filter_flatMap

variable (known : KnownIssues) (d : DataTables) (set : DataSet)

/-- What a finding about the value of a row is about. -/
def rowOrigin (r : RangeCheck) (spec : EntityTable) (t : Table) (row : Row) : Origin :=
  .value r (row.cell (spec.periodColumn.bind t.column?)) (row.cell (t.column? spec.entityColumn))

/-- The findings about one bound, traced to the cells of their rows. -/
def tracedRange (r : RangeCheck) : List Traced :=
  match set.table? r.file, d.entityTable? r.file with
  | some t, some spec => t.rows.filterMap fun row =>
    (rowNotice? known r spec t row).map fun notice =>
      (rowOrigin r spec t row, set.report r.file notice)
  | _, _ => []

/-- The finding about one sum, traced to it. -/
def tracedAggregate (a : AggregateCheck) : List Traced :=
  (aggregateFindings known d set a).map (.total a, ·)

/-- Findings that no issue can name. -/
def untraced (fs : List Finding) : List Traced := fs.map (.other, ·)

/-- Findings that are traced to nothing are the findings themselves. -/
theorem map_untraced (fs : List Finding) : (untraced fs).map (·.2) = fs := by
  rw [untraced, List.map_map]
  exact List.map_id fs

/-- No issue names a finding that is traced to nothing. -/
theorem unnamed_untraced (issues : List KnownIssue) (fs : List Finding) :
    unnamed issues (untraced fs) = untraced fs := by
  have hother : isNamed issues .other = false := by
    simp only [isNamed, List.any_eq_false, decide_eq_true_eq]
    exact fun k _ => id
  refine List.filter_eq_self.mpr ?_
  intro f hf
  obtain ⟨g, -, rfl⟩ := List.mem_map.mp hf
  simp only [hother, Bool.not_false]

/-- Tracing does not change the findings about a bound. -/
theorem map_tracedRange (r : RangeCheck) :
    (tracedRange known d set r).map (·.2) = rangeFindings known d set r := by
  rw [tracedRange, rangeFindings]
  cases set.table? r.file with
  | none => rfl
  | some t =>
      cases d.entityTable? r.file with
      | none => rfl
      | some spec =>
          simp only [List.map_filterMap, Option.map_map]
          rfl

/-- Tracing does not change the finding about a sum. -/
theorem map_tracedAggregate (a : AggregateCheck) :
    (tracedAggregate known d set a).map (·.2) = aggregateFindings known d set a := by
  rw [tracedAggregate, List.map_map]
  exact List.map_id _

/-! ### One check with more issues -/

variable (issues more : List KnownIssue)

/-- With more issues a row is judged as before, unless one of them names it. -/
theorem rowNotice?_append (r : RangeCheck) (spec : EntityTable) (t : Table) (row : Row) :
    rowNotice? (KnownIssues.ofList (issues ++ more)) r spec t row =
      if isNamed more (rowOrigin r spec t row) then none
      else rowNotice? (KnownIssues.ofList issues) r spec t row := by
  have hnamed : (more.any fun k => decide (k.Covers r.file
      (row.cell (spec.periodColumn.bind t.column?)) (row.cell (t.column? spec.entityColumn))
      r.column)) = isNamed more (rowOrigin r spec t row) := rfl
  rw [rowNotice?, rowNotice?]
  cases cellNumber? (row.cell (t.column? r.column)) with
  | none => simp
  | some value =>
      simp only [Option.bind_eq_bind, Option.bind_some, KnownIssues.covers_ofList_append, hnamed]
      cases isNamed more (rowOrigin r spec t row) with
      | false => simp
      | true => simp

/-- With more issues, the findings about a bound are those that the new issues do not name. -/
theorem tracedRange_append (r : RangeCheck) :
    tracedRange (KnownIssues.ofList (issues ++ more)) d set r =
      unnamed more (tracedRange (KnownIssues.ofList issues) d set r) := by
  rw [tracedRange, tracedRange]
  cases set.table? r.file with
  | none => rfl
  | some t =>
      cases d.entityTable? r.file with
      | none => rfl
      | some spec =>
          simp only [unnamed, List.filter_filterMap]
          refine congrArg (List.filterMap · t.rows) (funext fun row => ?_)
          rw [rowNotice?_append]
          cases rowNotice? (KnownIssues.ofList issues) r spec t row with
          | none => simp
          | some notice =>
              rw [Option.map_some, Option.filter_some]
              cases isNamed more (rowOrigin r spec t row) with
              | false => simp
              | true => simp

/-- With more issues a sum is judged as before, unless one of them names it. -/
theorem sumNotice?_append (a : AggregateCheck) (t : Table) (rows : List Row) :
    sumNotice? (KnownIssues.ofList (issues ++ more)) a t rows =
      if isNamed more (.total a) then none
      else sumNotice? (KnownIssues.ofList issues) a t rows := by
  have hnamed : (more.any fun k => decide (k.Covers a.file a.period KnownIssue.wildcard a.column)) =
      isNamed more (.total a) := by
    rw [Bool.eq_iff_iff, isNamed, List.any_eq_true, List.any_eq_true]
    constructor
    · rintro ⟨k, hk, h⟩
      obtain ⟨hfile, hcolumn, hdate, hentity⟩ := of_decide_eq_true h
      exact ⟨k, hk, decide_eq_true ⟨hfile, hcolumn, hdate, or_self_iff.mp hentity⟩⟩
    · rintro ⟨k, hk, h⟩
      obtain ⟨hfile, hcolumn, hdate, hentity⟩ := of_decide_eq_true h
      exact ⟨k, hk, decide_eq_true ⟨hfile, hcolumn, hdate, Or.inl hentity⟩⟩
  simp only [sumNotice?, KnownIssues.covers_ofList_append, hnamed]
  cases isNamed more (.total a) with
  | false => simp
  | true => simp

/-- With more issues, the finding about a sum is there unless the new issues name it. -/
theorem tracedAggregate_append (a : AggregateCheck) :
    tracedAggregate (KnownIssues.ofList (issues ++ more)) d set a =
      unnamed more (tracedAggregate (KnownIssues.ofList issues) d set a) := by
  rw [tracedAggregate, tracedAggregate, aggregateFindings, aggregateFindings]
  cases set.table? a.file with
  | none => rfl
  | some t =>
      simp only
      cases periodColumn? d a t with
      | none => rfl
      | some column =>
          simp only [sumNotice?_append, unnamed, List.filter_map, Function.comp_def]
          cases isNamed more (.total a) with
          | false => simp
          | true => simp

end DataCheck

/-! ### The whole check -/

namespace Checker

variable (checker : Checker)

/-- The findings about a data set, each with what it is about. -/
def traced (set : DataSet) : List Traced :=
  let d := checker.tables.data
  untraced (set.unreadable ++ layout d set ++ entities set checker.tables) ++
    d.ranges.flatMap (tracedRange checker.known d set) ++
    d.aggregates.flatMap (tracedAggregate checker.known d set) ++
    untraced (d.references.flatMap (reference set) ++ periods d set)

/-- The traced findings are the findings about data. -/
theorem map_traced (set : DataSet) : (checker.traced set).map (·.2) = checker.dataFindings set := by
  simp only [traced, List.map_append, map_untraced, List.map_flatMap, map_tracedRange,
    map_tracedAggregate, dataFindings, ranges, aggregates, List.append_assoc]

end Checker

/-- The tables with more known issues behind those that are there. -/
def RuleTables.accepting (tables : RuleTables) (more : List KnownIssue) : RuleTables :=
  { tables with knownIssues := tables.knownIssues ++ more }

namespace Checker

/-- The known issues of a checker are those of its tables. -/
theorem eq_of_ofTables {tables : RuleTables} {checker : Checker}
    (h : ofTables tables = .ok checker) :
    checker.tables = tables ∧ checker.known = KnownIssues.ofList tables.knownIssues := by
  obtain ⟨markers, rfl⟩ := exists_of_ofTables h
  exact ⟨rfl, rfl⟩

/-- Tables that make a checker still make one with more known issues. -/
theorem ofTables_accepting {tables : RuleTables} {checker : Checker} (more : List KnownIssue)
    (h : ofTables tables = .ok checker) :
    ofTables (tables.accepting more) = .ok { checker with
      tables := tables.accepting more
      known := KnownIssues.ofList (tables.knownIssues ++ more) } := by
  simp only [ofTables, ofTablesWith, bind, Except.bind] at h ⊢
  split at h
  · cases h
  · next markers hmarkers =>
    obtain rfl := Except.ok.inj h
    have hcompile : (tables.accepting more).compile Pattern.ofText? =
        tables.compile Pattern.ofText? := rfl
    rw [hcompile, hmarkers]
    rfl

/-- With more known issues, the traced findings are those that the new issues do not name. -/
theorem traced_accepting {tables : RuleTables} {checker checker' : Checker}
    {more : List KnownIssue} (h : ofTables tables = .ok checker)
    (h' : ofTables (tables.accepting more) = .ok checker') (set : DataSet) :
    checker'.traced set = unnamed more (checker.traced set) := by
  obtain ⟨htables, hknown⟩ := eq_of_ofTables h
  obtain ⟨htables', hknown'⟩ := eq_of_ofTables h'
  have hranges := funext (tracedRange_append tables.data set tables.knownIssues more)
  have haggregates := funext (tracedAggregate_append tables.data set tables.knownIssues more)
  simp only [traced, htables, hknown, htables', hknown', RuleTables.accepting, unnamed_append,
    unnamed_untraced, unnamed_flatMap, hranges, haggregates]
  rfl

/-- **Known issues silence exactly what they name.** Tables that make a checker make one with more
known issues, too. For every data directory the findings of the second are those of the first, in
their order, without the findings that one of the new issues names, and the number of files is the
same. -/
theorem checkData_accepting {tables : RuleTables} {checker : Checker} (more : List KnownIssue)
    (tree : FileTree) (dir root : Path) (h : ofTables tables = .ok checker)
    (hdir : tree.isDirectory dir = true) :
    ∃ checker' files, ofTables (tables.accepting more) = .ok checker' ∧
      checker.checkData tree dir root =
        .ok ⟨(checker.traced (DataSet.load tree tables.data dir root)).map (·.2), files⟩ ∧
      checker'.checkData tree dir root =
        .ok ⟨(unnamed more (checker.traced (DataSet.load tree tables.data dir root))).map (·.2),
          files⟩ := by
  have h' := ofTables_accepting more h
  refine ⟨_, tree.countEndingWith dir ".csv", h', ?_, ?_⟩
  · rw [checkData, if_pos hdir, map_traced, (eq_of_ofTables h).1]
  · rw [checkData, if_pos hdir, ← traced_accepting h h', map_traced]
    rfl

/-- Two values above a bound and two sums below one, besides a value that is accepted from the start.
An issue for a depot at all dates takes one value away, and an issue for all depots in the period takes
one sum away; an issue for a single depot does not name the other sum. -/
theorem checkData_accepting_fleet :
    let sum (column : String) : AggregateCheck :=
      ⟨"DATA_LOW", "fleet.csv", "Feb 2024", column, Binary64.ofNat 100, "100", .error⟩
    let tables : RuleTables := { RuleTables.plain with
      knownIssues := [⟨"fleet.csv", "Jan 2024", "*", "Load", "Counted twice"⟩]
      data := {
        entityTables := [RuleTables.Builtin.monthly "fleet.csv" "fleet" .other]
        locations := none
        allowlistedEntities := []
        ranges := [⟨"DATA_HIGH", "fleet.csv", "Load", "load", "%", Binary64.ofNat 100, .warn⟩]
        aggregates := [sum "Trips", sum "Fare"]
        references := [] } }
    let more : List KnownIssue :=
      [⟨"fleet.csv", "*", "Nigadi", "Load", "Hired buses"⟩,
        ⟨"fleet.csv", "Feb 2024", "*", "Trips", "Strike"⟩,
        ⟨"fleet.csv", "Feb 2024", "Nigadi", "Fare", "Strike"⟩]
    let tree : FileTree := ⟨[(["data".toList, "fleet.csv".toList],
      .file ("Date,Depot,Load,Trips,Fare\nJan 2024,Katraj,105,9,9\nFeb 2024,Katraj,110,20,30\n" ++
        "Feb 2024,Nigadi,120,5,7\nFeb 2024,Upper,90,1,1\n").toUTF8.toList)], []⟩
    let dir := Path.ofString "data"
    let high (depot value : String) := "Feb 2024 / " ++ depot ++ ": load = " ++ value ++
      "%; add it to known_issues if expected, or fix the source CSV"
    let low (column total : String) := "Feb 2024 " ++ column ++ " total = " ++ total ++
      "; suspiciously low (expected 100). Add it to known_issues if this has been addressed."
    ∃ checker checker' before after files, ofTables tables = .ok checker ∧
      ofTables (tables.accepting more) = .ok checker' ∧
      checker.checkData tree dir dir = .ok ⟨before, files⟩ ∧
      checker'.checkData tree dir dir = .ok ⟨after, files⟩ ∧
      before.map (·.message) =
        [high "Katraj" "110", high "Nigadi" "120", low "Trips" "26", low "Fare" "38"] ∧
      after.map (·.message) = [high "Katraj" "110", low "Fare" "38"] := by
  intro sum tables more tree dir high low
  have htables : ofTables tables = .ok (ofUnmarked tables) :=
    ofTables_ofUnmarked
      (RuleTables.readsNames_ofText? (by decide +kernel) (by decide +kernel)) rfl
  have hdir : tree.isDirectory dir = true := by decide +kernel
  let t : Table := ⟨["Date", "Depot", "Load", "Trips", "Fare"],
    [["Jan 2024", "Katraj", "105", "9", "9"], ["Feb 2024", "Katraj", "110", "20", "30"],
      ["Feb 2024", "Nigadi", "120", "5", "7"], ["Feb 2024", "Upper", "90", "1", "1"]]⟩
  have hfiles : (DataSet.load tree tables.data dir dir).files = [("fleet.csv", .table t)] := by
    decide +kernel
  have hset : DataSet.load tree tables.data dir dir = ⟨dir, dir, [("fleet.csv", .table t)]⟩ :=
    congrArg (DataSet.mk dir dir) hfiles
  obtain ⟨checker', files, hmore, hbefore, hafter⟩ :=
    checkData_accepting more tree dir dir htables hdir
  rw [hset] at hbefore hafter
  refine ⟨_, checker', _, _, files, htables, hmore, hbefore, hafter, ?_⟩
  unfold traced tracedRange rowNotice? tracedAggregate aggregateFindings sumNotice?
  simp only [ofUnmarked, KnownIssues.covers_ofList]
  decide +kernel

end Checker

end PageLint
