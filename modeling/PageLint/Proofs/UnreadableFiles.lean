import PageLint.Lint
import PageLint.Proofs.BuiltinCheckers
import PageLint.Proofs.FileDeletion
import PageLint.Proofs.Ordering

/-!
# Files that cannot be read

A data file that cannot be read is reported once and then left alone. Almost all checks are about one
file each and depend only on what was found there (`FileCheck`). They say nothing about a file that
cannot be read, and of one that is not there only that (`FileCheck.Quiet`). The checks of entities look
at several files together, but see of a file only whether it is a table, so a file that cannot be read
is to them like one that is missing.

## Main results

* `Checker.dataFindings_eq`: the findings about data, check by check.
* `Checker.filter_file_eq_dataFindings`: what is found about a file that cannot be read.
* `Checker.filter_file_ne_dataFindings`: what is found about the others, compared with a data set in
  which the file is missing.
* `DataSet.load_delete`: a data set is loaded without the file once the file is deleted.
* `Checker.checkData_unreadable`: **a file that cannot be read is isolated**: one finding about it,
  and for the rest the findings are as if it was deleted.
-/

namespace PageLint

/-! ### What is found under a name -/

namespace DataSet

variable (set : DataSet)

/-- Does the data set hold what was found under the names that the tables give, and nothing else? -/
def Lists (d : DataTables) : Prop :=
  set.files = d.fileNames.map fun name => (name, set.file name)

/-- The data set in which nothing is found under a name. -/
def losing (name : String) : DataSet :=
  { set with files := set.files.map fun f => (f.1, if f.1 = name then .missing else f.2) }

/-- Is no other file of the tables shown at the path of this one? -/
def ShowsApart (d : DataTables) (name : String) : Prop :=
  ∀ other ∈ d.fileNames, other ≠ name → set.display other ≠ set.display name

/-- What is found in a list of names with what is found under them. -/
theorem file_of_files {names : List String} {found : String → DataFile}
    (h : set.files = names.map fun name => (name, found name)) {name : String}
    (hname : name ∈ names) : set.file name = found name := by
  rw [file, h, List.find?_map]
  have hkey : ((fun f : String × DataFile => f.1 == name) ∘ fun name => (name, found name)) =
      fun other => other == name := rfl
  rw [hkey]
  cases hfind : names.find? (· == name) with
  | none => exact absurd (beq_self_eq_true name) (List.find?_eq_none.mp hfind name hname)
  | some other =>
      obtain rfl : other = name := by simpa using List.find?_some hfind
      rfl

/-- A data set that is loaded holds what is found under the names of the tables. -/
theorem lists_load (tree : FileTree) (d : DataTables) (directory root : Path) :
    (load tree d directory root).Lists d := by
  refine List.map_congr_left fun name hname => ?_
  rw [file_of_files (load tree d directory root) rfl hname]

/-- Paths are shown as before. -/
theorem display_losing (name : String) : (set.losing name).display = set.display := rfl

/-- The file that is lost is missing, and the others are found as before. -/
theorem file_losing (name other : String) :
    (set.losing name).file other = if other = name then .missing else set.file other := by
  rw [file, file, losing, List.find?_map]
  have hkey : ((fun f : String × DataFile => f.1 == other) ∘ fun f : String × DataFile =>
      (f.1, if f.1 = name then DataFile.missing else f.2)) = fun f => f.1 == other := rfl
  rw [hkey]
  cases h : set.files.find? (·.1 == other) with
  | none => simp
  | some f =>
      obtain rfl : f.1 = other := by simpa using List.find?_some h
      simp

variable {set}

/-- The table under a name is determined by what is found there. -/
theorem table?_congr {set' : DataSet} {name : String} (h : set'.file name = set.file name) :
    set'.table? name = set.table? name := by
  rw [table?, table?, h]

/-- Whether a file is missing is determined by what is found there. -/
theorem isMissing_congr {set' : DataSet} {name : String} (h : set'.file name = set.file name) :
    set'.isMissing name = set.isMissing name := by
  rw [isMissing, isMissing, h]

/-- A data set without one of its files lists the same names. -/
theorem Lists.losing {d : DataTables} (h : set.Lists d) (name : String) :
    (set.losing name).Lists d := by
  simp only [Lists, file_losing]
  rw [DataSet.losing, h, List.map_map]
  rfl

/-- What is lost does not count where only tables count, if it was no table. -/
theorem table?_losing {name : String} (h : set.table? name = none) :
    (set.losing name).table? = set.table? := by
  funext other
  rw [table?, file_losing]
  by_cases hother : other = name
  · rw [if_pos hother, hother, h]
  · rw [if_neg hother, table?]

end DataSet

/-! ### What is said about a file as such -/

/-- What is said about a file that cannot be read. -/
def Notice.unreadable (name : String) (e : Csv.Error) : Notice :=
  .error "DATA_READ" ("Cannot read " ++ name ++ ": " ++ e.message)

/-- What is said about a required table that is not there. -/
def Notice.notFound (name : String) : Notice := .error "DATA_MISSING_FILE" (name ++ " not found")

/-- What is said about a required reference file that is not there. -/
def ReferenceFile.notFound (r : ReferenceFile) : Notice :=
  .error r.rule (r.file ++ " not found" ++ (r.hint.map fun h => "; " ++ h).getD "")

/-- What can be said about a file that is not there: that it was not found, as a table or as one of the
reference files. -/
def DataTables.notFound (d : DataTables) (name : String) : List Notice :=
  Notice.notFound name :: (d.references.filter (·.file == name)).map (·.notFound)

/-- Does the finding say of the file that is shown at a path that it is not there? -/
def DataTables.saysNotFound (d : DataTables) (name path : String) (f : Finding) : Bool :=
  f.file == path && (d.notFound name).contains f.toNotice

/-! ### Checks of one file -/

/-- A check of one file. All that it finds is about the file, and depends on nothing else than what is
found under the name. -/
structure FileCheck where
  /-- The name of the file. -/
  file : String
  /-- The findings about the file. -/
  findings : DataSet → List Finding
  /-- The findings are about the file. -/
  file_eq : ∀ set, ∀ f ∈ findings set, f.file = set.display file
  /-- The findings are determined by what is found under the name. -/
  congr : ∀ set set' : DataSet, set'.report = set.report → set'.file file = set.file file →
    findings set' = findings set

namespace FileCheck

/-- Findings that are made from notices are about the file. -/
theorem file_of_mem_map {set : DataSet} {name : String} {notices : List Notice} {f : Finding}
    (h : f ∈ notices.map (set.report name)) : f.file = set.display name := by
  obtain ⟨notice, -, rfl⟩ := List.mem_map.mp h
  rfl

/-- Can the file be read? -/
def reading (name : String) : FileCheck where
  file := name
  findings set :=
    match set.file name with
    | .unreadable e => [set.report name (.unreadable name e)]
    | _ => []
  file_eq set f h := by
    split at h
    · obtain rfl := List.mem_singleton.mp h
      rfl
    · exact absurd h List.not_mem_nil
  congr set set' hreport hfile := by rw [hreport, hfile]

/-- Is the file there if it has to be, and does it have the columns? -/
def layout (name : String) (required : Bool) (columns : List String) : FileCheck where
  file := name
  findings set := DataCheck.layoutOf set name required columns
  file_eq set f h := by
    rw [DataCheck.layoutOf] at h
    split at h
    · split at h
      · obtain rfl := List.mem_singleton.mp h
        rfl
      · exact absurd h List.not_mem_nil
    · split at h
      · exact absurd h List.not_mem_nil
      · obtain rfl := List.mem_singleton.mp h
        rfl
  congr set set' hreport hfile := by
    rw [DataCheck.layoutOf, DataCheck.layoutOf, DataSet.table?_congr hfile,
      DataSet.isMissing_congr hfile, hreport]

/-- Are the values of a column within a bound? -/
def range (known : KnownIssues) (d : DataTables) (r : RangeCheck) : FileCheck where
  file := r.file
  findings set := DataCheck.rangeFindings known d set r
  file_eq set f h := by
    rw [DataCheck.rangeFindings] at h
    split at h
    · exact file_of_mem_map h
    · exact absurd h List.not_mem_nil
  congr set set' hreport hfile := by
    rw [DataCheck.rangeFindings, DataCheck.rangeFindings, DataSet.table?_congr hfile, hreport]

/-- Is the sum of a column large enough? -/
def aggregate (known : KnownIssues) (d : DataTables) (a : AggregateCheck) : FileCheck where
  file := a.file
  findings set := DataCheck.aggregateFindings known d set a
  file_eq set f h := by
    rw [DataCheck.aggregateFindings] at h
    split at h
    · exact absurd h List.not_mem_nil
    · split at h
      · exact absurd h List.not_mem_nil
      · exact file_of_mem_map h
  congr set set' hreport hfile := by
    rw [DataCheck.aggregateFindings, DataCheck.aggregateFindings, DataSet.table?_congr hfile, hreport]

/-- Is the reference file as it has to be? -/
def reference (r : ReferenceFile) : FileCheck where
  file := r.file
  findings set := DataCheck.reference set r
  file_eq set f h := by
    rw [DataCheck.reference] at h
    split at h
    · exact file_of_mem_map h
    · split at h
      · obtain rfl := List.mem_singleton.mp h
        rfl
      · exact absurd h List.not_mem_nil
  congr set set' hreport hfile := by
    rw [DataCheck.reference, DataCheck.reference, DataSet.table?_congr hfile,
      DataSet.isMissing_congr hfile, hreport]

/-- Are the periods of a table months? -/
def periods (spec : EntityTable) : FileCheck where
  file := spec.file
  findings set := DataCheck.periodsOf set spec
  file_eq set f h := by
    rw [DataCheck.periodsOf] at h
    split at h
    · exact file_of_mem_map h
    · exact absurd h List.not_mem_nil
  congr set set' hreport hfile := by
    rw [DataCheck.periodsOf, DataCheck.periodsOf, DataSet.table?_congr hfile, hreport]

/-- All that some checks find, check by check. -/
def all (checks : List FileCheck) (set : DataSet) : List Finding := checks.flatMap (·.findings set)

/-- Checks that the tables can ask for: they are about a file that the tables name, and if it is not
there, they say no more than that. -/
structure IsOf (d : DataTables) (check : FileCheck) : Prop where
  /-- The tables name the file. -/
  mem_fileNames : check.file ∈ d.fileNames
  /-- Of a file that is not there nothing else is said. -/
  of_missing : ∀ set : DataSet, set.file check.file = .missing →
    ∀ f ∈ check.findings set, f.toNotice ∈ d.notFound check.file

/-- Checks that have nothing to say about a file that cannot be read. -/
structure Quiet (d : DataTables) (check : FileCheck) : Prop extends IsOf d check where
  /-- Nothing is said about a file that cannot be read. -/
  of_unreadable : ∀ (set : DataSet) (e : Csv.Error), set.file check.file = .unreadable e →
    check.findings set = []

section

variable {d : DataTables} {set : DataSet} {checks : List FileCheck} {name : String}

/-- The findings of some checks are those of each. -/
theorem mem_all {f : Finding} : f ∈ all checks set ↔ ∃ c ∈ checks, f ∈ c.findings set :=
  List.mem_flatMap

/-- A check finds the same when another file is lost. -/
theorem findings_losing {check : FileCheck} (h : check.file ≠ name) :
    check.findings (set.losing name) = check.findings set := by
  refine check.congr set _ rfl ?_
  rw [DataSet.file_losing, if_neg h]

/-- When a file is lost, nothing changes in what is found about others. -/
theorem filter_all_losing (checks : List FileCheck) (set : DataSet) (name : String) :
    (all checks (set.losing name)).filter (·.file != set.display name) =
      (all checks set).filter (·.file != set.display name) := by
  rw [all, all, List.filter_flatMap, List.filter_flatMap]
  refine List.flatMap_congr fun check _ => ?_
  by_cases hname : check.file = name
  · have hnone : ∀ set' : DataSet, set'.display name = set.display name →
        (check.findings set').filter (·.file != set.display name) = [] := by
      intro set' hdisplay
      refine List.filter_eq_nil_iff.mpr fun f hf => ?_
      rw [check.file_eq set' f hf, hname, hdisplay, bne_self_eq_false]
      exact Bool.false_ne_true
    rw [hnone set rfl, hnone (set.losing name) rfl]
  · rw [findings_losing hname]

/-- What is found about one of the files that are shown apart is found by a check of that file. -/
theorem IsOf.file_eq_of_mem {check : FileCheck} (hcheck : check.IsOf d) {f : Finding}
    (hf : f ∈ check.findings set) (hapart : set.ShowsApart d name)
    (hshown : f.file = set.display name) : check.file = name := by
  by_contra hne
  exact hapart _ hcheck.mem_fileNames hne ((check.file_eq set f hf).symm.trans hshown)

/-- Quiet checks find nothing about a file that cannot be read. -/
theorem ne_of_mem_all_of_unreadable (hchecks : ∀ c ∈ checks, c.Quiet d) {e : Csv.Error}
    (hfile : set.file name = .unreadable e) (hapart : set.ShowsApart d name) {f : Finding}
    (hf : f ∈ all checks set) : f.file ≠ set.display name := by
  intro hshown
  obtain ⟨check, hcheck, hmem⟩ := mem_all.mp hf
  have hname := (hchecks check hcheck).file_eq_of_mem hmem hapart hshown
  rw [(hchecks check hcheck).of_unreadable set e (hname ▸ hfile)] at hmem
  exact List.not_mem_nil hmem

/-- Of a file that is lost it is found only that it is not there. -/
theorem saysNotFound_of_mem_all_losing (hchecks : ∀ c ∈ checks, c.IsOf d)
    (hapart : set.ShowsApart d name) {f : Finding} (hf : f ∈ all checks (set.losing name)) :
    d.saysNotFound name (set.display name) f = (f.file == set.display name) := by
  rw [DataTables.saysNotFound, Bool.and_eq_left_iff_imp, beq_iff_eq, List.contains_iff_mem]
  intro hshown
  obtain ⟨check, hcheck, hmem⟩ := mem_all.mp hf
  obtain rfl := (hchecks check hcheck).file_eq_of_mem hmem hapart hshown
  exact (hchecks check hcheck).of_missing _ (by rw [DataSet.file_losing, if_pos rfl]) f hmem

end

/-! ### The checks of the tables -/

/-- The files that the tables name are read. -/
def readings (d : DataTables) : List FileCheck := d.fileNames.map reading

/-- The checks of the layout. -/
def layouts (d : DataTables) : List FileCheck :=
  d.entityTables.map (fun t => layout t.file t.required (DataCheck.expectedColumns d t)) ++
    d.locations.toList.map fun l => layout l.file l.required (DataCheck.locationColumns l)

/-- The checks of values. -/
def values (known : KnownIssues) (d : DataTables) : List FileCheck :=
  d.ranges.map (range known d) ++ d.aggregates.map (aggregate known d) ++
    d.references.map reference ++ d.entityTables.map periods

variable {d : DataTables}

/-- Reading is a check of the tables. -/
theorem isOf_readings : ∀ c ∈ readings d, c.IsOf d := by
  intro c hc
  obtain ⟨name, hname, rfl⟩ := List.mem_map.mp hc
  refine ⟨hname, fun set hmissing f hf => ?_⟩
  simp only [reading] at hmissing hf
  rw [hmissing] at hf
  exact absurd hf List.not_mem_nil

/-- Checks that need a table find nothing where there is none. -/
theorem quiet_of_table? {check : FileCheck} (hname : check.file ∈ d.fileNames)
    (h : ∀ set : DataSet, set.table? check.file = none → check.findings set = []) :
    check.Quiet d := by
  refine ⟨⟨hname, fun set hmissing f hf => ?_⟩, fun set e hfile => h set ?_⟩
  · rw [h set (by rw [DataSet.table?, hmissing])] at hf
    exact absurd hf List.not_mem_nil
  · rw [DataSet.table?, hfile]

/-- Checks that find without a table at most that the file is not there are quiet. -/
theorem quiet_of_isMissing {check : FileCheck} (required : Bool) {notice : Notice}
    (hname : check.file ∈ d.fileNames) (hnotice : notice ∈ d.notFound check.file)
    (h : ∀ set : DataSet, set.table? check.file = none → check.findings set =
      if required && set.isMissing check.file then [set.report check.file notice] else []) :
    check.Quiet d := by
  refine ⟨⟨hname, fun set hmissing f hf => ?_⟩, fun set e hfile => ?_⟩
  · rw [h set (by rw [DataSet.table?, hmissing])] at hf
    split at hf
    · obtain rfl := List.mem_singleton.mp hf
      exact hnotice
    · exact absurd hf List.not_mem_nil
  · rw [h set (by rw [DataSet.table?, hfile]), DataSet.isMissing, hfile]
    simp

end FileCheck

/-- The names of files are those in the tables. -/
theorem DataTables.mem_fileNames {d : DataTables} {name : String} :
    name ∈ d.fileNames ↔ (∃ t ∈ d.entityTables, t.file = name) ∨
      (∃ l ∈ d.locations, l.file = name) ∨ (∃ r ∈ d.ranges, r.file = name) ∨
      (∃ a ∈ d.aggregates, a.file = name) ∨ ∃ r ∈ d.references, r.file = name := by
  simp only [fileNames, Ascending.mem_ofList_iff, List.mem_append, List.mem_map,
    Option.mem_toList, Option.mem_def, or_assoc]

namespace FileCheck

variable {d : DataTables}

/-- The layout of a file that cannot be read is not looked at. -/
theorem quiet_layout {name : String} {required : Bool} {columns : List String}
    (hname : name ∈ d.fileNames) : (layout name required columns).Quiet d := by
  refine quiet_of_isMissing required hname (List.mem_cons_self (a := Notice.notFound name)) ?_
  intro set hnone
  simp only [layout] at hnone ⊢
  rw [DataCheck.layoutOf, hnone]
  rfl

/-- The checks of layouts are quiet. -/
theorem quiet_layouts : ∀ c ∈ layouts d, c.Quiet d := by
  simp only [layouts, List.forall_mem_append, List.forall_mem_map]
  refine ⟨fun t ht => ?_, fun l hl => ?_⟩
  · exact quiet_layout (DataTables.mem_fileNames.mpr (.inl ⟨t, ht, rfl⟩))
  · exact quiet_layout (DataTables.mem_fileNames.mpr (.inr (.inl ⟨l, Option.mem_toList.mp hl, rfl⟩)))

/-- The checks of values are quiet. -/
theorem quiet_values {known : KnownIssues} : ∀ c ∈ values known d, c.Quiet d := by
  simp only [values, List.forall_mem_append, List.forall_mem_map]
  refine ⟨⟨⟨fun r hr => ?_, fun a ha => ?_⟩, fun r hr => ?_⟩, fun t ht => ?_⟩
  · refine quiet_of_table? (DataTables.mem_fileNames.mpr (.inr (.inr (.inl ⟨r, hr, rfl⟩)))) ?_
    intro set hnone
    simp only [range] at hnone ⊢
    rw [DataCheck.rangeFindings, hnone]
  · refine quiet_of_table? (DataTables.mem_fileNames.mpr (.inr (.inr (.inr (.inl ⟨a, ha, rfl⟩))))) ?_
    intro set hnone
    simp only [aggregate] at hnone ⊢
    rw [DataCheck.aggregateFindings, hnone]
  · have hnotice : r.notFound ∈ d.notFound r.file :=
      List.mem_cons_of_mem _ (List.mem_map.mpr
        ⟨r, List.mem_filter.mpr ⟨hr, beq_self_eq_true r.file⟩, rfl⟩)
    refine quiet_of_isMissing r.required
      (DataTables.mem_fileNames.mpr (.inr (.inr (.inr (.inr ⟨r, hr, rfl⟩))))) hnotice ?_
    intro set hnone
    simp only [reference] at hnone ⊢
    rw [DataCheck.reference, hnone]
    rfl
  · refine quiet_of_table? (DataTables.mem_fileNames.mpr (.inl ⟨t, ht, rfl⟩)) ?_
    intro set hnone
    simp only [periods] at hnone ⊢
    rw [DataCheck.periodsOf, hnone]

end FileCheck

/-! ### Entities -/

namespace DataCheck

variable {set : DataSet} {f : Finding}

/-- The tables of entities that are loaded are specified, and there is a table in their file. -/
theorem mem_loadedEntities {d : DataTables} {table : EntityTable × List String}
    (h : table ∈ loadedEntities set d) :
    table.1 ∈ d.entityTables ∧ (set.table? table.1.file).isSome = true := by
  obtain ⟨spec, hspec, htable⟩ := List.mem_filterMap.mp h
  obtain ⟨t, ht, rfl⟩ := Option.map_eq_some_iff.mp htable
  exact ⟨hspec, Option.isSome_of_eq_some ht⟩

/-- Findings about retired names are about the file that was looked at. -/
theorem file_of_mem_retiredNames {names : List (String × String)} {name : String}
    {es : List String} (h : f ∈ retiredNames set names name es) : f.file = set.display name := by
  obtain ⟨entry, -, hentry⟩ := List.mem_filterMap.mp h
  simp only at hentry
  split at hentry
  · rw [← Option.some.inj hentry]
    rfl
  · cases hentry

/-- What is found with the help of the table of places is about that table or one of the tables of
entities. -/
theorem file_of_mem_places {d : DataTables} {l : LocationTable} {t : Table}
    (h : f ∈ places set d l t) :
    f.file = set.display l.file ∨
      ∃ table ∈ loadedEntities set d, f.file = set.display table.1.file := by
  simp only [places, List.mem_append] at h
  rcases h with ((h | h) | h) | h
  · left
    obtain ⟨row, -, hrow⟩ := List.mem_filterMap.mp h
    split at hrow
    · rw [← Option.some.inj hrow]
      rfl
    · cases hrow
  · left
    split at h
    · exact absurd h List.not_mem_nil
    · obtain ⟨table, -, htable⟩ := List.mem_flatMap.mp h
      obtain ⟨e, -, rfl⟩ := List.mem_map.mp htable
      rfl
  · right
    split at h
    · exact absurd h List.not_mem_nil
    · obtain ⟨table, hmem, htable⟩ := List.mem_flatMap.mp h
      obtain ⟨e, -, rfl⟩ := List.mem_map.mp htable
      exact ⟨table, (List.mem_filter.mp hmem).1, rfl⟩
  · left
    split at h
    · exact absurd h List.not_mem_nil
    · obtain ⟨e, -, rfl⟩ := List.mem_map.mp h
      rfl

/-- What is found about entities is about a file that is a table. -/
theorem file_of_mem_entities {tables : RuleTables} (h : f ∈ entities set tables) :
    ∃ name ∈ tables.data.fileNames, (set.table? name).isSome = true ∧
      f.file = set.display name := by
  have hentity : ∀ table ∈ loadedEntities set tables.data, f.file = set.display table.1.file →
      ∃ name ∈ tables.data.fileNames, (set.table? name).isSome = true ∧
        f.file = set.display name := by
    intro table htable hfile
    obtain ⟨hspec, hsome⟩ := mem_loadedEntities htable
    exact ⟨_, DataTables.mem_fileNames.mpr (.inl ⟨_, hspec, rfl⟩), hsome, hfile⟩
  have hlocation : ∀ l t, (l, t) ∈ (locationTable? set tables.data).toList →
      f.file = set.display l.file →
      ∃ name ∈ tables.data.fileNames, (set.table? name).isSome = true ∧
        f.file = set.display name := by
    intro l t hmem hfile
    obtain ⟨l', hl', ht⟩ := Option.bind_eq_some_iff.mp (Option.mem_toList.mp hmem)
    obtain ⟨t', ht', heq⟩ := Option.map_eq_some_iff.mp ht
    obtain ⟨rfl, rfl⟩ := Prod.mk.inj heq
    exact ⟨_, DataTables.mem_fileNames.mpr (.inr (.inl ⟨_, hl', rfl⟩)),
      Option.isSome_of_eq_some ht', hfile⟩
  simp only [entities, List.mem_append] at h
  rcases h with (h | h) | h
  · obtain ⟨table, htable, hmem⟩ := List.mem_flatMap.mp h
    exact hentity table htable (file_of_mem_retiredNames hmem)
  · obtain ⟨⟨l, t⟩, hl, hmem⟩ := List.mem_flatMap.mp h
    exact hlocation l t hl (file_of_mem_retiredNames hmem)
  · obtain ⟨⟨l, t⟩, hl, hmem⟩ := List.mem_flatMap.mp h
    rcases file_of_mem_places hmem with hfile | ⟨table, htable, hfile⟩
    · exact hlocation l t hl hfile
    · exact hentity table htable hfile

/-- The tables of entities are determined by the tables in the files. -/
theorem loadedEntities_congr {set' : DataSet} (htable : set'.table? = set.table?) :
    loadedEntities set' = loadedEntities set := by
  funext d
  rw [loadedEntities, loadedEntities, htable]

section

variable {set' : DataSet} (hreport : set'.report = set.report)

include hreport

/-- The check of retired names sees of the data set only how it reports. -/
theorem retiredNames_congr : retiredNames set' = retiredNames set := by
  funext names file es
  rw [retiredNames, retiredNames, hreport]

/-- The check of coordinates sees of the data set only how it reports. -/
theorem missingCoordinates_congr : missingCoordinates set' = missingCoordinates set := by
  funext l t
  rw [missingCoordinates, missingCoordinates, hreport]

/-- The check for missing places sees of the data set only how it reports. -/
theorem unlocated_congr : unlocated set' = unlocated set := by
  funext l located table
  rw [unlocated, unlocated, hreport]

/-- The check for secondary entities sees of the data set only how it reports. -/
theorem secondaryOnly_congr : secondaryOnly set' = secondaryOnly set := by
  funext l allowed primary table
  rw [secondaryOnly, secondaryOnly, hreport]

/-- The check of allowed entities sees of the data set only how it reports. -/
theorem allowedUnlocated_congr : allowedUnlocated set' = allowedUnlocated set := by
  funext l allowed located
  rw [allowedUnlocated, allowedUnlocated, hreport]

/-- The check of places sees of the files only which tables they are. -/
theorem places_congr (htable : set'.table? = set.table?) : places set' = places set := by
  funext d l t
  rw [places, places, loadedEntities_congr htable, missingCoordinates_congr hreport,
    unlocated_congr hreport, secondaryOnly_congr hreport, allowedUnlocated_congr hreport]

/-- The checks of entities see of the files only which tables they are. -/
theorem entities_congr (htable : set'.table? = set.table?) : entities set' = entities set := by
  have hlocation : locationTable? set' = locationTable? set := by
    funext d
    rw [locationTable?, locationTable?, htable]
  funext tables
  rw [entities, entities, loadedEntities_congr htable, hlocation, retiredNames_congr hreport,
    places_congr hreport htable]

end

/-- Nothing is found about entities of a file that is no table. -/
theorem ne_of_mem_entities {tables : RuleTables} {name : String} (h : f ∈ entities set tables)
    (hnone : set.table? name = none) (hapart : set.ShowsApart tables.data name) :
    f.file ≠ set.display name := by
  intro hshown
  obtain ⟨other, hother, hsome, hfile⟩ := file_of_mem_entities h
  have heq : other = name := by
    by_contra hne
    exact hapart other hother hne (hfile.symm.trans hshown)
  rw [heq, hnone] at hsome
  cases hsome

end DataCheck

/-! ### The whole check -/

namespace DataSet

variable {set : DataSet} {d : DataTables}

/-- The files that cannot be read are found by reading all files. -/
theorem Lists.unreadable_eq (h : set.Lists d) :
    set.unreadable = FileCheck.all (FileCheck.readings d) set := by
  rw [unreadable, h, List.filterMap_map, List.filterMap_eq_flatMap_toList, FileCheck.all,
    FileCheck.readings, List.flatMap_map]
  refine List.flatMap_congr fun name _ => ?_
  simp only [Function.comp_apply, FileCheck.reading]
  cases set.file name with
  | missing => rfl
  | unreadable e => rfl
  | table t => rfl

end DataSet

namespace Checker

variable (checker : Checker)

/-- The findings about data, check by check. -/
theorem dataFindings_eq {set : DataSet} (h : set.Lists checker.tables.data) :
    checker.dataFindings set =
      FileCheck.all (FileCheck.readings checker.tables.data) set ++
        FileCheck.all (FileCheck.layouts checker.tables.data) set ++
        DataCheck.entities set checker.tables ++
        FileCheck.all (FileCheck.values checker.known checker.tables.data) set := by
  simp only [dataFindings, h.unreadable_eq, DataCheck.layout, DataCheck.ranges, DataCheck.aggregates,
    DataCheck.periods, FileCheck.all, FileCheck.layouts, FileCheck.values, List.flatMap_append,
    List.flatMap_map, FileCheck.layout, FileCheck.range, FileCheck.aggregate, FileCheck.reference,
    FileCheck.periods, List.append_assoc]

variable {set : DataSet} {name : String} {e : Csv.Error}

/-- If only one of some different names contributes anything, this is all that there is. -/
theorem flatMap_eq_of_forall_ne {names : List String} {found : String → List Finding}
    (hnodup : names.Nodup) (hname : name ∈ names)
    (h : ∀ other ∈ names, other ≠ name → found other = []) :
    names.flatMap found = found name := by
  induction names with
  | nil => exact absurd hname List.not_mem_nil
  | cons first names ih =>
      obtain ⟨hfirst, hnames⟩ := List.nodup_cons.mp hnodup
      have hothers := fun other hother => h other (List.mem_cons_of_mem first hother)
      rcases List.mem_cons.mp hname with rfl | hmem
      · have hrest : names.flatMap found = [] :=
          List.flatMap_eq_nil_iff.mpr fun other hother =>
            hothers other hother (ne_of_mem_of_not_mem hother hfirst)
        rw [List.flatMap_cons, hrest, List.append_nil]
      · have hne : first ≠ name := (ne_of_mem_of_not_mem hmem hfirst).symm
        rw [List.flatMap_cons, h first List.mem_cons_self hne, List.nil_append,
          ih hnames hmem hothers]

/-- A file that cannot be read is reported once by the reading. -/
theorem filter_all_readings {d : DataTables} (hname : name ∈ d.fileNames)
    (hfile : set.file name = .unreadable e) (hapart : set.ShowsApart d name) :
    (FileCheck.all (FileCheck.readings d) set).filter (·.file == set.display name) =
      [set.report name (.unreadable name e)] := by
  have hnodup : d.fileNames.Nodup := by
    refine (Ascending.pairwise_ofList _).imp ?_
    rintro m n hlt rfl
    exact Std.lt_irrefl hlt
  rw [FileCheck.all, FileCheck.readings, List.flatMap_map, List.filter_flatMap,
    flatMap_eq_of_forall_ne hnodup hname]
  · simp only [FileCheck.reading, hfile]
    exact List.filter_cons_of_pos (beq_self_eq_true _)
  · intro other hmem hother
    refine List.filter_eq_nil_iff.mpr fun f hf hshown => ?_
    rw [beq_iff_eq, (FileCheck.reading other).file_eq set f hf] at hshown
    exact hapart other hmem hother hshown

/-- **About a file that cannot be read there is one finding**, and it says that. -/
theorem filter_file_eq_dataFindings (hset : set.Lists checker.tables.data)
    (hname : name ∈ checker.tables.data.fileNames) (hfile : set.file name = .unreadable e)
    (hapart : set.ShowsApart checker.tables.data name) :
    (checker.dataFindings set).filter (·.file == set.display name) =
      [set.report name (.unreadable name e)] := by
  have hquiet : ∀ checks : List FileCheck, (∀ c ∈ checks, c.Quiet checker.tables.data) →
      (FileCheck.all checks set).filter (·.file == set.display name) = [] := by
    intro checks hchecks
    refine List.filter_eq_nil_iff.mpr fun f hf hshown => ?_
    exact FileCheck.ne_of_mem_all_of_unreadable hchecks hfile hapart hf (beq_iff_eq.mp hshown)
  have hentities : (DataCheck.entities set checker.tables).filter
      (·.file == set.display name) = [] := by
    refine List.filter_eq_nil_iff.mpr fun f hf hshown => ?_
    have hnone : set.table? name = none := by rw [DataSet.table?, hfile]
    exact DataCheck.ne_of_mem_entities hf hnone hapart (beq_iff_eq.mp hshown)
  rw [dataFindings_eq checker hset, List.filter_append, List.filter_append, List.filter_append,
    filter_all_readings hname hfile hapart, hquiet _ FileCheck.quiet_layouts, hentities,
    hquiet _ FileCheck.quiet_values]
  rfl

/-- When a file that is no table is lost, all that is found about it is that it is not there. -/
theorem saysNotFound_of_mem_dataFindings_losing (hset : set.Lists checker.tables.data)
    (hnone : set.table? name = none) (hapart : set.ShowsApart checker.tables.data name) {f : Finding}
    (hf : f ∈ checker.dataFindings (set.losing name)) :
    checker.tables.data.saysNotFound name (set.display name) f = (f.file == set.display name) := by
  rw [dataFindings_eq checker (hset.losing name), List.mem_append, List.mem_append,
    List.mem_append] at hf
  rcases hf with ((hf | hf) | hf) | hf
  · exact FileCheck.saysNotFound_of_mem_all_losing FileCheck.isOf_readings hapart hf
  · exact FileCheck.saysNotFound_of_mem_all_losing
      (fun c hc => (FileCheck.quiet_layouts c hc).toIsOf) hapart hf
  · have hne := DataCheck.ne_of_mem_entities hf (by rw [DataSet.table?_losing hnone, hnone]) hapart
    rw [DataSet.display_losing] at hne
    rw [DataTables.saysNotFound, beq_eq_false_iff_ne.mpr hne, Bool.false_and]
  · exact FileCheck.saysNotFound_of_mem_all_losing
      (fun c hc => (FileCheck.quiet_values c hc).toIsOf) hapart hf

/-- **A file that is no table changes nothing else**: the findings that are not about it are those that
are there when it is lost, without those that say so. -/
theorem filter_file_ne_dataFindings (hset : set.Lists checker.tables.data)
    (hnone : set.table? name = none) (hapart : set.ShowsApart checker.tables.data name) :
    (checker.dataFindings set).filter (·.file != set.display name) =
      (checker.dataFindings (set.losing name)).filter
        (!checker.tables.data.saysNotFound name (set.display name) ·) := by
  have hnotice : ∀ f ∈ checker.dataFindings (set.losing name),
      (!checker.tables.data.saysNotFound name (set.display name) f) =
        (f.file != set.display name) := fun f hf =>
    congrArg (!·) (saysNotFound_of_mem_dataFindings_losing checker hset hnone hapart hf)
  have hentities : DataCheck.entities (set.losing name) = DataCheck.entities set :=
    DataCheck.entities_congr rfl (DataSet.table?_losing hnone)
  rw [List.filter_congr hnotice, dataFindings_eq checker hset,
    dataFindings_eq checker (hset.losing name)]
  simp only [List.filter_append, FileCheck.filter_all_losing, hentities]

end Checker

/-! ### Deletion -/

/-- The path of a data file in the data directory. -/
def Path.dataFile (directory : Path) (name : String) : Path := directory.join (Path.ofString name)

/-- Are the data files that the tables name told apart, by where they are and by how they are shown? -/
structure DataTables.ToldApart (d : DataTables) (tree : FileTree) (directory root : Path) : Prop where
  /-- Different names that lead to files lead to different files. -/
  locate?_ne : ∀ m ∈ d.fileNames, ∀ n ∈ d.fileNames, m ≠ n →
    tree.isFile (directory.dataFile m) = true → tree.isFile (directory.dataFile n) = true →
    tree.locate? (directory.dataFile m) ≠ tree.locate? (directory.dataFile n)
  /-- Different names are shown as different paths. -/
  display_ne : ∀ m ∈ d.fileNames, ∀ n ∈ d.fileNames, m ≠ n →
    (directory.dataFile m).display root ≠ (directory.dataFile n).display root

/-- Whether data files are told apart can be checked name by name. -/
theorem DataTables.toldApart_iff {d : DataTables} {tree : FileTree} {directory root : Path} :
    d.ToldApart tree directory root ↔ ∀ m ∈ d.fileNames, ∀ n ∈ d.fileNames, m = n ∨
      (tree.isFile (directory.dataFile m) = false ∨ tree.isFile (directory.dataFile n) = false ∨
        tree.locate? (directory.dataFile m) ≠ tree.locate? (directory.dataFile n)) ∧
      (directory.dataFile m).display root ≠ (directory.dataFile n).display root := by
  constructor
  · rintro ⟨hlocate, hdisplay⟩ m hm n hn
    refine or_iff_not_imp_left.mpr fun hne => ⟨?_, hdisplay m hm n hn hne⟩
    have hfiles := hlocate m hm n hn hne
    grind
  · intro h
    constructor
    · intro m hm n hn hne hfirst hsecond
      obtain ⟨hfiles, -⟩ := (h m hm n hn).resolve_left hne
      simpa [hfirst, hsecond] using hfiles
    · intro m hm n hn hne
      exact ((h m hm n hn).resolve_left hne).2

instance (d : DataTables) (tree : FileTree) (directory root : Path) :
    Decidable (d.ToldApart tree directory root) := decidable_of_iff _ DataTables.toldApart_iff.symm

section

variable {tree : FileTree} {d : DataTables} {directory root : Path} {name : String} {content : Bytes}

/-- When one of the files that are told apart is deleted, the data set loses it and nothing else. -/
theorem DataSet.load_delete (htree : tree.WellFormed) (hapart : d.ToldApart tree directory root)
    (hname : name ∈ d.fileNames) (hread : tree.read? (directory.dataFile name) = some content) :
    load (tree.delete (directory.dataFile name)) d directory root =
      (load tree d directory root).losing name := by
  have hread' : ∀ other ∈ d.fileNames, other ≠ name →
      (tree.delete (directory.dataFile name)).read? (directory.dataFile other) =
        tree.read? (directory.dataFile other) := by
    intro other hmem hother
    rw [FileTree.read?_delete htree hread]
    by_cases hlocate : tree.locate? (directory.dataFile other) =
        tree.locate? (directory.dataFile name)
    · rw [if_pos hlocate]
      by_contra hsome
      exact hapart.locate?_ne other hmem name hname hother
        (Option.isSome_iff_ne_none.mpr (Ne.symm hsome)) (Option.isSome_of_eq_some hread) hlocate
    · rw [if_neg hlocate]
  have hload : ∀ other ∈ d.fileNames,
      DataFile.load (tree.delete (directory.dataFile name)) (directory.dataFile other) =
        if other = name then .missing else DataFile.load tree (directory.dataFile other) := by
    intro other hmem
    by_cases hother : other = name
    · rw [if_pos hother, hother, DataFile.load, FileTree.read?_delete htree hread, if_pos rfl]
    · rw [if_neg hother, DataFile.load, hread' other hmem hother, DataFile.load]
  simp only [load, losing, List.map_map]
  congr 1
  refine List.map_congr_left fun other hmem => ?_
  exact congrArg (Prod.mk other) (hload other hmem)

/-- **A file that cannot be read is isolated.** When the tables tell their files apart and one of them
is a file that is no table of texts, the data check gives one finding about this file, and it is that
the file cannot be read. All other findings are, in their order, those of the data check after the file
is deleted, but for those that say of this file that it is not there. -/
theorem Checker.checkData_unreadable (checker : Checker) {e : Csv.Error}
    (htree : tree.WellFormed) (hdirectory : tree.isDirectory directory = true)
    (hapart : checker.tables.data.ToldApart tree directory root)
    (hname : name ∈ checker.tables.data.fileNames)
    (hread : tree.read? (directory.dataFile name) = some content)
    (htable : Table.ofBytes? content = .error e) :
    let shown := (directory.dataFile name).display root
    ∃ report gone, checker.checkData tree directory root = .ok report ∧
      checker.checkData (tree.delete (directory.dataFile name)) directory root = .ok gone ∧
      report.findings.filter (·.file == shown) = [(Notice.unreadable name e).inFile shown] ∧
      report.findings.filter (·.file != shown) =
        gone.findings.filter (!checker.tables.data.saysNotFound name shown ·) := by
  intro shown
  have hfile : (DataSet.load tree checker.tables.data directory root).file name =
      .unreadable e := by
    rw [DataSet.file_of_files _ rfl hname]
    change DataFile.load tree (directory.dataFile name) = _
    rw [DataFile.load, hread]
    simp only [htable]
  have hshows : (DataSet.load tree checker.tables.data directory root).ShowsApart
      checker.tables.data name :=
    fun other hmem hother => hapart.display_ne other hmem name hname hother
  have hnone : (DataSet.load tree checker.tables.data directory root).table? name = none := by
    rw [DataSet.table?, hfile]
  have hset := DataSet.lists_load tree checker.tables.data directory root
  have hone := filter_file_eq_dataFindings checker hset hname hfile hshows
  have hrest := filter_file_ne_dataFindings checker hset hnone hshows
  refine ⟨_, _, if_pos hdirectory, if_pos ?_, hone, ?_⟩
  · rw [FileTree.isDirectory_delete htree hread, hdirectory]
  · rw [DataSet.load_delete htree hapart hname hread]
    exact hrest

end

/-- The built-in tables, which name the file `extracted.csv` for its layout, its entities, a bound and a
sum, and a data directory with this file, which is not UTF-8, and a table of places. -/
theorem Checker.checkData_unreadable_builtin :
    let checker := Checker.unmarked
    let tree : FileTree :=
      ⟨[(["data".toList, "extracted.csv".toList], .file [0xFF]),
        (["data".toList, "depot_locations.csv".toList], .file "depot,latitude\n".toUTF8.toList)], []⟩
    let directory := Path.ofString "data"
    let path := directory.dataFile "extracted.csv"
    tree.WellFormed ∧ tree.isDirectory directory = true ∧
      checker.tables.data.ToldApart tree directory directory ∧
      "extracted.csv" ∈ checker.tables.data.fileNames ∧
      tree.read? path = some [0xFF] ∧ Table.ofBytes? [0xFF] = .error ⟨0, ⟨1, 0⟩, 0, 0⟩ ∧
      ∃ report gone, checker.checkData tree directory directory = .ok report ∧
        checker.checkData (tree.delete path) directory directory = .ok gone ∧
        report.findings.filter (·.file == "extracted.csv") =
          [(Notice.unreadable "extracted.csv" ⟨0, ⟨1, 0⟩, 0, 0⟩).inFile "extracted.csv"] ∧
        report.findings.filter (·.file != "extracted.csv") =
          gone.findings.filter
            (!checker.tables.data.saysNotFound "extracted.csv" "extracted.csv" ·) := by
  intro checker tree directory path
  have htree : tree.WellFormed := by decide +kernel
  have hdirectory : tree.isDirectory directory = true := by decide +kernel
  have hapart : checker.tables.data.ToldApart tree directory directory := by decide +kernel
  have hname : "extracted.csv" ∈ checker.tables.data.fileNames := by decide +kernel
  have hread : tree.read? path = some [0xFF] := by decide +kernel
  have htable : Table.ofBytes? [0xFF] = .error ⟨0, ⟨1, 0⟩, 0, 0⟩ := by
    have hrecords : Csv.records [0xFF] = [(⟨1, 0⟩, [[0xFF]])] := by decide +kernel
    have hfield : Utf8.decode [0xFF] = ([], [0xFF]) := by decide +kernel
    rw [Table.ofBytes?, Csv.read, hrecords]
    simp [Csv.decodeRecord, hfield, List.zipIdx, bind, Except.bind]
  have hshown : path.display directory = "extracted.csv" := by decide +kernel
  have h := checkData_unreadable checker htree hdirectory hapart hname hread htable
  rw [hshown] at h
  exact ⟨htree, hdirectory, hapart, hname, hread, htable, h⟩

end PageLint
