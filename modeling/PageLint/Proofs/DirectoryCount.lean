import PageLint.Lint
import PageLint.Proofs.BuiltinCheckers
import PageLint.Proofs.FileDeletion
import PageLint.Proofs.Ordering

/-!
# Counting data files

The data check also gives a number of data files. It counts the names in the data directory that end
with `.csv`, whatever they are the names of: what is in a directory are its files and its directories
(`FileTree.mem_names_iff`), and both are counted. So the number is that of the data files only if no
directory has such a name.

Where the path of the data directory begins with a point and two slashes, the paths in it cannot be
listed (`Path.listing?`), and nothing is counted.

## Main results

* `FileTree.mem_names_iff`: the names in a directory.
* `FileTree.countEndingWith_eq`: what is counted.
* `Checker.checkData_files`: **the number of data files**.
-/

namespace PageLint

namespace Text

/-- A text ends with its final segments. -/
theorem endsWith_iff {t tail : Text} : t.endsWith tail = true ↔ tail <:+ t := by
  rw [endsWith, ← startsWith, startsWith_iff, List.reverse_prefix]

end Text

namespace FileTree

/-! ### Names -/

/-- What is left of a location is what it adds to the other. -/
theorem below?_eq_some_iff {top l rest : Location} : below? top l = some rest ↔ l = top ++ rest := by
  fun_induction below? top l with
  | case1 l => simp
  | case2 n top => simp
  | case3 n top l ih => simp [ih]
  | case4 n top m l hne => simp [Ne.symm hne]

/-- A name is the first step from a directory to a location when the location is at or below the
entry of this name. -/
theorem head?_below?_eq_some_iff {top l : Location} {n : Text} :
    (below? top l).bind List.head? = some n ↔ top ++ [n] <+: l := by
  simp only [Option.bind_eq_some_iff, below?_eq_some_iff, List.head?_eq_some_iff]
  constructor
  · rintro ⟨_, rfl, rest, rfl⟩
    exact ⟨rest, by simp⟩
  · rintro ⟨rest, rfl⟩
    exact ⟨n :: rest, by simp, rest, rfl⟩

variable {tree : FileTree} {top : Location}

/-- There is something at a location when an entry or the working directory is there or below. -/
theorem isSome_at?_iff {l : Location} :
    (tree.at? l).isSome = true ↔
      l <+: tree.workingDirectory ∨ ∃ entry ∈ tree.entries, l <+: entry.1 := by
  rw [at?]
  split
  · next entry hentry =>
    have hl : entry.1 = l := by simpa using List.find?_some hentry
    have hbelow : ∃ entry ∈ tree.entries, l <+: entry.1 :=
      ⟨entry, List.mem_of_find?_eq_some hentry, hl ▸ List.prefix_rfl⟩
    exact iff_of_true rfl (.inr hbelow)
  · simp only [← List.isPrefixOf_iff_prefix, ← List.any_eq_true, ← Bool.or_eq_true]
    split
    · next habove => exact iff_of_true rfl habove
    · next habove => exact iff_of_false Bool.false_ne_true habove

/-- **The names in a directory** are those under which there is something in it. -/
theorem mem_names_iff {n : Text} : n ∈ tree.names top ↔ (tree.at? (top ++ [n])).isSome = true := by
  rw [names, Ascending.mem_ofList_iff, List.mem_filterMap, isSome_at?_iff]
  simp only [head?_below?_eq_some_iff, List.mem_cons, List.mem_map, exists_eq_or_imp,
    exists_exists_and_eq_and]

/-- Each name stands once. -/
theorem nodup_names : (tree.names top).Nodup := by
  refine (Ascending.pairwise_ofList _).imp ?_
  rintro n _ hlt rfl
  exact Std.lt_irrefl hlt

/-! ### What is counted -/

/-- Is there a file of this name in the directory? -/
def HasFile (tree : FileTree) (top : Location) (n : Text) : Prop :=
  ∃ content, tree.at? (top ++ [n]) = some (.file content)

/-- Is there a directory of this name in the directory? -/
def HasDirectory (tree : FileTree) (top : Location) (n : Text) : Prop :=
  tree.at? (top ++ [n]) = some .directory

/-- What has a name in a directory is a file or a directory. -/
theorem isSome_at?_iff_or {n : Text} :
    (tree.at? (top ++ [n])).isSome = true ↔ tree.HasFile top n ∨ tree.HasDirectory top n := by
  rw [HasFile, HasDirectory]
  cases tree.at? (top ++ [n]) with
  | none => simp
  | some node => cases node <;> simp

instance (tree : FileTree) (top : Location) : DecidablePred (tree.HasDirectory top) := fun n =>
  inferInstanceAs (Decidable (tree.at? (top ++ [n]) = some .directory))

/-- The names in a directory that end with `tail`. -/
def namesEndingWith (tree : FileTree) (top : Location) (tail : Text) : List Text :=
  (tree.names top).filter (·.endsWith tail)

/-- The names with an ending are those of the files and directories with it. -/
theorem mem_namesEndingWith_iff {tail n : Text} :
    n ∈ tree.namesEndingWith top tail ↔
      (tree.HasFile top n ∨ tree.HasDirectory top n) ∧ tail <:+ n := by
  rw [namesEndingWith, List.mem_filter, mem_names_iff, isSome_at?_iff_or, Text.endsWith_iff]

/-- No file is a directory. -/
theorem HasFile.not_hasDirectory {n : Text} (h : tree.HasFile top n) :
    ¬tree.HasDirectory top n := by
  obtain ⟨content, hcontent⟩ := h
  rw [HasDirectory, hcontent]
  exact nofun

/-- **What is counted** in a directory whose paths can be listed are its files and its directories
with such names. -/
theorem countEndingWith_eq {dir : Path} (tail : String) (hlisting : dir.listing?.isSome = true)
    (htop : tree.locate? dir = some top) :
    ∃ files directories : List Text, files.Nodup ∧ directories.Nodup ∧
      (∀ n, n ∈ files ↔ tree.HasFile top n ∧ tail.toList <:+ n) ∧
      (∀ n, n ∈ directories ↔ tree.HasDirectory top n ∧ tail.toList <:+ n) ∧
      tree.countEndingWith dir tail = files.length + directories.length := by
  obtain ⟨start, hstart⟩ := Option.isSome_iff_exists.mp hlisting
  let found := tree.namesEndingWith top tail.toList
  have hnodup : found.Nodup := nodup_names.filter _
  refine ⟨found.filter (¬tree.HasDirectory top ·), found.filter (tree.HasDirectory top ·),
    hnodup.filter _, hnodup.filter _, fun n => ?_, fun n => ?_, ?_⟩
  · rw [List.mem_filter, mem_namesEndingWith_iff, decide_eq_true_eq]
    constructor
    · rintro ⟨⟨hfile | hdirectory, htail⟩, hnot⟩
      · exact ⟨hfile, htail⟩
      · exact absurd hdirectory hnot
    · rintro ⟨hfile, htail⟩
      exact ⟨⟨.inl hfile, htail⟩, hfile.not_hasDirectory⟩
  · rw [List.mem_filter, mem_namesEndingWith_iff, decide_eq_true_eq]
    constructor
    · rintro ⟨⟨-, htail⟩, hdirectory⟩
      exact ⟨hdirectory, htail⟩
    · rintro ⟨hdirectory, htail⟩
      exact ⟨⟨.inr hdirectory, htail⟩, hdirectory⟩
  · have hcount : tree.countEndingWith dir tail = found.length := by
      rw [countEndingWith, hstart, htop]
      exact List.countP_eq_length_filter
    have hsplit := List.length_eq_length_filter_add (l := found) (fun n =>
      decide (tree.HasDirectory top n))
    simp only [decide_not]
    omega

end FileTree

namespace Checker

/-- **The number of data files.** The data check of a directory gives a number. Where the paths in the
directory can be listed, it is the number of the files and the directories right in the directory
whose names end with `.csv`; so it is the number of these files exactly if no directory there has such
a name. Where they cannot be listed, it is zero. -/
theorem checkData_files (checker : Checker) {tree : FileTree} {dir : Path} (root : Path)
    (hdir : tree.isDirectory dir = true) :
    ∃ top report, tree.locate? dir = some top ∧ checker.checkData tree dir root = .ok report ∧
      (dir.listing?.isSome = true → ∃ files directories : List Text,
        files.Nodup ∧ directories.Nodup ∧
        (∀ n, n ∈ files ↔ tree.HasFile top n ∧ ".csv".toList <:+ n) ∧
        (∀ n, n ∈ directories ↔ tree.HasDirectory top n ∧ ".csv".toList <:+ n) ∧
        report.files = files.length + directories.length ∧
        (report.files = files.length ↔
          ∀ n, tree.HasDirectory top n → ¬".csv".toList <:+ n)) ∧
      (dir.listing? = none → report.files = 0) := by
  have htop : ∃ top, tree.locate? dir = some top := by
    rw [FileTree.isDirectory, FileTree.node?] at hdir
    cases hlocate : tree.locate? dir with
    | none =>
        rw [hlocate] at hdir
        cases hdir
    | some top => exact ⟨top, rfl⟩
  obtain ⟨top, htop⟩ := htop
  refine ⟨top, _, htop, if_pos hdir, fun hlisting => ?_, fun hlisting => ?_⟩
  · obtain ⟨files, directories, hnodup, hnodup', hfiles, hdirectories, hcount⟩ :=
      FileTree.countEndingWith_eq ".csv" hlisting htop
    refine ⟨files, directories, hnodup, hnodup', hfiles, hdirectories, hcount, ?_⟩
    have hnone : directories = [] ↔ ∀ n, tree.HasDirectory top n → ¬".csv".toList <:+ n := by
      simp only [List.eq_nil_iff_forall_not_mem, hdirectories, not_and]
    rw [← hnone, ← List.length_eq_zero_iff, hcount]
    exact Nat.add_eq_left
  · show tree.countEndingWith dir ".csv" = 0
    rw [FileTree.countEndingWith, hlisting]

/-- A directory whose name is made of characters that mean something in patterns, with a file whose
name is nothing but the ending, a directory with the ending, and a file below that. -/
theorem checkData_files_pattern :
    let name : Text := "[a]*?".toList
    let tree : FileTree := ⟨[([name, ".csv".toList], .file []), ([name, "a.csv".toList], .file []),
      ([name, "a.csv.bak".toList], .file []), ([name, "old.csv".toList, "b.csv".toList], .file [])],
      []⟩
    tree.isDirectory ⟨name⟩ = true ∧
      ∃ (report : DataReport) (files directories : List Text),
        plain.checkData tree ⟨name⟩ ⟨[]⟩ = .ok report ∧ report.files = 3 ∧
        (∀ n, n ∈ files ↔ tree.HasFile [name] n ∧ ".csv".toList <:+ n) ∧
        (∀ n, n ∈ directories ↔ tree.HasDirectory [name] n ∧ ".csv".toList <:+ n) ∧
        report.files = files.length + directories.length ∧ report.files ≠ files.length := by
  intro name tree
  have hdir : tree.isDirectory ⟨name⟩ = true := by decide +kernel
  obtain ⟨top, report, htop, hreport, hcount, -⟩ := plain.checkData_files ⟨[]⟩ hdir
  obtain ⟨files, directories, -, -, hfiles, hdirectories, hsum, honly⟩ := hcount (by decide +kernel)
  obtain rfl : [name] = top := by
    rw [show tree.locate? ⟨name⟩ = some [name] by decide +kernel] at htop
    exact Option.some.inj htop
  have hthree : report.files = 3 := by
    rw [checkData, if_pos hdir] at hreport
    rw [← Except.ok.inj hreport]
    decide +kernel
  have hold : tree.HasDirectory [name] "old.csv".toList := by decide +kernel
  exact ⟨hdir, report, files, directories, hreport, hthree, hfiles, hdirectories, hsum,
    fun hsame => honly.mp hsame _ hold (by decide)⟩

/-- A data directory with one data file and a directory whose name has the ending: two are counted. -/
theorem checkData_files_directory :
    let tree : FileTree := ⟨[(["data".toList, "a.csv".toList], .file []),
      (["data".toList, "old.csv".toList, "b.csv".toList], .file [])], []⟩
    let data : Path := ⟨"data".toList⟩
    tree.isDirectory data = true ∧ data.listing?.isSome = true ∧
      ∃ report, plain.checkData tree data ⟨[]⟩ = .ok report ∧ report.files = 2 ∧
        ∀ n, tree.HasFile ["data".toList] n → n = "a.csv".toList := by
  intro tree data
  have hdir : tree.isDirectory data = true := by decide +kernel
  refine ⟨hdir, by decide +kernel, _, if_pos hdir, by decide +kernel, ?_⟩
  rintro n ⟨content, hcontent⟩
  have hentry : n = "a.csv".toList ∧ content = [] := by
    simpa [tree] using FileTree.mem_entries_of_at? hcontent
  exact hentry.1

end Checker

end PageLint
