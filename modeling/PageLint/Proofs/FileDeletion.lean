import Mathlib.Data.List.Basic
import PageLint.FileTree

/-!
# Deleting a file

A file tree without one of its files (`FileTree.delete`): the entry of the file is taken out, and the
directory in which it was stays, even if nothing else is in it. In a tree in which files are leaves
(`FileTree.WellFormed`) this changes what is at the location of the file and nowhere else, and as only
directories can be passed, every path leads where it led before.

## Main results

* `FileTree.at?_remove`: what is at a location after the deletion.
* `FileTree.read?_delete`: **a deletion takes one file away** and leaves the bytes of all others as
  they are.
* `FileTree.isDirectory_delete`: directories stay.
-/

namespace PageLint.FileTree

/-- Files are leaves: there is no second entry at or below the location of a file, and the working
directory is not there either. -/
structure WellFormed (tree : FileTree) : Prop where
  /-- An entry at or below a file is the file. -/
  eq_of_isPrefix : ∀ l content, (l, Node.file content) ∈ tree.entries →
    ∀ entry ∈ tree.entries, l <+: entry.1 → entry = (l, .file content)
  /-- The working directory is no file and not below one. -/
  not_isPrefix : ∀ l content, (l, Node.file content) ∈ tree.entries →
    ¬l <+: tree.workingDirectory

/-- Whether files are leaves can be read off the entries. -/
theorem wellFormed_iff {tree : FileTree} :
    tree.WellFormed ↔ ∀ file ∈ tree.entries, file.2 ≠ .directory →
      (∀ entry ∈ tree.entries, file.1 <+: entry.1 → entry = file) ∧
        ¬file.1 <+: tree.workingDirectory := by
  constructor
  · rintro ⟨hentries, hwd⟩ ⟨l, node⟩ hmem hnode
    cases node with
    | file content => exact ⟨hentries l content hmem, hwd l content hmem⟩
    | directory => exact absurd rfl hnode
  · intro h
    exact ⟨fun l content hmem => (h _ hmem nofun).1, fun l content hmem => (h _ hmem nofun).2⟩

instance (tree : FileTree) : Decidable tree.WellFormed := decidable_of_iff _ wellFormed_iff.symm

/-- The tree without the entry at a location. The directory above it stays. -/
def remove (tree : FileTree) (l : Location) : FileTree :=
  { tree with entries := tree.entries.filter (·.1 != l) ++ [(l.dropLast, .directory)] }

/-- The tree without the file at a path. -/
def delete (tree : FileTree) (p : Path) : FileTree :=
  match tree.locate? p with
  | some l => tree.remove l
  | none => tree

variable {tree : FileTree} {l : Location} {content : Bytes}

/-- A file that is at a location has an entry. -/
theorem mem_entries_of_at? (h : tree.at? l = some (.file content)) :
    (l, Node.file content) ∈ tree.entries := by
  rw [at?] at h
  split at h
  · next entry hentry =>
    obtain rfl : entry.1 = l := by simpa using List.find?_some hentry
    have hmem := List.mem_of_find?_eq_some hentry
    rwa [← Option.some.inj h]
  · split at h <;> cases h

/-- The location of a file is not the root. -/
theorem WellFormed.ne_nil (htree : tree.WellFormed) (h : tree.at? l = some (.file content)) :
    l ≠ [] := by
  rintro rfl
  exact htree.not_isPrefix _ _ (mem_entries_of_at? h) List.nil_prefix

/-- What is above a location or at it, except for that location itself, is above the last step to it or
at it. -/
theorem isPrefix_dropLast_iff {m : Location} (hne : m ≠ l) : m <+: l.dropLast ↔ m <+: l := by
  refine ⟨fun h => h.trans (List.dropLast_prefix l), ?_⟩
  rintro ⟨rest, rfl⟩
  have hrest : rest ≠ [] := by
    rintro rfl
    exact hne (List.append_nil m).symm
  rw [List.dropLast_append_of_ne_nil hrest]
  exact List.prefix_append m _

/-- The entry at the removed location is gone, the directory above it has one, and the others are as
they were. -/
theorem find?_remove (m : Location) :
    (tree.remove l).entries.find? (·.1 == m) =
      (if m = l then none else tree.entries.find? (·.1 == m)).or
        (if m = l.dropLast then some (l.dropLast, .directory) else none) := by
  have hdirectory : [(l.dropLast, Node.directory)].find? (·.1 == m) =
      if m = l.dropLast then some (l.dropLast, .directory) else none := by
    by_cases hm : m = l.dropLast
    · simp [hm]
    · simp [hm, Ne.symm hm]
  have hother : (tree.entries.filter (·.1 != l)).find? (·.1 == m) =
      if m = l then none else tree.entries.find? (·.1 == m) := by
    rw [List.find?_filter]
    by_cases hm : m = l
    · subst hm
      simp
    · rw [if_neg hm]
      congr 1
      funext entry
      by_cases hentry : entry.1 = m
      · simp [hentry, hm]
      · simp [hentry]
  rw [remove, List.find?_append, hother, hdirectory]

/-- What lies above the removed location or somewhere else still has something below it. -/
theorem any_isPrefixOf_remove (h : (l, Node.file content) ∈ tree.entries) {m : Location}
    (hne : m ≠ l) :
    (tree.remove l).entries.any (fun entry => m.isPrefixOf entry.1) =
      tree.entries.any fun entry => m.isPrefixOf entry.1 := by
  rw [Bool.eq_iff_iff]
  simp only [remove, List.any_append, List.any_cons, List.any_nil, Bool.or_false, Bool.or_eq_true,
    List.any_eq_true, List.mem_filter, List.isPrefixOf_iff_prefix, isPrefix_dropLast_iff hne]
  constructor
  · rintro (⟨entry, ⟨hmem, -⟩, hbelow⟩ | hbelow)
    · exact ⟨entry, hmem, hbelow⟩
    · exact ⟨_, h, hbelow⟩
  · rintro ⟨entry, hmem, hbelow⟩
    by_cases hentry : entry.1 = l
    · exact Or.inr (hentry ▸ hbelow)
    · exact Or.inl ⟨entry, ⟨hmem, bne_iff_ne.mpr hentry⟩, hbelow⟩

/-- Nothing is left at or below the location of a file that is removed. -/
theorem not_any_isPrefixOf_remove (htree : tree.WellFormed)
    (h : tree.at? l = some (.file content)) :
    (tree.remove l).entries.any (fun entry => l.isPrefixOf entry.1) = false := by
  have hmem := mem_entries_of_at? h
  rw [← Bool.not_eq_true, List.any_eq_true]
  rintro ⟨entry, hentry, hbelow⟩
  rw [List.isPrefixOf_iff_prefix] at hbelow
  rcases List.mem_append.mp hentry with hentry | hentry
  · obtain ⟨hentry, hne⟩ := List.mem_filter.mp hentry
    obtain rfl := htree.eq_of_isPrefix _ _ hmem entry hentry hbelow
    exact bne_iff_ne.mp hne rfl
  · obtain rfl := List.mem_singleton.mp hentry
    have hlength := hbelow.length_le
    have hpos := List.length_pos_iff.mpr (htree.ne_nil h)
    rw [List.length_dropLast] at hlength
    omega

/-- **What is at a location** after a file was removed: nothing where the file was, and what was there
before at all other locations. -/
theorem at?_remove (htree : tree.WellFormed) (h : tree.at? l = some (.file content)) (m : Location) :
    (tree.remove l).at? m = if m = l then none else tree.at? m := by
  have hmem := mem_entries_of_at? h
  have hwd : (tree.remove l).workingDirectory = tree.workingDirectory := rfl
  by_cases hm : m = l
  · subst hm
    have hdrop : m ≠ m.dropLast := by
      intro heq
      have hlength := congrArg List.length heq
      have hpos := List.length_pos_iff.mpr (htree.ne_nil h)
      rw [List.length_dropLast] at hlength
      omega
    have hdirectory : m.isPrefixOf tree.workingDirectory = false := by
      rw [← Bool.not_eq_true, List.isPrefixOf_iff_prefix]
      exact htree.not_isPrefix _ _ hmem
    rw [at?, find?_remove, not_any_isPrefixOf_remove htree h, hwd, hdirectory]
    simp [hdrop]
  · rw [at?, at?, find?_remove, any_isPrefixOf_remove hmem hm, hwd, if_neg hm, if_neg hm]
    cases tree.entries.find? (·.1 == m) with
    | some entry => rfl
    | none =>
        by_cases hparent : m = l.dropLast
        · have habove : tree.entries.any (fun entry => m.isPrefixOf entry.1) = true :=
            List.any_eq_true.mpr
              ⟨_, hmem, List.isPrefixOf_iff_prefix.mpr (hparent ▸ List.dropLast_prefix l)⟩
          simp [hparent, hparent ▸ habove]
        · simp [hparent]

/-! ### Paths -/

/-- Directories stay, so what can be passed is as before. -/
theorem at?_remove_eq_directory_iff (htree : tree.WellFormed)
    (h : tree.at? l = some (.file content)) (m : Location) :
    (tree.remove l).at? m = some .directory ↔ tree.at? m = some .directory := by
  rw [at?_remove htree h]
  by_cases hm : m = l
  · simp [hm, h]
  · rw [if_neg hm]

/-- Steps lead where they led before. -/
theorem walk_remove (htree : tree.WellFormed) (h : tree.at? l = some (.file content))
    (m : Location) (steps : List Path.Step) : (tree.remove l).walk m steps = tree.walk m steps := by
  fun_induction tree.walk m steps with
  | case1 m => rw [walk]
  | case2 m steps ih => rw [walk, ih]
  | case3 m steps ih => rw [walk, ih]
  | case4 m steps hpass ih => rw [walk, if_pos ((at?_remove_eq_directory_iff htree h m).mpr hpass), ih]
  | case5 m steps hpass => rw [walk, if_neg (mt (at?_remove_eq_directory_iff htree h m).mp hpass)]
  | case6 m n steps hpass ih =>
      rw [walk, if_pos ((at?_remove_eq_directory_iff htree h m).mpr hpass), ih]
  | case7 m n steps hpass => rw [walk, if_neg (mt (at?_remove_eq_directory_iff htree h m).mp hpass)]

/-- Paths lead where they led before. -/
theorem locate?_remove (htree : tree.WellFormed) (h : tree.at? l = some (.file content)) (p : Path) :
    (tree.remove l).locate? p = tree.locate? p := by
  rw [locate?, locate?, walk_remove htree h]
  rfl

/-- What is at a path after a file was removed: nothing where the path led to the file. -/
theorem node?_remove (htree : tree.WellFormed) (h : tree.at? l = some (.file content)) (p : Path) :
    (tree.remove l).node? p = if tree.locate? p = some l then none else tree.node? p := by
  rw [node?, node?, locate?_remove htree h]
  cases hlocate : tree.locate? p with
  | none => simp
  | some m =>
      rw [Option.bind_some, Option.bind_some, at?_remove htree h]
      by_cases hm : m = l
      · simp [hm]
      · simp [hm]

/-- A path from which bytes are read leads to a file. -/
theorem exists_of_read? {p : Path} (h : tree.read? p = some content) :
    ∃ l, tree.locate? p = some l ∧ tree.at? l = some (.file content) := by
  rw [read?] at h
  split at h
  · next content' hnode =>
    obtain rfl := Option.some.inj h
    rw [node?] at hnode
    split at hnode
    · next content'' hat =>
      obtain ⟨l, hlocate, hfile⟩ := Option.bind_eq_some_iff.mp hat
      split at hnode
      · cases hnode
      · exact ⟨l, hlocate, hfile.trans hnode⟩
    · next hat =>
      exact absurd hnode (hat _)
  · cases h

/-- **A deletion takes one file away.** After the file at a path is deleted, nothing is read from the
paths that led to it, and every other path gives the bytes that it gave before. -/
theorem read?_delete (htree : tree.WellFormed) {p : Path} (h : tree.read? p = some content)
    (q : Path) : (tree.delete p).read? q =
      if tree.locate? q = tree.locate? p then none else tree.read? q := by
  obtain ⟨l, hlocate, hfile⟩ := exists_of_read? h
  rw [delete, hlocate]
  simp only [read?, node?_remove htree hfile]
  by_cases hq : tree.locate? q = some l
  · simp [hq]
  · simp [hq]

/-- A deletion of a file leaves all directories. -/
theorem isDirectory_delete (htree : tree.WellFormed) {p : Path} (h : tree.read? p = some content)
    (q : Path) : (tree.delete p).isDirectory q = tree.isDirectory q := by
  obtain ⟨l, hlocate, hfile⟩ := exists_of_read? h
  rw [delete, hlocate]
  simp only [isDirectory, node?_remove htree hfile]
  by_cases hq : tree.locate? q = some l
  · have hnode : tree.node? q ≠ some .directory := by
      rw [node?, hq, Option.bind_some, hfile]
      split <;> simp
    simp [hq, hnode]
  · simp [hq]

end PageLint.FileTree
