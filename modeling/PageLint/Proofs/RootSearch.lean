import PageLint.Proofs.Splitting
import PageLint.Settings

/-!
# The search for the root directory

The search begins at a starting point and goes up from directory to directory until it meets a mark
of a root directory: a configuration file or a repository. The way up is that of the text of the path
(`Path.Climbs`): it ends at a path above which none is written. Each directory is written in a shorter
text than the one below it (`Path.length_lt_of_parent?`), so the bound on the number of directories is
never met.

## Main results

* `Path.climbs_iff`: the directories that are searched are all those on the way up.
* `FileTree.isRootFor_iff`: **the root directory** is the first of them with a mark, or the starting
  point.
-/

namespace PageLint

/-! ### The length of a path -/

namespace Path

/-- A path is put together of its pieces. -/
theorem ofPieces_split (p : Path) : ofPieces p.split.1 p.split.2 = p := by
  rw [split]
  split
  · next t ht => simp [ofPieces, Step.text, Text.join_splitOn, ← ht]
  · next ht => simp [ofPieces, Step.text, Text.join, ← ht]
  · next t ht => simp [ofPieces, Step.text, Text.join_splitOn, ← ht]
  · simp [ofPieces, Text.join_splitOn]

/-- The pieces that are left without the fillers at the end are the first ones. -/
theorem trimEnd_prefix (pieces : List Text) : trimEnd pieces <+: pieces := by
  rw [trimEnd, ← List.reverse_suffix, List.reverse_reverse]
  exact List.dropWhile_suffix _

/-- The last piece that is left is no filler. -/
theorem not_isFiller_of_trimEnd {pieces front : List Text} {piece : Text}
    (h : trimEnd pieces = front ++ [piece]) : isFiller piece = false := by
  have hreverse : pieces.reverse.dropWhile isFiller = piece :: front.reverse := by
    rw [← List.reverse_reverse (pieces.reverse.dropWhile isFiller), ← trimEnd, h]
    simp
  have hnot := List.head?_dropWhile_not isFiller pieces.reverse
  rw [hreverse] at hnot
  simpa using hnot

/-- Above a path, the last piece that is no filler is taken off. -/
theorem parent?_of_trimEnd {p : Path} {front : List Text} {piece : Text}
    (h : trimEnd p.split.2 = front ++ [piece]) :
    p.parent? = some (ofPieces p.split.1 (trimEnd front)) := by
  obtain ⟨first, rest, hcons⟩ := List.exists_cons_of_ne_nil
    (List.append_ne_nil_of_right_ne_nil front (List.cons_ne_nil piece []))
  rw [parent?]
  simp only [h.trans hcons]
  rw [← hcons, List.dropLast_concat]

/-- The directory above a path. A path that leads nowhere, but is written, has the empty path above
it. -/
theorem parent?_eq_some_iff {p q : Path} : p.parent? = some q ↔
    (trimEnd p.split.2 = [] ∧ p.split.1 = some .current ∧ q = ⟨[]⟩) ∨
      ∃ front piece, trimEnd p.split.2 = front ++ [piece] ∧
        q = ofPieces p.split.1 (trimEnd front) := by
  constructor
  · intro h
    rcases List.eq_nil_or_concat (trimEnd p.split.2) with htrim | ⟨front, piece, htrim⟩
    · rw [parent?] at h
      simp only [htrim] at h
      split at h
      · next hstart => exact Or.inl ⟨htrim, hstart, (Option.some.inj h).symm⟩
      · cases h
    · rw [List.concat_eq_append] at htrim
      have hparent := (parent?_of_trimEnd htrim).symm.trans h
      exact Or.inr ⟨front, piece, htrim, (Option.some.inj hparent).symm⟩
  · rintro (⟨htrim, hstart, rfl⟩ | ⟨front, piece, htrim, rfl⟩)
    · rw [parent?]
      simp only [htrim]
      rw [if_pos hstart]
    · exact parent?_of_trimEnd htrim

/-- **The directory above is written in a shorter text.** -/
theorem length_lt_of_parent? {p q : Path} (h : p.parent? = some q) :
    q.text.length < p.text.length := by
  have hp := congrArg (·.text.length) (ofPieces_split p)
  simp only [ofPieces, List.length_append, Text.length_join] at hp
  rcases parent?_eq_some_iff.mp h with ⟨-, hstart, rfl⟩ | ⟨front, piece, htrim, rfl⟩
  · rw [← hp, hstart, Option.map_some, Option.getD_some, Step.text]
    exact Nat.lt_of_lt_of_le Nat.zero_lt_one (Nat.le_add_right 1 _)
  · obtain ⟨rest, hrest⟩ := trimEnd_prefix p.split.2
    obtain ⟨fillers, hfront⟩ := trimEnd_prefix front
    have hpiece : 0 < piece.length := by
      refine List.length_pos_iff.mpr fun hnil => ?_
      have hfiller := not_isFiller_of_trimEnd htrim
      rw [hnil] at hfiller
      cases hfiller
    have hpieces := congrArg (fun ps : List Text => (ps.flatMap ('/' :: ·)).length) hrest
    have hfronts := congrArg (fun ps : List Text => (ps.flatMap ('/' :: ·)).length) hfront
    rw [htrim] at hpieces
    simp only [List.flatMap_append, List.flatMap_singleton, List.length_append, List.length_cons]
      at hpieces hfronts
    simp only [ofPieces, List.length_append, Text.length_join]
    omega

/-! ### The way up -/

/-- The way up from a path: the path itself, the directory above it, and so on, until there is none
above. -/
inductive Climbs : Path → List Path → Prop where
  /-- There is no directory above. -/
  | top {p : Path} : p.parent? = none → Climbs p [p]
  /-- The way goes on with the directory above. -/
  | up {p q : Path} {dirs : List Path} : p.parent? = some q → Climbs q dirs → Climbs p (p :: dirs)

/-- There is only one way up. -/
theorem Climbs.unique {p : Path} {dirs dirs' : List Path} (h : Climbs p dirs)
    (h' : Climbs p dirs') : dirs = dirs' := by
  induction h generalizing dirs' with
  | top hnone =>
      cases h' with
      | top => rfl
      | up hsome => rw [hnone] at hsome; cases hsome
  | up hsome _ ih =>
      cases h' with
      | top hnone => rw [hnone] at hsome; cases hsome
      | up hsome' hdirs' =>
          obtain rfl := Option.some.inj (hsome.symm.trans hsome')
          rw [ih hdirs']

/-- The bound on the directories is not met: there are no more of them than characters. -/
theorem climbs_chain {p : Path} {fuel : Nat} (h : p.text.length ≤ fuel) :
    Climbs p (p.chain fuel) := by
  induction fuel generalizing p with
  | zero =>
      refine Climbs.top (Option.eq_none_iff_forall_ne_some.mpr fun q hq => ?_)
      have hlt := length_lt_of_parent? hq
      omega
  | succ fuel ih =>
      rw [chain]
      cases hparent : p.parent? with
      | none => exact Climbs.top hparent
      | some q =>
          have hlt := length_lt_of_parent? hparent
          exact Climbs.up hparent (ih (by omega))

/-- **The way up** is what is searched. -/
theorem climbs_iff {p : Path} {dirs : List Path} : Climbs p dirs ↔ dirs = p.upward := by
  have hupward : Climbs p p.upward := climbs_chain (Nat.le_refl _)
  exact ⟨fun h => h.unique hupward, fun h => h ▸ hupward⟩

end Path

/-! ### The root directory -/

namespace FileTree

variable {tree : FileTree} {start root : Path}

/-- Does the directory hold a mark of a root directory: anything by the name of a configuration file
or of a repository? -/
def HoldsMark (tree : FileTree) (dir : Path) : Prop :=
  ∃ name ∈ ["vizlint.toml", "vizlint.yaml", "vizlint.yml", ".git"],
    tree.holds (dir.join (Path.ofString name)) = true

/-- Is a path the root directory for a starting point: the first with a mark on the way up, or the
starting point if there is no mark on the way? -/
def IsRootFor (tree : FileTree) (start root : Path) : Prop :=
  ∃ dirs, Path.Climbs start dirs ∧
    ((∃ below above, dirs = below ++ root :: above ∧ tree.HoldsMark root ∧
        ∀ dir ∈ below, ¬tree.HoldsMark dir) ∨
      root = start ∧ ∀ dir ∈ dirs, ¬tree.HoldsMark dir)

/-- The search asks for the marks. -/
theorem isRoot_iff {dir : Path} : tree.isRoot dir = true ↔ tree.HoldsMark dir := by
  rw [isRoot, List.any_eq_true]
  rfl

/-- **What the root directory is.** -/
theorem isRootFor_iff : tree.IsRootFor start root ↔ tree.root start = root := by
  have hmark : ∀ dir, (!tree.isRoot dir) = true ↔ ¬tree.HoldsMark dir := fun dir => by
    rw [Bool.not_eq_true', ← Bool.not_eq_true, isRoot_iff]
  have hfirst : ∀ dir, start.upward.find? tree.isRoot = some dir ↔ tree.HoldsMark dir ∧
      ∃ below above, start.upward = below ++ dir :: above ∧ ∀ d ∈ below, ¬tree.HoldsMark d := by
    simp only [List.find?_eq_some_iff_append, isRoot_iff, hmark, implies_true]
  have hnone : start.upward.find? tree.isRoot = none ↔
      ∀ dir ∈ start.upward, ¬tree.HoldsMark dir := by
    simp only [List.find?_eq_none, isRoot_iff]
  simp only [IsRootFor, Path.climbs_iff, exists_eq_left, FileTree.root]
  constructor
  · rintro (⟨below, above, hdirs, hroot, hbelow⟩ | ⟨rfl, hclear⟩)
    · rw [(hfirst root).mpr ⟨hroot, below, above, hdirs, hbelow⟩, Option.getD_some]
    · rw [hnone.mpr hclear, Option.getD_none]
  · rintro rfl
    cases hfind : start.upward.find? tree.isRoot with
    | none => exact Or.inr ⟨rfl, hnone.mp hfind⟩
    | some dir =>
        obtain ⟨hdir, below, above, hdirs, hbelow⟩ := (hfirst dir).mp hfind
        exact Or.inl ⟨below, above, hdirs, hdir, hbelow⟩

end FileTree

end PageLint
