import PageLint.Proofs.RootSearch

/-!
# Paths below a root directory

Findings name a file by the way that leads to it from the root directory (`Path.Way`): one or more
steps with single slashes between them. The path that is shown is computed from two texts, that of the
root directory and that of the file. Joining puts texts together, with a slash between them where the
first does not end with one; what is taken off again are steps, and a text may hold more slashes and
points than it has steps. So a path is followed here by its pieces: joining appends the pieces of the
way to those of the root directory, up to pieces that are no steps (`Path.split_join`).

## Main results

* `Path.steps_eq_nil_iff`: only the empty path has no steps.
* `Path.split_join`, `Path.steps_join`: the pieces and the steps of a path below a directory.
* `Path.below?_join`: what is below a directory is the way that was joined to it.
* `Path.display_join`: **files below the root directory are shown by their ways**, so different ones
  are shown differently.
-/

namespace PageLint.Path

/-! ### Ways -/

/-- Is the piece between two slashes a step, and written as it is shown? It may also lead up. -/
structure IsStep (piece : Text) : Prop where
  /-- An empty piece is none. -/
  ne_nil : piece ≠ []
  /-- A single point is none. -/
  ne_point : piece ≠ ['.']
  /-- A slash ends a piece. -/
  slash_notMem : '/' ∉ piece
  /-- A backslash is shown as a slash. -/
  backslash_notMem : '\\' ∉ piece

instance : DecidablePred IsStep := fun piece =>
  decidable_of_iff (piece ≠ [] ∧ piece ≠ ['.'] ∧ '/' ∉ piece ∧ '\\' ∉ piece)
    ⟨fun ⟨hempty, hpoint, hslash, hback⟩ => ⟨hempty, hpoint, hslash, hback⟩,
      fun h => ⟨h.ne_nil, h.ne_point, h.slash_notMem, h.backslash_notMem⟩⟩

/-- A way from a directory to a file: one or more steps. -/
@[ext] structure Way where
  /-- The pieces between the slashes. -/
  pieces : List Text
  /-- There is a step. -/
  pieces_ne_nil : pieces ≠ []
  /-- Each piece is a step. -/
  isStep : ∀ piece ∈ pieces, IsStep piece

/-- The way as it is written, with single slashes. -/
def Way.path (w : Way) : Path := ⟨Text.join ['/'] w.pieces⟩

/-- A step of a path is neither empty nor a dot. -/
theorem IsStep.not_isFiller {piece : Text} (h : IsStep piece) : isFiller piece = false := by
  rw [isFiller, beq_eq_false_iff_ne.mpr h.ne_nil, beq_eq_false_iff_ne.mpr h.ne_point, Bool.or_false]

/-- A way is read back by its pieces. -/
theorem Way.splitOn_path (w : Way) : Text.splitOn '/' w.path.text = w.pieces :=
  Text.splitOn_join w.pieces_ne_nil fun piece hpiece => (w.isStep piece hpiece).slash_notMem

/-- A way begins with a step. -/
theorem Way.exists_cons (w : Way) : ∃ first rest, w.pieces = first :: rest ∧ IsStep first := by
  obtain ⟨first, rest, hpieces⟩ := List.exists_cons_of_ne_nil w.pieces_ne_nil
  exact ⟨first, rest, hpieces, w.isStep first (hpieces ▸ List.mem_cons_self)⟩

/-- No backslash is written in a way. -/
theorem Way.backslash_notMem (w : Way) : '\\' ∉ w.path.text := by
  obtain ⟨first, rest, hpieces, hfirst⟩ := w.exists_cons
  have hrest : ∀ piece ∈ rest, IsStep piece := fun piece hpiece =>
    w.isStep piece (hpieces ▸ List.mem_cons_of_mem first hpiece)
  rw [path, hpieces, Text.join_cons, List.mem_append, List.mem_flatMap, not_or]
  refine ⟨hfirst.backslash_notMem, ?_⟩
  rintro ⟨piece, hpiece, hmem⟩
  rcases List.mem_cons.mp hmem with hslash | hmem
  · cases hslash
  · exact (hrest piece hpiece).backslash_notMem hmem

/-! ### Pieces and steps -/

/-- How a path begins: with a slash, with a piece of one point, or with a step by name. -/
theorem text_cases (t : Text) : t = [] ∨ (∃ s, t = '/' :: s) ∨ t = ['.'] ∨
    (∃ s, t = '.' :: '/' :: s) ∨
    ∃ first rest, Text.splitOn '/' t = first :: rest ∧ isFiller first = false := by
  obtain ⟨first, rest, hpieces⟩ := List.exists_cons_of_ne_nil (Text.splitOn_ne_nil '/' t)
  have htext : t = first ++ rest.flatMap ('/' :: ·) := by
    rw [← Text.join_splitOn '/' t, hpieces, Text.join_cons]
    rfl
  cases hfirst : isFiller first with
  | false => exact Or.inr (Or.inr (Or.inr (Or.inr ⟨first, rest, hpieces, hfirst⟩)))
  | true =>
      rw [isFiller, Bool.or_eq_true, beq_iff_eq, beq_iff_eq] at hfirst
      rcases hfirst with rfl | rfl
      · cases rest with
        | nil => exact Or.inl htext
        | cons piece rest => exact Or.inr (Or.inl ⟨_, htext⟩)
      · cases rest with
        | nil => exact Or.inr (Or.inr (Or.inl htext))
        | cons piece rest => exact Or.inr (Or.inr (Or.inr (Or.inl ⟨_, htext⟩)))

/-- A path that begins with a step by name has the pieces between its slashes. -/
theorem split_of_head {t first : Text} {rest : List Text}
    (h : Text.splitOn '/' t = first :: rest) (hfirst : isFiller first = false) :
    split ⟨t⟩ = (none, first :: rest) := by
  rw [split]
  split
  · next s hs =>
    obtain rfl : t = '/' :: s := hs
    obtain ⟨rfl, -⟩ := List.cons.inj h
    cases hfirst
  · next hs =>
    obtain rfl : t = ['.'] := hs
    obtain ⟨rfl, -⟩ := List.cons.inj h
    cases hfirst
  · next s hs =>
    obtain rfl : t = '.' :: '/' :: s := hs
    obtain ⟨rfl, -⟩ := List.cons.inj h
    cases hfirst
  · rw [h]

/-- **Only the empty path has no steps.** -/
theorem steps_eq_nil_iff {p : Path} : p.steps = [] ↔ p.text = [] := by
  obtain ⟨t⟩ := p
  constructor
  · intro h
    rcases text_cases t with rfl | ⟨s, rfl⟩ | rfl | ⟨s, rfl⟩ | ⟨first, rest, hpieces, hfirst⟩
    · rfl
    · cases h
    · cases h
    · cases h
    · rw [steps, split_of_head hpieces hfirst] at h
      simp [hfirst] at h
  · rintro rfl
    rfl

/-- A slash behind a text ends its last piece. -/
theorem split_append_slash {dir : Text} (hdir : dir ≠ []) (t : Text) :
    split ⟨dir ++ '/' :: t⟩ = ((split ⟨dir⟩).1, (split ⟨dir⟩).2 ++ Text.splitOn '/' t) := by
  rcases text_cases dir with rfl | ⟨s, rfl⟩ | rfl | ⟨s, rfl⟩ | ⟨first, rest, hpieces, hfirst⟩
  · exact absurd rfl hdir
  · exact congrArg (Prod.mk (some Step.root)) (Text.splitOn_append_cons '/' s t)
  · exact congrArg (Prod.mk (some Step.current)) (Text.splitOn_append_cons '/' [] t)
  · exact congrArg (Prod.mk (some Step.current)) (Text.splitOn_append_cons '/' ('/' :: s) t)
  · have hall : Text.splitOn '/' (dir ++ '/' :: t) = first :: (rest ++ Text.splitOn '/' t) := by
      rw [Text.splitOn_append_cons, hpieces, List.cons_append]
    rw [split_of_head hall hfirst, split_of_head hpieces hfirst, List.cons_append]

/-- The pieces that are steps. -/
def stepPieces (pieces : List Text) : List Text := pieces.filter (!isFiller ·)

/-- **The pieces of a path below a directory** are those of the directory, up to one at the end that is
no step, and then its own. -/
theorem split_join {base p : Path} (hbase : base.text ≠ []) (hp : p.isAbsolute = false) :
    ∃ front, (base.join p).split = (base.split.1, front ++ Text.splitOn '/' p.text) ∧
      stepPieces front = stepPieces base.split.2 := by
  obtain ⟨b⟩ := base
  have hjoin : ¬(p.isAbsolute = true ∨ b = []) := by simp [hp, hbase]
  rw [join, if_neg hjoin]
  split
  next hslash =>
    obtain ⟨dir, rfl⟩ : ∃ dir, b = dir ++ ['/'] := List.getLast?_eq_some_iff.mp hslash
    simp only [List.append_assoc, List.singleton_append]
    cases dir with
    | nil => exact ⟨[], rfl, rfl⟩
    | cons c dir =>
        have hne : c :: dir ≠ [] := List.cons_ne_nil c dir
        refine ⟨(split ⟨c :: dir⟩).2, ?_, ?_⟩
        · rw [split_append_slash hne, split_append_slash hne]
        · rw [split_append_slash hne, stepPieces, stepPieces, List.filter_append]
          exact (List.append_nil _).symm
  next => exact ⟨_, split_append_slash hbase p.text, rfl⟩

/-- The steps of a path below a directory are those of the directory and then its own. -/
theorem steps_join {base p : Path} (hbase : base.text ≠ []) (hp : p.isAbsolute = false) :
    (base.join p).steps =
      base.steps ++ (stepPieces (Text.splitOn '/' p.text)).map Step.ofPiece := by
  obtain ⟨front, hjoin, hfront⟩ := split_join hbase hp
  have hsteps : ∀ q : Path, q.steps = q.split.1.toList ++ (stepPieces q.split.2).map Step.ofPiece :=
    fun q => rfl
  have happend : stepPieces (front ++ Text.splitOn '/' p.text) =
      stepPieces base.split.2 ++ stepPieces (Text.splitOn '/' p.text) := by
    rw [stepPieces, List.filter_append]
    exact congrArg (· ++ _) hfront
  rw [hsteps, hsteps base, hjoin, happend, List.map_append, List.append_assoc]

/-! ### What is below a directory -/

/-- An empty piece or a dot is passed over without counting as a step. -/
theorem dropSteps_cons_of_isFiller (n : Nat) {piece : Text} (h : isFiller piece = true)
    (pieces : List Text) : dropSteps n (piece :: pieces) = dropSteps n pieces := by
  cases n with
  | zero => exact if_pos h
  | succ n => exact if_pos h

/-- Behind as many steps as there are in the first pieces, the next step begins. -/
theorem dropSteps_append (front : List Text) {first : Text} {rest : List Text}
    (hfirst : isFiller first = false) :
    dropSteps (stepPieces front).length (front ++ first :: rest) = first :: rest := by
  induction front with
  | nil => simp [stepPieces, dropSteps, hfirst]
  | cons piece front ih =>
      cases hpiece : isFiller piece with
      | true =>
          have hsteps : stepPieces (piece :: front) = stepPieces front :=
            List.filter_cons_of_neg (by simp [hpiece])
          rw [List.cons_append, hsteps, dropSteps_cons_of_isFiller _ hpiece, ih]
      | false =>
          have hsteps : stepPieces (piece :: front) = piece :: stepPieces front :=
            List.filter_cons_of_pos (by simp [hpiece])
          rw [List.cons_append, hsteps, List.length_cons, dropSteps, hpiece]
          exact ih

/-- A way does not start at the root of the file system. -/
theorem Way.not_isAbsolute (w : Way) : w.path.isAbsolute = false := by
  refine Bool.eq_false_iff.mpr fun habsolute => ?_
  obtain ⟨t, ht⟩ := List.head?_eq_some_iff.mp (beq_iff_eq.mp habsolute)
  have hpieces := w.splitOn_path
  rw [ht] at hpieces
  exact (w.isStep [] (hpieces ▸ List.mem_cons_self)).ne_nil rfl

/-- Nothing is taken off the end of a way. -/
theorem Way.trimEnd_append (w : Way) (front : List Text) :
    trimEnd (front ++ w.pieces) = front ++ w.pieces := by
  obtain ⟨init, last, hpieces⟩ : ∃ init last, w.pieces = init ++ [last] :=
    ⟨_, _, (List.dropLast_concat_getLast w.pieces_ne_nil).symm⟩
  have hlast : isFiller last = false := (w.isStep last (by simp [hpieces])).not_isFiller
  rw [hpieces, trimEnd, ← List.append_assoc, List.reverse_append, List.reverse_singleton,
    List.singleton_append, List.dropWhile_cons_of_neg (by simp [hlast]), List.reverse_cons,
    List.reverse_reverse]

/-- **What is below a directory** is the way that was joined to it. -/
theorem below?_join (base : Path) (w : Way) : (base.join w.path).below? base = some w.path := by
  obtain ⟨first, rest, hpieces, hstep⟩ := w.exists_cons
  have hfirst := hstep.not_isFiller
  have hway : ofPieces none w.pieces = w.path := rfl
  by_cases hbase : base.text = []
  · have hnone : base.steps = [] := steps_eq_nil_iff.mpr hbase
    have hjoin : base.join w.path = w.path := if_pos (Or.inr hbase)
    have hsplit : w.path.split = (none, w.pieces) := by
      rw [hpieces]
      exact split_of_head (w.splitOn_path.trans hpieces) hfirst
    have htrim := w.trimEnd_append []
    rw [List.nil_append] at htrim
    rw [below?, hjoin, hnone, if_pos List.isPrefixOf_nil_left, hsplit]
    simp only [if_pos, htrim, hway]
  · obtain ⟨front, hjoin, hfront⟩ := split_join hbase w.not_isAbsolute
    rw [w.splitOn_path] at hjoin
    have hprefix : base.steps.isPrefixOf (base.join w.path).steps = true := by
      rw [List.isPrefixOf_iff_prefix, steps_join hbase w.not_isAbsolute]
      exact List.prefix_append _ _
    have hcount : base.steps.length - base.split.1.toList.length = (stepPieces front).length := by
      rw [hfront, steps, List.length_append, List.length_map, Nat.add_sub_cancel_left]
      rfl
    have hdrop : dropSteps (stepPieces front).length (front ++ w.pieces) = w.pieces := by
      rw [hpieces, dropSteps_append front hfirst]
    rw [below?, if_pos hprefix, hjoin]
    simp only [if_neg (mt steps_eq_nil_iff.mp hbase), w.trimEnd_append, hcount, hdrop, hway]

/-! ### What is shown -/

/-- Ways are told apart by how they are written. -/
theorem Way.str_inj {w w' : Way} : w.path.str = w'.path.str ↔ w = w' := by
  refine ⟨fun h => ?_, fun h => h ▸ rfl⟩
  have htext : w.path.text = w'.path.text := String.ofList_injective h
  exact Way.ext (by rw [← w.splitOn_path, htext, w'.splitOn_path])

/-- **Files below the root directory are shown by their ways.** Whatever the text of the root directory
is, and also where it is empty, a path that was joined to it is shown as it was before. So two files
below one root directory are shown alike only if they are the same. -/
theorem display_join (root : Path) (w : Way) :
    (root.join w.path).display root = w.path.str ∧
      ∀ w' : Way, (root.join w'.path).display root = (root.join w.path).display root ↔ w' = w := by
  have hshown : ∀ w : Way, (root.join w.path).display root = w.path.str := by
    intro w
    have hplain : w.path.text.map (fun c => if c = '\\' then '/' else c) = w.path.text := by
      have hkeep : ∀ c ∈ w.path.text, (if c = '\\' then '/' else c) = id c := by
        intro c hc
        refine if_neg ?_
        rintro rfl
        exact w.backslash_notMem hc
      rw [List.map_congr_left hkeep, List.map_id]
    rw [display, below?_join, Option.some_or, Option.getD_some, hplain]
    rfl
  refine ⟨hshown w, fun w' => ?_⟩
  rw [hshown, hshown, Way.str_inj]

/-- Two pages below a root directory that is written with pieces that are no steps, one that leads up, and
slashes at its end. -/
theorem display_join_pages :
    let root := ofString "./../site//."
    let depots : Way := ⟨["pages".toList, "a b".toList, "dépôts.md".toList], by decide, by decide⟩
    let lines : Way := ⟨["pages".toList, "lines.md".toList], by decide, by decide⟩
    root.join depots.path = ofString "./../site//./pages/a b/dépôts.md" ∧
      (root.join depots.path).display root = "pages/a b/dépôts.md" ∧
      (root.join lines.path).display root ≠ (root.join depots.path).display root := by
  intro root depots lines
  obtain ⟨hshown, hapart⟩ := display_join root depots
  have hne : lines ≠ depots := fun h => absurd (congrArg Way.pieces h) (by decide)
  exact ⟨by decide +kernel, hshown, mt (hapart lines).mp hne⟩

end PageLint.Path
