import PageLint.Text.Basic

/-!
# Paths

A path is kept as it was written, because it is shown that way. What it means is a sequence of
steps: to the root, nowhere, up, or to a name. Empty pieces between slashes, and pieces of a single
point behind the beginning, are no steps.

* `Path.join`, `Path.parent?`: a path below another, and the path above it.
* `Path.display`: how a path is shown in findings: from a root directory on when it is below it.
* `Path.listing?`: how the paths of what is in a directory begin.
-/

namespace PageLint

/-- The path of a file or a directory, as it is written. -/
structure Path where
  /-- The text. -/
  text : Text
  deriving DecidableEq, Repr

namespace Path

/-- A step on the way that a path describes. -/
inductive Step where
  /-- To the root of the file system. -/
  | root
  /-- Nowhere. -/
  | current
  /-- To the directory above. -/
  | parent
  /-- To an entry of a directory. -/
  | name (n : Text)
  deriving DecidableEq, Repr

namespace Step

/-- The step as it is written. -/
def text : Step → Text
  | root => ['/']
  | current => ['.']
  | parent => ['.', '.']
  | name n => n

/-- A number and a text that order steps: to the root, nowhere, up, then names as texts. -/
def key : Step → Nat × Text
  | root => (0, [])
  | current => (1, [])
  | parent => (2, [])
  | name n => (3, n)

/-- Is one step before the other? -/
def before (a b : Step) : Bool :=
  a.key.1 < b.key.1 || (a.key.1 == b.key.1 && decide (a.key.2 < b.key.2))

/-- The step that a piece between slashes stands for. -/
def ofPiece (piece : Text) : Step := if piece = ['.', '.'] then parent else name piece

end Step

/-- The path with this text. -/
def ofString (s : String) : Path := ⟨s.toList⟩

/-- The text as a string. -/
def str (p : Path) : String := p.text.str

/-- Does the path start at the root of the file system? -/
def isAbsolute (p : Path) : Bool := p.text.head? == some '/'

/-! ### Pieces -/

/-- The step at the beginning, if it is to the root or nowhere, and the pieces between the slashes
behind it. -/
def split (p : Path) : Option Step × List Text :=
  match p.text with
  | '/' :: t => (some .root, Text.splitOn '/' t)
  | ['.'] => (some .current, [[]])
  | '.' :: '/' :: t => (some .current, Text.splitOn '/' ('/' :: t))
  | t => (none, Text.splitOn '/' t)

/-- The path with this beginning and these pieces. -/
def ofPieces (start : Option Step) (pieces : List Text) : Path :=
  ⟨(start.map Step.text).getD [] ++ Text.join ['/'] pieces⟩

/-- Is the piece no step? -/
def isFiller (piece : Text) : Bool := piece == [] || piece == ['.']

/-- The pieces without those at the end that are no steps. -/
def trimEnd (pieces : List Text) : List Text := (pieces.reverse.dropWhile isFiller).reverse

/-- The pieces behind the first `n` steps, beginning with a step. -/
def dropSteps : (n : Nat) → List Text → List Text
  | _, [] => []
  | n, piece :: pieces =>
    if isFiller piece then dropSteps n pieces
    else
      match n with
      | 0 => piece :: pieces
      | n + 1 => dropSteps n pieces

/-- The steps of the path. -/
def steps (p : Path) : List Step :=
  let (start, pieces) := p.split
  start.toList ++ (pieces.filter (!isFiller ·)).map Step.ofPiece

/-- Can the path only be that of a directory, because it ends with a slash or a point? -/
def endsInFiller (p : Path) : Bool := (p.split.2.getLast?).any isFiller

/-- Is a path before another: by its first step that differs? -/
def stepsBefore : List Step → List Step → Bool
  | _, [] => false
  | [], _ :: _ => true
  | a :: as, b :: bs => a.before b || (!b.before a && stepsBefore as bs)

/-- Paths in ascending order of their steps. -/
def sorted (ps : List Path) : List Path := ps.mergeSort fun a b => !stepsBefore b.steps a.steps

/-! ### Joining -/

/-- The path `p` as seen from `base`. -/
def join (base p : Path) : Path :=
  if p.isAbsolute ∨ base.text = [] then p
  else if base.text.getLast? = some '/' then ⟨base.text ++ p.text⟩
  else ⟨base.text ++ '/' :: p.text⟩

/-- The path below `base` that follows these names. -/
def joinAll (base : Path) (names : List Text) : Path := names.foldl (fun p n => p.join ⟨n⟩) base

/-- The directory above. The directory above a single name is written as the empty path; that path
and the root have none above them. -/
def parent? (p : Path) : Option Path :=
  let (start, pieces) := p.split
  match trimEnd pieces with
  | [] => if start = some .current then some ⟨[]⟩ else none
  | piece :: pieces => some (ofPieces start (trimEnd (piece :: pieces).dropLast))

/-! ### Display -/

/-- The path from `base` on, if its steps begin with those of `base`. -/
def below? (p base : Path) : Option Path :=
  if base.steps.isPrefixOf p.steps then
    let (start, pieces) := p.split
    let pieces := trimEnd pieces
    if base.steps = [] then some (ofPieces start pieces)
    else some (ofPieces none (dropSteps (base.steps.length - start.toList.length) pieces))
  else none

/-- The steps that lead from one place to another, both seen from the same directory. There are
none when the way to the first place goes up behind the point where the two ways part. -/
def stepsBetween? (moved : Bool) : (target base : List Step) → Option (List Step)
  | [], [] => some []
  | a :: as, [] => some (a :: as)
  | [], _ :: bs => (stepsBetween? true [] bs).map (.parent :: ·)
  | a :: as, b :: bs =>
    if !moved && a = b then stepsBetween? false as bs
    else if b = .current then (stepsBetween? true as bs).map (a :: ·)
    else if b = .parent then none
    else some (.parent :: bs.map (fun _ => .parent) ++ a :: as)

/-- The path from `base` to `p` as a way that may go up, if there is one. -/
def fromBase? (p base : Path) : Option Path :=
  if p.isAbsolute = base.isAbsolute then
    (stepsBetween? false p.steps base.steps).map fun steps => joinAll ⟨[]⟩ (steps.map Step.text)
  else none

/-- How a path is shown: as seen from the root directory where that is possible, with slashes
between its pieces. -/
def display (p root : Path) : String :=
  let seen := ((p.below? root).or (p.fromBase? root)).getD p
  Text.str (seen.text.map fun c => if c = '\\' then '/' else c)

/-- How the paths of the entries of a directory begin. Points at the beginning leave no trace;
behind them an empty piece leads nowhere, so nothing is listed. -/
def listing? (dir : Path) : Option Path :=
  if dir.isAbsolute then some (joinAll ⟨['/']⟩ (Text.splitOn '/' dir.text.tail))
  else
    match (Text.splitOn '/' dir.text).dropWhile (· == ['.']) with
    | [] => some ⟨[]⟩
    | [] :: _ => none
    | piece :: pieces => some (joinAll ⟨piece⟩ pieces)

end Path

end PageLint
