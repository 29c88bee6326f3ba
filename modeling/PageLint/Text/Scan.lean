import PageLint.Text.CharClass

/-!
# Scanning for fragments

A `Reader` tries to read one kind of fragment at the head of a text. Scanning a text with a reader
tries every position from the left; where the reader succeeds the scan resumes behind what was
read, so the fragments found do not overlap and the leftmost one wins.

## Main definitions

* `Reader`: a partial function from a text, and the character before it, to a fragment and the
  text behind it.
* `Text.hits`: the fragments of a text in order, each with the text before and behind it.
* `Text.without`: the text with every fragment taken out.
* `Text.atWordBoundary`: the test for the start or end of a word.
-/

namespace PageLint

/-- Reads a fragment at the head of a text: the character before the text, if any, and the text
give the fragment and the text that follows it. -/
abbrev Reader (α : Type) := Option Char → Text → Option (α × Text)

/-- A fragment that was found in a text. The text is `behind.reverse ++ source ++ ahead`. -/
structure Hit (α : Type) where
  /-- The text before the fragment, nearest character first. -/
  behind : Text
  /-- The text of the fragment. -/
  source : Text
  /-- What was read. -/
  value : α
  /-- The text after the fragment. -/
  ahead : Text

namespace Hit

variable {α : Type}

/-- The position of the fragment's first byte. -/
def start (h : Hit α) : Nat := Text.utf8Size h.behind

/-- The position just behind the fragment's last byte. -/
def stop (h : Hit α) : Nat := h.start + Text.utf8Size h.source

end Hit

namespace Text

variable {α : Type}

/-- Scans `ahead`, passing over its first `skip` characters. -/
def hitsFrom (read : Reader α) (behind : Text) : (skip : Nat) → (ahead : Text) → List (Hit α)
  | _, [] => []
  | skip + 1, c :: t => hitsFrom read (c :: behind) skip t
  | 0, c :: t =>
    match read behind.head? (c :: t) with
    | some (value, ahead) =>
      let size := (c :: t).length - ahead.length
      ⟨behind, (c :: t).take size, value, ahead⟩ :: hitsFrom read (c :: behind) (size - 1) t
    | none => hitsFrom read (c :: behind) 0 t

/-- The fragments of the text that `read` finds, leftmost first, without overlap. -/
def hits (read : Reader α) (t : Text) : List (Hit α) := hitsFrom read [] 0 t

/-- The text with its first `skip` characters and all fragments behind them taken out. -/
def withoutFrom (read : Reader α) (before : Option Char) : (skip : Nat) → Text → Text
  | _, [] => []
  | skip + 1, c :: t => withoutFrom read (some c) skip t
  | 0, c :: t =>
    match read before (c :: t) with
    | some (_, ahead) => withoutFrom read (some c) ((c :: t).length - ahead.length - 1) t
    | none => c :: withoutFrom read (some c) 0 t

/-- The text with every fragment that `read` finds taken out. -/
def without (read : Reader α) (t : Text) : Text := withoutFrom read none 0 t

/-- Is there a place in the text at which `read` succeeds? -/
def anyFrom (read : Reader α) (before : Option Char) : Text → Bool
  | [] => (read before []).isSome
  | c :: t => (read before (c :: t)).isSome || anyFrom read (some c) t

/-- Is there a place in the text, its end included, at which `read` succeeds? -/
def any (read : Reader α) (t : Text) : Bool := anyFrom read none t

/-! ### Reading pieces -/

/-- The longest head of word characters, which must not be empty, and what follows it. -/
def readWord? (t : Text) : Option (Text × Text) :=
  match t.takeWhile isWordChar with
  | [] => none
  | c :: w => some (c :: w, t.dropWhile isWordChar)

/-- What follows one or more blanks. -/
def afterBlanks? : Text → Option Text
  | [] => none
  | c :: t => if isSpace c then some (t.dropWhile isSpace) else none

/-- The head of the text up to the first `c`, and what follows that `c`. -/
def readUpTo? (c : Char) (t : Text) : Option (Text × Text) :=
  match t.dropWhile (· != c) with
  | [] => none
  | _ :: rest => some (t.takeWhile (· != c), rest)

/-- Does a word end between `before` and the head of the text, or start there? -/
def atWordBoundary (before : Option Char) (t : Text) : Bool :=
  before.any isWordChar != t.head?.any isWordChar

end Text

end PageLint
