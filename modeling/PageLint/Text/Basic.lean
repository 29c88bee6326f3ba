/-!
# Texts

A text is the list of its characters. Pages are scanned as texts, so that a scanner is a recursion
on the characters ahead and says what it leaves unread.

Positions in a text are counted in bytes of its UTF-8 form (`Text.utf8Size`): a fragment starts at
the size of the text before it. `Text.slice?` cuts a text at two such positions, and refuses a
position that is out of range or inside a character.

## Main results

* `Text.after?_eq_some_iff`: taking a head off a text succeeds exactly on the texts that begin
  with it.
* `Text.occursIn_iff`: the search for a fragment is the infix relation.
* `Text.cut?_utf8Size`: a text can be cut at the size of each of its initial segments.
-/

namespace PageLint

/-- A text: its characters in order. -/
abbrev Text := List Char

namespace Text

/-- The text as a string. -/
def str (t : Text) : String := String.ofList t

/-- The number of bytes of the UTF-8 form. -/
def utf8Size : Text → Nat
  | [] => 0
  | c :: t => c.utf8Size + utf8Size t

/-- The empty text has no bytes. -/
@[simp] theorem utf8Size_nil : utf8Size [] = 0 := rfl

/-- The first character adds its bytes to those of the rest. -/
@[simp] theorem utf8Size_cons (c : Char) (t : Text) :
    utf8Size (c :: t) = c.utf8Size + utf8Size t := rfl

/-- The sizes of two texts add up. -/
@[simp] theorem utf8Size_append (s t : Text) : utf8Size (s ++ t) = utf8Size s + utf8Size t := by
  induction s with
  | nil => simp
  | cons c s ih => simp [ih, Nat.add_assoc]

/-! ### Heads and infixes -/

/-- What follows `head` in a text that begins with it. -/
def after? : (head : Text) → Text → Option Text
  | [], t => some t
  | _ :: _, [] => none
  | h :: head, c :: t => if h = c then after? head t else none

/-- A text is its head followed by what is found after it. -/
theorem after?_eq_some_iff {head t rest : Text} : after? head t = some rest ↔ t = head ++ rest := by
  fun_induction after? head t with
  | case1 t => simp [eq_comm]
  | case2 => simp
  | case3 head c t ih => simp [ih]
  | case4 h head c t hne => simp [Ne.symm hne]

/-- Does the text begin with `head`? -/
def startsWith (t head : Text) : Bool := (after? head t).isSome

/-- Does the text end with `tail`? -/
def endsWith (t tail : Text) : Bool := (after? tail.reverse t.reverse).isSome

/-- Does `part` occur in the text? -/
def occursIn (part : Text) : Text → Bool
  | [] => part.isEmpty
  | c :: t => startsWith (c :: t) part || occursIn part t

/-- The test for a head decides whether there is one. -/
theorem startsWith_iff {t head : Text} : startsWith t head = true ↔ head <+: t := by
  simp only [startsWith, Option.isSome_iff_exists, after?_eq_some_iff]
  exact ⟨fun ⟨r, h⟩ => ⟨r, h.symm⟩, fun ⟨r, h⟩ => ⟨r, h.symm⟩⟩

/-- The search for a part decides whether it occurs. -/
theorem occursIn_iff {part t : Text} : occursIn part t = true ↔ part <:+: t := by
  induction t with
  | nil => simp [occursIn]
  | cons c t ih => simp [occursIn, ih, startsWith_iff, List.infix_cons_iff]

/-- Does the string `part` occur in the text? -/
def has (t : Text) (part : String) : Bool := occursIn part.toList t

/-- The text up to the first occurrence of `mark` and the text after that occurrence. -/
def splitAt? (mark : Text) : Text → Option (Text × Text)
  | [] => if mark.isEmpty then some ([], []) else none
  | c :: t =>
    match after? mark (c :: t) with
    | some rest => some ([], rest)
    | none => (splitAt? mark t).map fun (before, rest) => (c :: before, rest)

/-! ### Bytes -/

/-- The text cut after `n` bytes. There is no such cut inside a character or beyond the end. -/
def cut? : (n : Nat) → Text → Option (Text × Text)
  | 0, t => some ([], t)
  | _ + 1, [] => none
  | n + 1, c :: t =>
    if c.utf8Size ≤ n + 1 then
      (cut? (n + 1 - c.utf8Size) t).map fun (before, rest) => (c :: before, rest)
    else none

/-- The part of the text from byte `start` to byte `stop`. -/
def slice? (t : Text) (start stop : Nat) : Option Text := do
  if stop < start then none
  let (_, rest) ← cut? start t
  let (part, _) ← cut? (stop - start) rest
  return part

/-- Two texts, one behind the other, are cut apart behind the bytes of the first. -/
theorem cut?_utf8Size (s t : Text) : cut? (utf8Size s) (s ++ t) = some (s, t) := by
  induction s with
  | nil => simp [cut?]
  | cons c s ih =>
    have hpos : 0 < c.utf8Size := Char.utf8Size_pos c
    obtain ⟨n, hn⟩ : ∃ n, c.utf8Size + utf8Size s = n + 1 := ⟨c.utf8Size + utf8Size s - 1, by omega⟩
    have hle : c.utf8Size ≤ n + 1 := by omega
    have hsub : n + 1 - c.utf8Size = utf8Size s := by omega
    simp [hn, cut?, hle, hsub, ih]

/-- The shortest final segment of `before` that holds at least `n` of its bytes, where `before` is
given nearest character first. It is all of `before` when that is shorter. -/
def lastBytes (n : Nat) : (before : Text) → Text
  | [] => []
  | c :: before => if n = 0 then [] else lastBytes (n - c.utf8Size) before ++ [c]

/-! ### Pieces -/

/-- The text split at every `sep`: always at least one piece. -/
def splitOn (sep : Char) : Text → List Text
  | [] => [[]]
  | c :: t =>
    if c = sep then [] :: splitOn sep t
    else
      match splitOn sep t with
      | [] => [[c]]
      | piece :: pieces => (c :: piece) :: pieces

/-- The pieces with `sep` between each two neighbours. -/
def join (sep : Text) : List Text → Text
  | [] => []
  | [piece] => piece
  | piece :: pieces => piece ++ sep ++ join sep pieces

/-- Every occurrence of `old`, taken from the left without overlap, replaced by `new`. The first
argument counts the characters of an occurrence that are still to be passed over. -/
def replaceFrom (old new : Text) : Nat → Text → Text
  | _, [] => []
  | skip + 1, _ :: t => replaceFrom old new skip t
  | 0, c :: t =>
    if startsWith (c :: t) old then new ++ replaceFrom old new (old.length - 1) t
    else c :: replaceFrom old new 0 t

/-- Every occurrence of the non-empty text `old` replaced by `new`. -/
def replace (t old new : Text) : Text := replaceFrom old new 0 t

/-- The lines of the text without their ends, which are a line feed with or without a carriage
return before it. A last line that is empty is no line. -/
def lines (t : Text) : List Text :=
  let pieces := splitOn '\n' t
  let ended := pieces.dropLast.map fun l =>
    match l.getLast? with
    | some '\r' => l.dropLast
    | _ => l
  match pieces.getLast? with
  | some [] => ended
  | some l => ended ++ [l]
  | none => ended

/-- The text without its final characters that satisfy `p`. -/
def dropEndWhile (p : Char → Bool) (t : Text) : Text := (t.reverse.dropWhile p).reverse

/-- The text without its initial and final characters that satisfy `p`. -/
def stripWhile (p : Char → Bool) (t : Text) : Text := dropEndWhile p (t.dropWhile p)

end Text

end PageLint
