import PageLint.Toml.Scalar
import PageLint.Toml.Tree

/-!
# TOML documents

Reads a document: lines with a header, with a key and a value, or with neither. Arrays and inline
tables may go over several lines.

* `Toml.ofText?`: the document as a value.
-/

namespace PageLint.Toml

/-- The text without blanks at its head. -/
def dropBlanks (t : Text) : Text := t.dropWhile isBlank

/-- What follows a comment, if there is one; the line end is left. -/
def afterComment? : Text → Option Text
  | '#' :: t =>
    let rest := t.dropWhile fun c => !isControl c
    match rest with
    | [] | '\n' :: _ | '\r' :: '\n' :: _ => some rest
    | _ => none
  | t => some t

/-- What follows the blanks, the comment and the end of a line. -/
def afterLine? (t : Text) : Option Text := do
  match ← afterComment? (dropBlanks t) with
  | [] => some []
  | '\n' :: t | '\r' :: '\n' :: t => some t
  | _ => none

/-- What follows blanks, comments and line ends; `fuel` bounds the number of lines. -/
def afterLines? : (fuel : Nat) → Text → Option Text
  | 0, _ => none
  | fuel + 1, t => do
    match ← afterComment? (dropBlanks t) with
    | '\n' :: t | '\r' :: '\n' :: t => afterLines? fuel t
    | t => some t

/-- A character of a key without quotes. -/
def isKeyChar (c : Char) : Bool := isAsciiAlphanumeric c || c == '_' || c == '-'

/-- Reads one part of a key. -/
def readKeyPart? (t : Text) : Option (String × Text) :=
  match readShort? t with
  | some (s, rest) => some (s.str, rest)
  | none =>
    match t.takeWhile isKeyChar with
    | [] => none
    | key => some (Text.str key, t.drop key.length)

/-- Reads a key with dots; `fuel` bounds the number of its parts. The last part comes alone. -/
def readKey? : (fuel : Nat) → Text → Option ((List String × String) × Text)
  | 0, _ => none
  | fuel + 1, t => do
    let (part, rest) ← readKeyPart? (dropBlanks t)
    match dropBlanks rest with
    | '.' :: more =>
      let ((path, key), rest) ← readKey? fuel more
      return ((part :: path, key), rest)
    | rest => return (([], part), rest)

mutual

/-- Reads a value; `fuel` bounds the number of steps. -/
def readValue? : (fuel : Nat) → Text → Option (Value × Text)
  | 0, _ => none
  | fuel + 1, t =>
    match t with
    | '[' :: t => do
      let (items, rest) ← readItems? fuel t
      return (.array items, rest)
    | '{' :: t => do
      let (entries, rest) ← readEntries? fuel [] t
      return (.table (Tree.entryValues entries), rest)
    | '"' :: _ | '\'' :: _ => (readString? t).map fun (s, rest) => (.string s.str, rest)
    | t => readBare? t

/-- Reads the items of an array up to its closing bracket. -/
def readItems? : (fuel : Nat) → Text → Option (List Value × Text)
  | 0, _ => none
  | fuel + 1, t => do
    match ← afterLines? fuel t with
    | ']' :: rest => return ([], rest)
    | t =>
      let (v, rest) ← readValue? fuel t
      match ← afterLines? fuel rest with
      | ',' :: rest =>
        let (items, rest) ← readItems? fuel rest
        return (v :: items, rest)
      | ']' :: rest => return ([v], rest)
      | _ => none

/-- Reads the entries of an inline table up to its closing brace. -/
def readEntries? : (fuel : Nat) → Entries → Text → Option (Entries × Text)
  | 0, _, _ => none
  | fuel + 1, entries, t => do
    match ← afterLines? fuel t with
    | '}' :: rest => return (entries, rest)
    | t =>
      let ((path, key), rest) ← readKey? fuel t
      let '=' :: rest := rest | none
      let (v, rest) ← readValue? fuel (dropBlanks rest)
      let entries ← Tree.assign path key v entries
      match ← afterLines? fuel rest with
      | ',' :: rest => readEntries? fuel entries rest
      | '}' :: rest => return (entries, rest)
      | _ => none

end

/-- Reads lines; `header` is the path of the last header, and `fuel` bounds the number of steps. -/
def readLines? : (fuel : Nat) → (header : List String) → Entries → Text → Option Entries
  | 0, _, _, _ => none
  | fuel + 1, header, entries, t => do
    match dropBlanks t with
    | [] => return entries
    | '[' :: '[' :: t =>
      let ((path, key), rest) ← readKey? fuel t
      let ']' :: ']' :: rest := rest | none
      readLines? fuel (path ++ [key]) (← Tree.append path key entries) (← afterLine? rest)
    | '[' :: t =>
      let ((path, key), rest) ← readKey? fuel t
      let ']' :: rest := rest | none
      readLines? fuel (path ++ [key]) (← Tree.define path key entries) (← afterLine? rest)
    | t =>
      if t.head?.any fun c => c == '#' || c == '\n' || c == '\r' then
        readLines? fuel header entries (← afterLine? t)
      else
        let ((path, key), rest) ← readKey? fuel t
        let '=' :: rest := rest | none
        let (v, rest) ← readValue? fuel (dropBlanks rest)
        readLines? fuel header (← Tree.assignBelow header path key v entries) (← afterLine? rest)

/-- The document that the text is. A byte order mark in front is passed over. -/
def ofText? (t : Text) : Option Value :=
  let t := match t with
    | '\uFEFF' :: t => t
    | t => t
  (readLines? (2 * t.length + 4) [] [] t).map fun entries => .table (Tree.entryValues entries)

end PageLint.Toml
