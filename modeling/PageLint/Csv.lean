import PageLint.Text.Utf8

/-!
# Comma-separated values

A file of records. A record is a line of fields with commas between them. A field in double quotes
may hold commas, line ends and, written twice, double quotes; what stands between a closing quote
and the next comma belongs to the field. Lines without a character are no records, and records may
differ in length.

* `Csv.readFields`: the fields of one record.
* `Csv.records`: all records of a file, each with the place where its reading began.
* `Csv.read`: the records as texts, unless one of them is not UTF-8.

## Main results

* `Csv.readFields_length`: a record takes at least one byte.
-/

namespace PageLint.Csv

/-- Where the reading of a field stands. -/
inductive Place where
  /-- At the start of the field. -/
  | start
  /-- In a part without quotes. -/
  | bare
  /-- Between quotes. -/
  | quoted
  /-- Behind a quote that closes the field or is the first of two. -/
  | closed
  deriving DecidableEq, Repr

/-- The double quote. -/
def quote : UInt8 := 34

/-- The comma. -/
def comma : UInt8 := 44

/-- A carriage return or a line feed. -/
def isLineEnd (b : UInt8) : Bool := b == 13 || b == 10

/-- Reads fields up to the end of the record. `field` holds the bytes of the current field and
`fields` the fields before it, both last one first. Of a line end only one byte is taken. -/
def readFields : Place → (field : Bytes) → (fields : List Bytes) → Bytes → List Bytes × Bytes
  | _, field, fields, [] => ((field.reverse :: fields).reverse, [])
  | place, field, fields, b :: t =>
    if place = .quoted then
      if b = quote then readFields .closed field fields t
      else readFields .quoted (b :: field) fields t
    else if b = quote ∧ place = .start then readFields .quoted field fields t
    else if b = quote ∧ place = .closed then readFields .quoted (b :: field) fields t
    else if b = comma then readFields .start [] (field.reverse :: fields) t
    else if isLineEnd b then ((field.reverse :: fields).reverse, t)
    else readFields .bare (b :: field) fields t

/-- Reading fields does not lengthen what is left. -/
theorem readFields_length_le (place : Place) (field : Bytes) (fields : List Bytes) (t : Bytes) :
    (readFields place field fields t).2.length ≤ t.length := by
  fun_induction readFields place field fields t <;> simp_all <;> omega

/-- Reading fields takes one byte at least, if there is any. -/
theorem readFields_length (place : Place) (field : Bytes) (fields : List Bytes) (b : UInt8)
    (t : Bytes) : (readFields place field fields (b :: t)).2.length ≤ t.length := by
  have hle := fun p f fs => readFields_length_le p f fs t
  rw [readFields]
  repeat' split
  all_goals first | exact hle _ _ _ | exact Nat.le_refl _

/-- A position in a file. -/
structure Position where
  /-- The line, counted from one. -/
  line : Nat
  /-- The number of bytes before the position. -/
  byte : Nat
  deriving DecidableEq, Repr

/-- The position behind the bytes `read`. -/
def Position.after (p : Position) (read : Bytes) : Position :=
  ⟨p.line + read.count 10, p.byte + read.length⟩

/-- The records from a position on, each with the position where its reading began: empty lines
before a record are read with it. -/
def recordsFrom (p : Position) (t : Bytes) : List (Position × List Bytes) :=
  match h : t.dropWhile isLineEnd with
  | [] => []
  | b :: rest =>
    let record := readFields .start [] [] (b :: rest)
    have : (readFields .start [] [] (b :: rest)).2.length < t.length := by
      have h1 := readFields_length .start [] [] b rest
      have h2 : (b :: rest).length ≤ t.length := h ▸ (List.dropWhile_sublist _).length_le
      simp only [List.length_cons] at h2
      omega
    (p, record.1) :: recordsFrom (p.after (t.take (t.length - record.2.length))) record.2
termination_by t.length

/-- The mark that may stand in front of UTF-8 text. -/
def byteOrderMark : Bytes := [0xEF, 0xBB, 0xBF]

/-- The records of a file. A byte order mark in front is passed over, but counts as read. -/
def records (t : Bytes) : List (Position × List Bytes) :=
  if byteOrderMark.isPrefixOf t then
    match recordsFrom ⟨1, 3⟩ (t.drop 3) with
    | (p, fields) :: rest => ({ p with byte := 0 }, fields) :: rest
    | [] => []
  else recordsFrom ⟨1, 0⟩ t

/-- A field that is not UTF-8. -/
structure Error where
  /-- The number of records before it. -/
  record : Nat
  /-- Where the reading of its record began. -/
  position : Position
  /-- The number of fields before it in its record. -/
  field : Nat
  /-- The number of bytes at its head that are UTF-8. -/
  validBytes : Nat
  deriving DecidableEq, Repr

/-- What is wrong with the file. -/
def Error.message (e : Error) : String :=
  "CSV parse error: record " ++ toString e.record ++ " (line " ++ toString e.position.line ++
    ", field: " ++ toString e.field ++ ", byte: " ++ toString e.position.byte ++
    "): invalid utf-8: invalid UTF-8 in field " ++ toString e.field ++ " near byte index " ++
    toString e.validBytes

/-- The fields of a record as texts. -/
def decodeRecord (record : Nat) (position : Position) (fields : List Bytes) :
    Except Error (List Text) :=
  fields.zipIdx.mapM fun (field, i) =>
    match Utf8.decode field with
    | (text, []) => .ok text
    | (_, unread) => .error ⟨record, position, i, field.length - unread.length⟩

/-- The records of a file as texts. -/
def read (t : Bytes) : Except Error (List (List Text)) :=
  (records t).zipIdx.mapM fun (record, i) => decodeRecord i record.1 record.2

end PageLint.Csv
