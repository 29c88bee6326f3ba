import PageLint.Yaml.Token

/-!
# YAML documents

A document is one node: a scalar, a sequence or a mapping, in block style or in brackets. A node may
have a name under which later parts of the document refer to it. Tags are read but say nothing that
a configuration asks for, except that a tagged scalar is not nothing.

* `Yaml.ofText?`: the document as a value.
-/

namespace PageLint.Yaml

/-- What is left of the tokens, and the named nodes so far, latest first. -/
structure Reading where
  /-- The tokens. -/
  tokens : List Token
  /-- The named nodes. -/
  anchors : List (Text × Value) := []

/-- Reads something off the tokens. -/
abbrev Read (α : Type) := StateT Reading Option α

/-- The next token, which is left. -/
def peek : Read (Option Token) := do return (← get).tokens.head?

/-- Passes over the next token. -/
def skip : Read Unit := modify fun r => { r with tokens := r.tokens.tail }

/-- Is the next token one of these? -/
def isNext (ts : List Token) : Read Bool := do return (← peek).any ts.contains

/-- Passes over the next token, which must be this one. -/
def expect (t : Token) : Read Unit := do if ← isNext [t] then skip else failure

/-- A scalar without text. -/
def nothing : Value := .plain ""

/-- A mapping as a value: a table, unless one of its keys is no scalar. -/
def ofPairs (pairs : List (Value × Value)) : Value :=
  match pairs.mapM fun (key, v) => key.string?.map (·, v) with
  | some entries => .table entries
  | none => .other

/-- The tag of a scalar that is nothing. -/
def isNullTag (tag : Text × Text) : Bool :=
  tag == ("!!".toList, "null".toList) || tag == ([], "tag:yaml.org,2002:null".toList)

/-- A scalar as a value. -/
def ofScalar (plain : Bool) (tag : Option (Text × Text)) (text : Text) : Value :=
  if !plain then .string text.str
  else if (Value.plain text.str).isNull && tag.any (!isNullTag ·) then .string text.str
  else .plain text.str

/-- The name and the tag of a node. -/
structure Properties where
  /-- The name. -/
  anchor : Option Text := none
  /-- The tag. -/
  tag : Option (Text × Text) := none

/-- Reads the name and the tag of a node in any order; `fuel` bounds their number. -/
def properties (handles : List Text) : (fuel : Nat) → Properties → Read Properties
  | 0, p => return p
  | fuel + 1, p => do
    match ← peek with
    | some (.anchor name) =>
      if p.anchor.isSome then return p
      skip
      properties handles fuel { p with anchor := some name }
    | some (.tag handle rest) =>
      if p.tag.isSome then return p
      if handle.isEmpty || handles.contains handle then
        skip
        properties handles fuel { p with tag := some (handle, rest) }
      else failure
    | _ => return p

mutual

/-- Reads a node. `block` tells whether it may be in block style, `level` whether it may be a
sequence on the level of the mapping around it, and `fuel` bounds the number of steps. -/
def node (handles : List Text) : (fuel : Nat) → (block level : Bool) → Read Value
  | 0, _, _ => failure
  | fuel + 1, block, level => do
    if let some (.reference name) ← peek then
      skip
      let some (_, v) := (← get).anchors.find? (·.1 == name) | failure
      return v
    let p ← properties handles 2 {}
    if let some name := p.anchor then
      modify fun r => { r with anchors := (name, .other) :: r.anchors }
    let v ← content handles fuel block level p
    if let some name := p.anchor then
      modify fun r => { r with anchors := (name, v) :: r.anchors }
    return v

/-- Reads a node without its name and tag. -/
def content (handles : List Text) : (fuel : Nat) → (block level : Bool) → Properties → Read Value
  | 0, _, _, _ => failure
  | fuel + 1, block, level, p => do
    match ← peek with
    | some (.scalar plain text) =>
      skip
      return ofScalar plain p.tag text
    | some .item =>
      if level then return .sequence (← levelItems handles fuel)
      else if p.anchor.isSome || p.tag.isSome then return nothing
      else failure
    | some .openSequence =>
      skip
      return .sequence (← flowItems handles fuel true)
    | some .openMapping =>
      skip
      return ofPairs (← flowPairs handles fuel true)
    | some .blockSequence =>
      if !block then failure
      skip
      return .sequence (← blockItems handles fuel)
    | some .blockMapping =>
      if !block then failure
      skip
      return ofPairs (← blockPairs handles fuel)
    | _ => if p.anchor.isSome || p.tag.isSome then return nothing else failure

/-- Reads a node, or nothing in front of one of the given tokens. -/
def nodeUnless (handles : List Text) :
    (fuel : Nat) → (block level : Bool) → List Token → Read Value
  | 0, _, _, _ => failure
  | fuel + 1, block, level, ends => do
    if ← isNext ends then return nothing else node handles fuel block level

/-- Reads the items of a sequence in block style. -/
def blockItems (handles : List Text) : (fuel : Nat) → Read (List Value)
  | 0 => failure
  | fuel + 1 => do
    if ← isNext [.item] then
      skip
      let v ← nodeUnless handles fuel true false [.item, .blockEnd]
      return v :: (← blockItems handles fuel)
    else
      expect .blockEnd
      return []

/-- Reads the items of a sequence on the level of the mapping around it. -/
def levelItems (handles : List Text) : (fuel : Nat) → Read (List Value)
  | 0 => failure
  | fuel + 1 => do
    if ← isNext [.item] then
      skip
      let v ← nodeUnless handles fuel true false [.item, .key, .value, .blockEnd]
      return v :: (← levelItems handles fuel)
    else return []

/-- Reads the pairs of a mapping in block style. -/
def blockPairs (handles : List Text) : (fuel : Nat) → Read (List (Value × Value))
  | 0 => failure
  | fuel + 1 => do
    if ← isNext [.key] then
      skip
      let key ← nodeUnless handles fuel true true [.key, .value, .blockEnd]
      let v ←
        if ← isNext [.value] then do
          skip
          nodeUnless handles fuel true true [.key, .value, .blockEnd]
        else pure nothing
      return (key, v) :: (← blockPairs handles fuel)
    else
      expect .blockEnd
      return []

/-- Reads the items of a sequence in brackets. An item may be a mapping of one pair. -/
def flowItems (handles : List Text) : (fuel : Nat) → (first : Bool) → Read (List Value)
  | 0, _ => failure
  | fuel + 1, first => do
    if ← isNext [.closeSequence] then
      skip
      return []
    if !first then expect .comma
    if ← isNext [.closeSequence] then
      skip
      return []
    let v ←
      if ← isNext [.key] then do
        skip
        let key ← nodeUnless handles fuel false false [.value, .comma, .closeSequence]
        pure (ofPairs [(key, ← flowValue handles fuel .closeSequence)])
      else node handles fuel false false
    return v :: (← flowItems handles fuel false)

/-- Reads the pairs of a mapping in braces. -/
def flowPairs (handles : List Text) : (fuel : Nat) → (first : Bool) → Read (List (Value × Value))
  | 0, _ => failure
  | fuel + 1, first => do
    if ← isNext [.closeMapping] then
      skip
      return []
    if !first then expect .comma
    if ← isNext [.closeMapping] then
      skip
      return []
    let pair ←
      if ← isNext [.key] then do
        skip
        let key ← nodeUnless handles fuel false false [.value, .comma, .closeMapping]
        pure (key, ← flowValue handles fuel .closeMapping)
      else do
        pure (← node handles fuel false false, nothing)
    return pair :: (← flowPairs handles fuel false)

/-- Reads the value behind a key in brackets or braces. -/
def flowValue (handles : List Text) : (fuel : Nat) → (close : Token) → Read Value
  | 0, _ => failure
  | fuel + 1, close => do
    if ← isNext [.value] then
      skip
      nodeUnless handles fuel false false [.comma, close]
    else return nothing

end

/-- Reads the directives in front of a document: the handles that they declare. -/
def directives : (fuel : Nat) → (version : Bool) → (handles : List Text) → Read (List Text)
  | 0, _, handles => return handles
  | fuel + 1, version, handles => do
    match ← peek with
    | some (.version _) =>
      if version then failure
      skip
      directives fuel true handles
    | some (.tagHandle handle) =>
      if handles.contains handle then failure
      skip
      directives fuel version (handle :: handles)
    | _ => return handles

/-- The handles that need no directive. -/
def defaultHandles : List Text := ["!".toList, "!!".toList]

/-- Reads the only document of a text. Without any document there is an empty table, and a document
may be without a node only behind its mark. -/
def document (fuel : Nat) : Read Value := do
  let v ←
    match ← peek with
    | none => pure (.table [])
    | some (.version _) | some (.tagHandle _) | some .documentStart => do
      let handles ← directives fuel false []
      expect .documentStart
      if (← peek).isNone || (← isNext [.documentStart, .documentEnd]) then pure nothing
      else node (defaultHandles ++ handles) fuel true false
    | some _ => node defaultHandles fuel true false
  documentEnds fuel
  return v
where
  /-- Passes over the marks at the end of the document; nothing may follow them. -/
  documentEnds : (fuel : Nat) → Read Unit
    | 0 => failure
    | fuel + 1 => do
      match ← peek with
      | none => return ()
      | some .documentEnd =>
        skip
        documentEnds fuel
      | some _ => failure

/-- The document that the text is. -/
def ofText? (t : Text) : Option Value := do
  let tokens ← Token.ofText? t
  let (v, _) ← (document (4 * tokens.length + 4)).run { tokens }
  return v

end PageLint.Yaml
