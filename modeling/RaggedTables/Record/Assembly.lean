import RaggedTables.Header.Compile

/-! Assembling a record from the cells of one row. Cells and headers are paired by position, and
where one list is longer its rest plays no part. The three rules for a cell that does not match
differ on purpose: a transform gives up, a spread leaves its names without values, and a split with
a mapping falls back to its pieces. -/

namespace RaggedTables

/-- A record: field names in the order of the headers, with what the row gives them. -/
abbrev Record := Fields String Value

namespace Record

/-- The first match of a pattern in a cell; only texts match. -/
def searchCell (pattern : Pattern) : Value → Option (Nat → Option String)
  | .text s => pattern.search s
  | _ => none

/-- The text of group `index` of a match, none when the pattern has fewer groups. -/
def groupOf (pattern : Pattern) (group : Nat → Option String) (index : Nat) : Option String :=
  if pattern.groupCount < index then none else group index

/-- What a transform takes from a cell. -/
def transformCell (cell : Value) (header : Header) (pattern : Pattern) (column : Nat) :
    Except Fault Value :=
  match searchCell pattern cell with
  | none => .error (.report (.mismatch cell (some header) column none))
  | some group => .ok (Report.optionalText (groupOf pattern group 1))

/-- What a spread takes from a cell: one group for each name. -/
def spreadCell (cell : Value) (names : List String) (pattern : Pattern) : List (String × Value) :=
  match searchCell pattern cell with
  | none => names.map fun name => (name, .null)
  | some group =>
    names.mapIdx fun i name => (name, Report.optionalText (groupOf pattern group (i + 1)))

/-- The pieces of a cell: those of a list as they are, those of a text as the delimiter cuts it. -/
def cellPieces (cell : Value) (delimiter : Pattern) : Except Fault (List Value) :=
  match cell with
  | .list items => .ok items
  | .text s => .ok ((delimiter.split s).map Report.optionalText)
  | v => .error (.kind (.notText v.fullKind))

/-- Keys and values of pieces: the two groups of the mapping in each. None as soon as a piece does
not match. -/
def mapPieces (mapping : Pattern) (pieces : List Value)
    (found : Fields (Option String) (Option String)) :
    Except Fault (Option (Fields (Option String) (Option String))) :=
  match pieces with
  | [] => .ok (some found)
  | .text s :: rest =>
    match mapping.search s with
    | none => .ok none
    | some group =>
      mapPieces mapping rest (found.put (groupOf mapping group 1) (groupOf mapping group 2))
  | v :: _ => .error (.kind (.notText v.fullKind))

/-- What a split takes from a cell: its pieces, or their mapping if every piece has one. -/
def splitCell (cell : Value) (delimiter : Pattern) (mapping : Option Pattern) :
    Except Fault Value := do
  let pieces ← cellPieces cell delimiter
  match mapping with
  | none => return .list pieces
  | some mapping =>
    match ← mapPieces mapping pieces [] with
    | none => return .list pieces
    | some found =>
      return .map (found.map fun (key, value) =>
        (Report.optionalText key, Report.optionalText value))

/-- The fields that a header takes from the cell of its column. -/
def cellFields (cell : Value) (header : Header) (column : Nat) :
    Except Fault (List (String × Value)) :=
  match header with
  | .norm name _ => .ok [(name, cell)]
  | .transform name pattern _ => do return [(name, ← transformCell cell header pattern column)]
  | .multi names pattern _ => .ok (spreadCell cell names pattern)
  | .split name delimiter mapping => do return [(name, ← splitCell cell delimiter mapping)]

/-- Adds the fields of cells and headers from a column on. -/
def assembleFrom (column : Nat) (record : Record) : List Value → List (Option Header) →
    Except Fault Record
  | cell :: cells, header :: headers =>
    match header with
    | none => assembleFrom (column + 1) record cells headers
    | some header => do
      let fields ← cellFields cell header column
      assembleFrom (column + 1) (record.update fields) cells headers
  | _, _ => .ok record

/-- The record of a row. -/
def assemble (cells : List Value) (headers : List (Option Header)) : Except Fault Record :=
  assembleFrom 0 [] cells headers

/-- The record of a row given as a value; one without a size is no row. -/
def assembleValue (row : Value) (headers : List (Option Header)) : Except Fault Record :=
  match row.items? with
  | some cells => assemble cells headers
  | none => .error (.kind (.noLength row.fullKind))

end Record

/-- The traced assembly of a row. -/
def assembleRecord (cells : List Value) (headers : List (Option Header)) : Traced Record :=
  .call "assemble_record" [.value (.list cells), .headers headers]
    (fun record => .value (.ofFields record)) (.lift (Record.assemble cells headers))

/-- The traced assembly of a row given as a value. -/
def assembleRow (row : Value) (headers : List (Option Header)) : Traced Record :=
  .call "assemble_record" [.value row, .headers headers]
    (fun record => .value (.ofFields record)) (.lift (Record.assembleValue row headers))

end RaggedTables
