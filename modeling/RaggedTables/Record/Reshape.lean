import RaggedTables.Fault

/-! Reshaping lists of records: choosing keys, adding a field, and naming the cells of a grid. -/

namespace RaggedTables.Reshape

/-- The values of a record under the given keys, none where it has no such key. -/
def choose (record : Value) (keys : List Value) : Except Fault Value :=
  match keys, record with
  | [], _ => .ok (.map [])
  | keys, .map entries =>
    match Value.unfitItem? keys with
    | some kind => .error (.kind (.unfitKey kind))
    | none =>
      .ok (.ofEntries (keys.map fun key => (key, (Fields.get? entries key).getD .null)))
  | _, v => .error (.noAttribute v.fullKind "get")

/-- Every record under the given keys. -/
def rearrange (records keys : List Value) : Except Fault (List Value) :=
  records.mapM fun record => choose record keys

/-- A record with a field set, its value computed from the record. -/
def setField (name : String) (compute : List (Value × Value) → Except Fault Value)
    (record : Value) :
    Except Fault Value :=
  match record with
  | .map entries => do return .map (Fields.put entries (.text name) (← compute entries))
  | v => .error (.kind (.notUnpackable v.fullKind))

/-- Every record with a field set. -/
def addField (records : List Value) (name : String)
    (compute : List (Value × Value) → Except Fault Value) : Except Fault (List Value) :=
  records.mapM (setField name compute)

/-- What a header and a cell write: several headers share out the items of a list. -/
def named (header cell : Value) : List (Value × Value) :=
  match header.several?, cell with
  | some headers, .list items => headers.zip items
  | _, _ => [(header, cell)]

/-- The record of a row. -/
def recordOf (headers : List Value) (row : Value) : Except Fault Value :=
  match row.items? with
  | none => .error (.kind (.notIterable row.fullKind))
  | some cells =>
    let entries := (headers.zip cells).flatMap fun (header, cell) => named header cell
    match Value.unfitItem? (entries.map Prod.fst) with
    | some kind => .error (.kind (.unfitKey kind))
    | none => .ok (.ofEntries entries)

/-- The records of a grid. Headers are looked at only when there is a row for them. -/
def gridRecords (grid headers : Value) : Except Fault (List Value) :=
  match grid.items?, headers.items? with
  | none, _ => .error (.kind (.notIterable grid.fullKind))
  | some [], _ => .ok []
  | some _, none => .error (.kind (.notIterable headers.fullKind))
  | some rows, some headers => rows.mapM (recordOf headers)

end RaggedTables.Reshape
