import PageLint.DataCheck.DataSet
import PageLint.Text.Escaped

/-!
# Entities

The entities that the tables name: none under a retired name, each of a primary table with a place,
and none in a secondary table alone unless it is allowed to be.

* `EntityTable.entitiesIn`: the entities of a table.
* `DataCheck.entities`: the findings.
-/

namespace PageLint

/-- Is there nothing but blanks in the cell? -/
def isBlankCell (cell : String) : Bool := Text.isBlank cell.toList

/-- The entities that rows of a table name, ascending: cells of the entity column that are not blank
and not excluded. -/
def EntityTable.entitiesIn (spec : EntityTable) (t : Table) : List String :=
  Ascending.ofList ((t.cells spec.entityColumn).filter fun e =>
    !isBlankCell e && !spec.exclude.contains e)

/-- The entities that have a row in the table of places, ascending. -/
def LocationTable.entitiesIn (spec : LocationTable) (t : Table) : List String :=
  Ascending.ofList ((t.cells spec.entityColumn).filter fun e => !isBlankCell e)

namespace DataCheck

variable (set : DataSet)

/-- The tables of entities that are there, each with its entities. -/
def loadedEntities (d : DataTables) : List (EntityTable × List String) :=
  d.entityTables.filterMap fun spec =>
    (set.table? spec.file).map fun t => (spec, spec.entitiesIn t)

/-- The tables that play a part. -/
def inRole (role : TableRole) (tables : List (EntityTable × List String)) :
    List (EntityTable × List String) := tables.filter (·.1.role == role)

/-- The findings about retired names among the entities of a file. -/
def retiredNames (names : List (String × String)) (file : String) (entities : List String) :
    List Finding :=
  names.filterMap fun (retired, name) =>
    if entities.contains retired then
      some (set.report file (.error "DATA_DEPOT_NAME"
        ("Deprecated name '" ++ (Text.escaped retired.toList).str ++ "'; use '" ++ name ++ "'")))
    else none

/-- The findings about rows of the table of places that lack a coordinate. -/
def missingCoordinates (l : LocationTable) (t : Table) : List Finding :=
  t.rows.filterMap fun row =>
    if l.coordinateColumns.any fun c => isBlankCell (row.cell (t.column? c)) then
      some (set.report l.file (.error "DATA_COORDS"
        ("'" ++ row.cell (t.column? l.entityColumn) ++ "' missing " ++
          String.intercalate "/" l.coordinateColumns)))
    else none

/-- The findings about entities of a primary table that have no place. -/
def unlocated (l : LocationTable) (located : List String)
    (table : EntityTable × List String) : List Finding :=
  (table.2.filter (!located.contains ·)).map fun e =>
    set.report l.file (.error "DATA_COORDS"
      ("'" ++ e ++ "' in " ++ table.1.file ++ " has no entry in " ++ l.file))

/-- The findings about entities of a secondary table that are in no primary table and not allowed
to be. -/
def secondaryOnly (l : LocationTable) (allowed primary : List String)
    (table : EntityTable × List String) : List Finding :=
  (table.2.filter fun e => !primary.contains e && !allowed.contains e).map fun e =>
    set.report table.1.file (.warn "DATA_DEPOT_EXCLUSIVE"
      ("'" ++ e ++ "' appears only in " ++ table.1.label ++
        " and is not allow-listed; add coordinates to " ++ l.file ++
        " or document the exception"))

/-- The findings about allowed entities that have no place. -/
def allowedUnlocated (l : LocationTable) (allowed located : List String) : List Finding :=
  (allowed.filter (!located.contains ·)).map fun e =>
    set.report l.file (.warn "DATA_COORDS"
      ("Allow-listed '" ++ e ++ "' has no entry in " ++ l.file ++
        "; add coordinates even if it only appears in secondary data"))

/-- The findings about the table of places and the entities of the other tables. -/
def places (d : DataTables) (l : LocationTable) (t : Table) : List Finding :=
  let tables := loadedEntities set d
  let located := l.entitiesIn t
  let primary := Ascending.ofList ((inRole .primary tables).flatMap (·.2))
  missingCoordinates set l t ++
  (if primary.isEmpty || located.isEmpty then []
    else (inRole .primary tables).flatMap (unlocated set l located)) ++
  (if primary.isEmpty then []
    else (inRole .secondary tables).flatMap (secondaryOnly set l d.allowlistedEntities primary)) ++
  (if located.isEmpty then [] else allowedUnlocated set l d.allowlistedEntities located)

/-- The table of places, if it is there. -/
def locationTable? (d : DataTables) : Option (LocationTable × Table) :=
  d.locations.bind fun l => (set.table? l.file).map (l, ·)

/-- The findings about entities: retired names first, then whatever takes the table of places. -/
def entities (tables : RuleTables) : List Finding :=
  let location := locationTable? set tables.data
  (loadedEntities set tables.data).flatMap (fun (spec, es) =>
    retiredNames set tables.deprecatedNames spec.file es) ++
  location.toList.flatMap (fun (l, t) =>
    retiredNames set tables.deprecatedNames l.file (l.entitiesIn t)) ++
  location.toList.flatMap fun (l, t) => places set tables.data l t

end DataCheck

end PageLint
