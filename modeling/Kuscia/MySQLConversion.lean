import Mathlib
import Kuscia.GoStrconv

namespace Kuscia.DataMesh.MySQL

open Go

/-!
# Converting columns to MySQL and back

`MySQLUploader.transformColToStringArr` turns an arrow column into the texts
bound, row by row, into an `INSERT`; a null cell becomes the text `NULL`, bound
as a string like any other.  `MySQLDownloader` reads the rows a `SELECT`
returns: SQL `NULL` is appended as a null of a nullable column, and any other
value goes through the column's converter from `initFieldConverter`, whose
integer parsers record the first error in `d.err`; the loop stops after a row
that left an error.

A column is modelled by its type and cells, each cell's value of that type.
The floating-point types, which go through `FormatFloat` and `ParseFloat`, are
left out.  The database is a function from a column type and the bound text to
what a `SELECT` returns for the cell.  Batching rows into records does not
change the cells the downloader appends, so one builder per column holds them
all.

The conversions invert each other on every value, so a column without a null
comes back as it was uploaded (`roundTrip_of_valid`).  A null cell does not:
the uploader binds it as the text `NULL`, which a `TEXT` column stores as
those four letters, so a null string cell comes back as the valid text `NULL`
(`roundTrip_string`).
-/

/-- The arrow column types the conversions handle here. -/
inductive ArrowType where
  | boolean
  | int8
  | int16
  | int32
  | int64
  | uint8
  | uint16
  | uint32
  | uint64
  | string
  deriving DecidableEq, Repr

/-- A cell's value. -/
inductive Scalar where
  | boolean (value : Bool)
  | signed (value : Int)
  | unsigned (value : Nat)
  | string (value : String)
  deriving DecidableEq, Repr

/-- Whether a value is one of a column type's. -/
def Scalar.hasType : Scalar → ArrowType → Bool
  | .boolean _, .boolean => true
  | .signed value, .int8 => decide (-2 ^ 7 ≤ value ∧ value < 2 ^ 7)
  | .signed value, .int16 => decide (-2 ^ 15 ≤ value ∧ value < 2 ^ 15)
  | .signed value, .int32 => decide (-2 ^ 31 ≤ value ∧ value < 2 ^ 31)
  | .signed value, .int64 => decide (-2 ^ 63 ≤ value ∧ value < 2 ^ 63)
  | .unsigned value, .uint8 => decide (value < 2 ^ 8)
  | .unsigned value, .uint16 => decide (value < 2 ^ 16)
  | .unsigned value, .uint32 => decide (value < 2 ^ 32)
  | .unsigned value, .uint64 => decide (value < 2 ^ 64)
  | .string _, .string => true
  | _, _ => false

/-- An arrow column: a type, and cells that are null or of that type. -/
structure Column where
  type : ArrowType
  cells : List (Option Scalar)
  typed : ∀ value, some value ∈ cells → value.hasType type

/-! ## Upload -/

/-- The part of `MySQLUploader` the conversion reads. -/
structure MySQLUploader where
  nullValue : String

/-- `NewMySQLUploader`: null cells are sent as the text `NULL`. -/
def NewMySQLUploader : MySQLUploader :=
  ⟨"NULL"⟩

/-- The text `transformColToStringArr` writes for a valid cell; the type switch
picks the branch of the value's kind, since the value has the column's type. -/
def formatCell : Scalar → String
  | .boolean value => if value then "1" else "0"
  | .signed value => FormatInt value
  | .unsigned value => FormatUint value
  | .string value => value

/-- The text of one cell in the loop of `transformColToStringArr`. -/
def MySQLUploader.cellText (u : MySQLUploader) : Option Scalar → String
  | some value => formatCell value
  | none => u.nullValue

/-- `MySQLUploader.transformColToStringArr`. -/
def MySQLUploader.transformColToStringArr (u : MySQLUploader) (col : Column) : List String :=
  col.cells.map u.cellText

/-! ## Download -/

/-- The part of `MySQLDownloader` the conversion changes: `d.err`. -/
structure MySQLDownloader where
  err : Option String
  deriving DecidableEq, Repr

/-- An arrow column builder: its type and the cells appended so far. -/
structure Builder where
  type : ArrowType
  cells : List (Option Scalar)
  deriving DecidableEq, Repr

/-- `field.Append(v)`. -/
def Builder.Append (field : Builder) (value : Scalar) : Builder :=
  { field with cells := field.cells ++ [some value] }

/-- `field.AppendNull()`. -/
def Builder.AppendNull (field : Builder) : Builder :=
  { field with cells := field.cells ++ [none] }

/-- The body of `parseInt8` to `parseInt64`: a parse error is recorded and a
null appended only while `d.err` is `nil`; otherwise the parsed value is
appended, a bound after a range error. -/
def MySQLDownloader.parseSigned (bitSize : Nat) (d : MySQLDownloader) (field : Builder)
    (str : String) : MySQLDownloader × Builder :=
  let (v, err) := ParseInt str bitSize
  match err with
  | some e =>
    if d.err = none then (⟨some e.Error⟩, field.AppendNull) else (d, field.Append (.signed v))
  | none => (d, field.Append (.signed v))

/-- The body of `parseUint8` to `parseUint64`. -/
def MySQLDownloader.parseUnsigned (bitSize : Nat) (d : MySQLDownloader) (field : Builder)
    (str : String) : MySQLDownloader × Builder :=
  let (v, err) := ParseUint str bitSize
  match err with
  | some e =>
    if d.err = none then (⟨some e.Error⟩, field.AppendNull) else (d, field.Append (.unsigned v))
  | none => (d, field.Append (.unsigned v))

def MySQLDownloader.parseInt8 := MySQLDownloader.parseSigned 8
def MySQLDownloader.parseInt16 := MySQLDownloader.parseSigned 16
def MySQLDownloader.parseInt32 := MySQLDownloader.parseSigned 32
def MySQLDownloader.parseInt64 := MySQLDownloader.parseSigned 64
def MySQLDownloader.parseUint8 := MySQLDownloader.parseUnsigned 8
def MySQLDownloader.parseUint16 := MySQLDownloader.parseUnsigned 16
def MySQLDownloader.parseUint32 := MySQLDownloader.parseUnsigned 32
def MySQLDownloader.parseUint64 := MySQLDownloader.parseUnsigned 64

/-- `parseBool`: unlike the integer parsers it records every error, over an
earlier one. -/
def MySQLDownloader.parseBool (d : MySQLDownloader) (field : Builder) (str : String) :
    MySQLDownloader × Builder :=
  let (v, err) := ParseBool str
  match err with
  | some e => (⟨some (e.Error ++ ": unrecognized boolean: " ++ str)⟩, field.AppendNull)
  | none => (d, field.Append (.boolean v))

/-- `initFieldConverter`: the converter of a column type. -/
def MySQLDownloader.initFieldConverter :
    ArrowType → MySQLDownloader → Builder → String → MySQLDownloader × Builder
  | .boolean => MySQLDownloader.parseBool
  | .int8 => MySQLDownloader.parseInt8
  | .int16 => MySQLDownloader.parseInt16
  | .int32 => MySQLDownloader.parseInt32
  | .int64 => MySQLDownloader.parseInt64
  | .uint8 => MySQLDownloader.parseUint8
  | .uint16 => MySQLDownloader.parseUint16
  | .uint32 => MySQLDownloader.parseUint32
  | .uint64 => MySQLDownloader.parseUint64
  | .string => fun d field str => (d, field.Append (.string str))

/-- A column of the downloaded schema. -/
structure Field where
  name : String
  nullable : Bool
  type : ArrowType

/-- The read-and-convert loop over one row's values, `none` being SQL `NULL`. -/
def convertRow :
    List Field → List Builder → List (Option String) → MySQLDownloader →
      Except String (MySQLDownloader × List Builder)
  | field :: fields, builder :: builders, value :: values, d =>
    match value with
    | some text =>
      let (d, builder) := MySQLDownloader.initFieldConverter field.type d builder text
      (convertRow fields builders values d).map fun (d, rest) => (d, builder :: rest)
    | none =>
      if field.nullable then
        (convertRow fields builders values d).map fun (d, rest) => (d, builder.AppendNull :: rest)
      else .error ("data column " ++ field.name ++ " not allowed null value")
  | _, _, _, d => .ok (d, [])

/-- The row loop of `DataProxyContentToFlightStreamSQL`: each row is converted,
and a row that leaves `d.err` set ends the download with that error. -/
def readRows (fields : List Field) :
    List (List (Option String)) → MySQLDownloader → List Builder → Except String (List Builder)
  | [], _, builders => .ok builders
  | row :: rows, d, builders =>
    match convertRow fields builders row d with
    | .error message => .error message
    | .ok (d, builders) =>
      match d.err with
      | some message => .error message
      | none => readRows fields rows d builders

/-! ## The round trip of a column -/

/-- What a `SELECT` returns for a cell into which the uploader bound a text,
by the column's type; `none` is SQL `NULL`. -/
abbrev Database := ArrowType → String → Option String

/-- The database the round trip assumes: a `TEXT` column returns the text it
was given, and a column of any other type the text of a value of that type. -/
structure Database.KeepsText (db : Database) : Prop where
  text : ∀ str, db .string str = some str
  value : ∀ type value, value.hasType type → db type (formatCell value) = some (formatCell value)

/-- A database that returns every text as it was given. -/
def storesText : Database :=
  fun _ text => some text

theorem storesText_keepsText :
    storesText.KeepsText :=
  ⟨fun _ => rfl, fun _ _ _ => rfl⟩

/-- Upload a one-column table and download it again: the column's texts, what
the database returns for each, and the cells the downloader builds. -/
def roundTrip (db : Database) (col : Column) (nullable : Bool) :
    Except String (List (Option Scalar)) :=
  let texts := NewMySQLUploader.transformColToStringArr col
  let rows := texts.map fun text => [db col.type text]
  (readRows [⟨"column", nullable, col.type⟩] rows ⟨none⟩ [⟨col.type, []⟩]).map
    fun builders => (builders.head?.map Builder.cells).getD []

/-! ## Each converter reads back the text of a value of its type -/

section Converters

variable {d : MySQLDownloader} {field : Builder}

theorem parseSigned_FormatInt
    {bitSize : Nat}
    (positive : 0 < bitSize)
    (atMost64 : bitSize ≤ 64)
    {value : Int}
    (fits : -2 ^ (bitSize - 1) ≤ value ∧ value < 2 ^ (bitSize - 1)) :
    MySQLDownloader.parseSigned bitSize d field (FormatInt value) =
      (d, field.Append (.signed value)) := by
  simp only [MySQLDownloader.parseSigned, ParseInt_FormatInt positive atMost64 fits]

theorem parseUnsigned_FormatUint
    {bitSize : Nat}
    (atMost64 : bitSize ≤ 64)
    {value : Nat}
    (fits : value < 2 ^ bitSize) :
    MySQLDownloader.parseUnsigned bitSize d field (FormatUint value) =
      (d, field.Append (.unsigned value)) := by
  simp only [MySQLDownloader.parseUnsigned, ParseUint_FormatUint atMost64 fits]

/-- The converter of every column type appends the value whose text the
uploader wrote, and leaves the error as it was. -/
theorem initFieldConverter_formatCell
    {type : ArrowType}
    {value : Scalar}
    (typed : value.hasType type) :
    MySQLDownloader.initFieldConverter type d field (formatCell value) =
      (d, field.Append value) := by
  -- a value of another kind than the column's is not typed, which closes those cases
  cases type <;> cases value <;>
    simp only [Scalar.hasType, decide_eq_true_eq, Bool.false_eq_true] at typed
  case boolean.boolean value =>
    cases value <;> rfl
  -- naming each parser with its bit size keeps the unifier from unfolding the
  -- parser body against an unknown one
  case int8.signed value =>
    show MySQLDownloader.parseSigned 8 d field (FormatInt value) = _
    exact parseSigned_FormatInt (by decide) (by decide) typed
  case int16.signed value =>
    show MySQLDownloader.parseSigned 16 d field (FormatInt value) = _
    exact parseSigned_FormatInt (by decide) (by decide) typed
  case int32.signed value =>
    show MySQLDownloader.parseSigned 32 d field (FormatInt value) = _
    exact parseSigned_FormatInt (by decide) (by decide) typed
  case int64.signed value =>
    show MySQLDownloader.parseSigned 64 d field (FormatInt value) = _
    exact parseSigned_FormatInt (by decide) (by decide) typed
  case uint8.unsigned value =>
    show MySQLDownloader.parseUnsigned 8 d field (FormatUint value) = _
    exact parseUnsigned_FormatUint (by decide) typed
  case uint16.unsigned value =>
    show MySQLDownloader.parseUnsigned 16 d field (FormatUint value) = _
    exact parseUnsigned_FormatUint (by decide) typed
  case uint32.unsigned value =>
    show MySQLDownloader.parseUnsigned 32 d field (FormatUint value) = _
    exact parseUnsigned_FormatUint (by decide) typed
  case uint64.unsigned value =>
    show MySQLDownloader.parseUnsigned 64 d field (FormatUint value) = _
    exact parseUnsigned_FormatUint (by decide) typed
  case string.string value => rfl

end Converters

section OneColumn

variable {field : Field} {builder : Builder} {d : MySQLDownloader}

/-- A returned value of a one-column row goes through the column's converter. -/
theorem convertRow_single_text
    {text : String}
    {converted : MySQLDownloader × Builder}
    (converter : MySQLDownloader.initFieldConverter field.type d builder text = converted) :
    convertRow [field] [builder] [some text] d = .ok (converted.1, [converted.2]) := by
  simp only [convertRow, converter]
  rfl

/-- The download of a one-column table: when each row leaves the error unset
and appends what the row decodes to, the column's builder ends with its cells
followed by those of every row. -/
theorem readRows_single
    {α : Type}
    (rowOf : α → Option String)
    (decoded : α → Option Scalar) :
    ∀ (items : List α),
      (∀ item ∈ items, ∀ builder, convertRow [field] [builder] [rowOf item] ⟨none⟩ =
        .ok (⟨none⟩, [{ builder with cells := builder.cells ++ [decoded item] }])) →
      ∀ builder, readRows [field] (items.map fun item => [rowOf item]) ⟨none⟩ [builder] =
        .ok [{ builder with cells := builder.cells ++ items.map decoded }] := by
  intro items
  -- the builder grows row by row, so it is generalised
  induction items with
  | nil =>
    intro _ builder
    simp [readRows]
  | cons item rest inductionHypothesis =>
    intro eachRow builder
    have restRows := inductionHypothesis fun other member =>
      eachRow other (List.mem_cons_of_mem item member)
    simp only [List.map_cons, readRows, eachRow item List.mem_cons_self, restRows,
      List.append_assoc, List.singleton_append]

end OneColumn

/-! ## The round trip -/

/-- The round trip of a column whose every cell, sent and returned, goes
through the download's loop as `decoded` says. -/
theorem roundTrip_eq_ok
    {db : Database}
    {col : Column}
    {nullable : Bool}
    (decoded : Option Scalar → Option Scalar)
    (eachCell : ∀ cell ∈ col.cells, ∀ builder,
      convertRow [⟨"column", nullable, col.type⟩] [builder]
          [db col.type (NewMySQLUploader.cellText cell)] ⟨none⟩ =
        .ok (⟨none⟩, [{ builder with cells := builder.cells ++ [decoded cell] }])) :
    roundTrip db col nullable = .ok (col.cells.map decoded) := by
  have rows : (NewMySQLUploader.transformColToStringArr col).map (fun text => [db col.type text]) =
      col.cells.map fun cell => [db col.type (NewMySQLUploader.cellText cell)] := by
    simp only [MySQLUploader.transformColToStringArr, List.map_map]
    rfl
  have downloaded := readRows_single _ decoded col.cells eachCell ⟨col.type, []⟩
  simp only [roundTrip, rows, downloaded, List.nil_append]
  rfl

/-- A non-null cell comes back as it was sent: the database returns its text,
and the column's converter reads the value back. -/
theorem convertRow_valid_cell
    {db : Database}
    (keeps : db.KeepsText)
    {col : Column}
    {value : Scalar}
    (member : some value ∈ col.cells)
    (nullable : Bool)
    (builder : Builder) :
    convertRow [⟨"column", nullable, col.type⟩] [builder]
        [db col.type (NewMySQLUploader.cellText (some value))] ⟨none⟩ =
      .ok (⟨none⟩, [builder.Append value]) := by
  have typed := col.typed value member
  rw [MySQLUploader.cellText, keeps.value _ _ typed]
  exact convertRow_single_text (initFieldConverter_formatCell typed)

/-- Every column without a null comes back as it was uploaded, into a nullable
column or not: the database returns the text of each value, and the column's
converter reads the value back. -/
theorem roundTrip_of_valid
    {db : Database}
    (keeps : db.KeepsText)
    (col : Column)
    (noNull : none ∉ col.cells)
    (nullable : Bool) :
    roundTrip db col nullable = .ok col.cells := by
  have restored := @roundTrip_eq_ok db col nullable id ?_
  · rwa [List.map_id] at restored
  intro cell member builder
  cases cell with
  | none => exact absurd member noNull
  | some value => exact convertRow_valid_cell keeps member nullable builder

/-- An int8 column holding its least value, zero and its greatest value. -/
def int8Column : Column :=
  ⟨.int8, [some (.signed (-128)), some (.signed 0), some (.signed 127)], by simp [Scalar.hasType]⟩

theorem roundTrip_of_valid_int8 :
    storesText.KeepsText ∧ none ∉ int8Column.cells ∧
      roundTrip storesText int8Column false = .ok int8Column.cells :=
  have noNull : none ∉ int8Column.cells := by decide
  ⟨storesText_keepsText, noNull,
    roundTrip_of_valid storesText_keepsText int8Column noNull false⟩

/-- A null cell of a string column comes back as the valid text `NULL`: the
database keeps the text the uploader sent for it. -/
theorem roundTrip_string
    {db : Database}
    (keeps : db.KeepsText)
    (col : Column)
    (isString : col.type = .string)
    (nullable : Bool) :
    roundTrip db col nullable =
      .ok (col.cells.map fun cell => some (cell.getD (.string "NULL"))) := by
  apply roundTrip_eq_ok
  intro cell member builder
  cases cell with
  | none =>
    rw [MySQLUploader.cellText, NewMySQLUploader, isString, keeps.text]
    exact convertRow_single_text rfl
  | some value =>
    exact convertRow_valid_cell keeps member nullable builder

/-- A text column with a null cell and a cell holding the text `NULL`. -/
def nullTextColumn : Column :=
  ⟨.string, [none, some (.string "NULL")], by simp [Scalar.hasType]⟩

theorem null_text_cell_comes_back_valid :
    roundTrip storesText nullTextColumn true =
        .ok [some (.string "NULL"), some (.string "NULL")] ∧
      [some (.string "NULL"), some (.string "NULL")] ≠ nullTextColumn.cells := by
  refine ⟨?_, by decide⟩
  rw [roundTrip_string storesText_keepsText nullTextColumn rfl true]
  rfl

end Kuscia.DataMesh.MySQL
