import TypedTables.Proofs.FieldType
import TypedTables.QueryResult

/-!
# Rows are read as they were written

A row that its schema can make again (`Recovers`) comes back from its stored form: each cell is in the form of its
column's root type already, so reading it changes nothing, and the key stands at place zero with the other columns
behind it. A result over the stored forms of such rows hands out the rows, in order (`collect_ofRows`). -/

namespace TypedTables

variable {κ ρ : Type} [Kinds κ]

/-- The component of a row that stands in a column. -/
def Column.item (row : ρ) (column : Column κ ρ) : Item κ := ⟨column.kind, column.field.get row⟩

namespace Schema

/-- The stored form of the row's key and of its other components is decoded to these, and the factory makes the row of
    them. -/
structure Recovers (schema : Schema κ ρ) (row : ρ) : Prop where
  key : schema.key.field.type.decode (schema.key.encodeRow row) = .ok (schema.key.field.get row)
  fields : ∀ column ∈ schema.fields, column.field.type.decode (column.encodeRow row) = .ok (column.field.get row)
  factory : schema.build (schema.key.field.get row) (schema.fields.map (Column.item row)) = .ok row

theorem readItems_encodeRow {read : Nat → RootType → Except Error Value} {row : ρ} {columns : List (Column κ ρ)}
    {i : Nat} (cells : ∀ k column, columns[k]? = some column → read (i + k) column.root = .ok (column.encodeRow row))
    (decoded : ∀ column ∈ columns, column.field.type.decode (column.encodeRow row) = .ok (column.field.get row)) :
    readItems read i columns = .ok (columns.map (Column.item row)) := by
  induction columns generalizing i with
  | nil => rfl
  | cons column columns ih =>
    have cell : read i column.root = .ok (column.encodeRow row) := cells 0 column rfl
    have item : column.decode (column.encodeRow row) = .ok (column.item row) := by
      rw [Column.decode, decoded column List.mem_cons_self]
      rfl
    have items : readItems read (i + 1) columns = .ok (columns.map (Column.item row)) := by
      refine ih (fun k other ho => ?_) fun other ho => decoded other (List.mem_cons_of_mem _ ho)
      rw [Nat.add_assoc, Nat.add_comm 1 k]
      exact cells (k + 1) other ho
    rw [readItems, cell, items]
    simp only [bind, Except.bind, item]
    rfl

/-- A row is made again by a reader of its stored cells. -/
theorem materialise_encodeRow {schema : Schema κ ρ} {row : ρ} {read : Nat → RootType → Except Error Value}
    (recovers : schema.Recovers row)
    (cells : ∀ k column, schema.columns[k]? = some column → read k column.root = .ok (column.encodeRow row)) :
    schema.materialise read = .ok row := by
  have key : read 0 schema.key.root = .ok (schema.key.encodeRow row) := cells 0 schema.key rfl
  have items : readItems read 1 schema.fields = .ok (schema.fields.map (Column.item row)) := by
    refine readItems_encodeRow (fun k column hc => ?_) recovers.fields
    rw [Nat.add_comm]
    exact cells (k + 1) column hc
  rw [materialise, key]
  simp only [bind, Except.bind, recovers.key, items]
  exact recovers.factory

end Schema

/-- A stored cell is read as it is. -/
theorem BufferedCursor.read_encodeRow {schema : Schema κ ρ} {row : ρ} {cursor : BufferedCursor}
    (current : cursor.current = some (schema.encodeRow row)) {k : Nat} {column : Column κ ρ}
    (hc : schema.columns[k]? = some column) : cursor.read k column.root = .ok (column.encodeRow row) := by
  have cell : cursor.cell? k = some (column.encodeRow row) := by
    simp [cell?, current, Schema.encodeRow, hc]
  rw [read, cell]
  exact congrArg Except.ok (RootType.coerce_of_holds (column.field.type.holds_encode _))

/-- Rows that can be made again are told apart by their stored forms. -/
theorem Schema.encodeRow_injective {schema : Schema κ ρ} (recovers : ∀ row, schema.Recovers row) :
    Function.Injective schema.encodeRow := by
  intro row other same
  have made : ∀ row', schema.encodeRow row = schema.encodeRow row' →
      schema.materialise (BufferedCursor.read ⟨[], some (schema.encodeRow row), false⟩) = .ok row' :=
    fun row' same => schema.materialise_encodeRow (recovers row') fun _ _ hc =>
      BufferedCursor.read_encodeRow (congrArg some same) hc
  exact Except.ok.inj ((made row rfl).symm.trans (made other same))

namespace QueryResult

section
variable {γ : Type} [FiniteCursor γ] {schema : Schema κ ρ} {r s : QueryResult schema γ}

theorem drain_of_none (h : r.next = (.ok none, s)) : r.drain = (.ok [], s) := by
  rw [drain]
  split <;> simp_all

theorem drain_of_error {e : Error} (h : r.next = (.error e, s)) : r.drain = (.error e, s) := by
  rw [drain]
  split <;> simp_all

theorem drain_of_some {row : ρ} (h : r.next = (.ok (some row), s)) :
    r.drain = (s.drain.1.map (row :: ·), s.drain.2) := by
  rw [drain]
  split <;> simp_all

end

/-- A result over stored rows, none of which has been asked for. -/
def ofRows (schema : Schema κ ρ) (rows : List (List Value)) : QueryResult schema BufferedCursor :=
  { cursor := .ofRows rows }

variable {schema : Schema κ ρ}

theorem next_encodeRow {row : ρ} (recovers : schema.Recovers row) (rows : List (List Value))
    (current : Option (List Value)) :
    next ({ cursor := ⟨schema.encodeRow row :: rows, current, false⟩ } : QueryResult schema BufferedCursor) =
      (.ok (some row), { cursor := ⟨rows, some (schema.encodeRow row), false⟩ }) := by
  have made : schema.materialise (BufferedCursor.read ⟨rows, some (schema.encodeRow row), false⟩) = .ok row :=
    schema.materialise_encodeRow recovers fun _ _ hc => BufferedCursor.read_encodeRow rfl hc
  show ((schema.materialise _).map some, _) = _
  exact Prod.ext (congrArg (Except.map some) made) rfl

/-- The rows handed out are the rows whose stored forms stand in the cursor. -/
theorem collect_ofRows {rows : List ρ} (recovers : ∀ row ∈ rows, schema.Recovers row) :
    (ofRows schema (rows.map schema.encodeRow)).collect.1 = .ok rows := by
  suffices every : ∀ current : Option (List Value), drain
      ({ cursor := ⟨rows.map schema.encodeRow, current, false⟩ } : QueryResult schema BufferedCursor) =
        (.ok rows, { cursor := .close ⟨[], none, false⟩, isClosed := true }) from
    congrArg Prod.fst (every none)
  induction rows with
  | nil => exact fun current => drain_of_none rfl
  | cons row rows ih =>
    intro current
    have first := next_encodeRow (recovers row List.mem_cons_self) (rows.map schema.encodeRow) current
    have others := ih (fun other ho => recovers other (List.mem_cons_of_mem _ ho)) (some (schema.encodeRow row))
    rw [List.map_cons, drain_of_some first, others]
    rfl

end QueryResult

/-! ### Books -/

/-- The kinds of components of a book. -/
inductive BookKind where
  | text
  | count
  | remark
  deriving DecidableEq

instance : Kinds BookKind where
  decEq := inferInstance
  carrier
    | .text => String
    | .count => Int64
    | .remark => Option String
  name
    | .text => "String"
    | .count => "i64"
    | .remark => "Option<String>"

structure Book where
  code : String
  title : String
  copies : Int64
  remark : Option String
  deriving DecidableEq

/-- A row of a book, its components taken in the order of the columns. -/
def Book.taken (code : String) : Taking BookKind Book := do
  let title ← Taking.take BookKind.text
  let copies ← Taking.take BookKind.count
  let remark ← Taking.take BookKind.remark
  pure ⟨code, title, copies, remark⟩

def books : Schema BookKind Book where
  key := ⟨.text, { label := "code", type := .fixedString 13, get := Book.code }⟩
  fields :=
    [⟨.text, { label := "title", type := .text, get := Book.title }⟩,
      ⟨.count, { label := "copies", type := .bigInt, get := Book.copies }⟩,
      ⟨.remark, { label := "remark", type := .optional .text, get := Book.remark }⟩]
  factory code values := (Book.taken code).outcome values

theorem books_recovers (book : Book) : books.Recovers book where
  key := rfl
  fields := by
    have copies : FieldType.bigInt.decode (.integer book.copies) = .ok book.copies := by
      have range := And.intro book.copies.minValue_le_toInt book.copies.toInt_le
      simp only [FieldType.decode, FieldType.read, FieldType.integerIn, Value.integer?, if_pos range]
      rfl
    have remark : (FieldType.optional .text).decode ((FieldType.optional .text).encode book.remark) =
        .ok book.remark := by
      cases book.remark <;> rfl
    intro column hc
    simp only [books, List.mem_cons, List.not_mem_nil, or_false] at hc
    rcases hc with rfl | rfl | rfl
    · rfl
    · exact copies
    · exact remark
  factory := by
    simp [Schema.build, books, Book.taken]
    rfl

/-- Two books on a shelf. -/
def shelf : List Book := [⟨"978-0", "It's \"here\"", -3, none⟩, ⟨"978-1", "", 2, some "NULL"⟩]

theorem QueryResult.collect_shelf :
    (∀ book ∈ shelf, books.Recovers book) ∧ (ofRows books (shelf.map books.encodeRow)).collect.1 = .ok shelf :=
  ⟨fun book _ => books_recovers book, collect_ofRows fun book _ => books_recovers book⟩

end TypedTables
