import ProtoCrud.Proofs.Sql.Reading

/-!
# Reading a row column by column

A cursor keeps the number of columns it has consumed apart from the columns that are left, and a
read can end in three ways. Each of them leaves the two in step: a read consumes a column whether
or not its value fits, and behind the last column it consumes nothing and counts nothing. So any
row of reads comes to what the columns say one by one, whatever has failed before.
-/

namespace ProtoCrud.Sql

/-- A read of a column: the type that was asked for, and what came of it. -/
structure Take where
  type : ColumnType
  outcome : Except RowError type.Carrier

/-- Reads columns in turn and goes on whether or not a read has failed. -/
def Cursor.takeEach (cursor : Cursor) : List ColumnType → List Take × Cursor
  | [] => ([], cursor)
  | type :: types =>
    let (outcome, next) := cursor.take type
    let (takes, last) := next.takeEach types
    (⟨type, outcome⟩ :: takes, last)

/-- What the column at an index comes to as a type, without regard to any other column. -/
def Row.readAt (row : Row) (index : Nat) (type : ColumnType) : Except RowError type.Carrier :=
  match row.values[index]? with
  | none => .error (.missingColumn row.values.length)
  | some value =>
    match type.read value with
    | .ok datum => .ok datum
    | .error _ => .error (.typeMismatch index type value)

def Row.cursorBehind (row : Row) (reads : Nat) : Cursor :=
  ⟨min reads row.values.length, row.values.drop reads⟩

theorem cursorBehind_zero (row : Row) : row.cursorBehind 0 = row.cursor := by
  rw [Row.cursorBehind, Row.cursor, Nat.zero_min, List.drop_zero]

/-- The index of a cursor is the number of columns that it has consumed. -/
theorem index_add_length_remaining (row : Row) (reads : Nat) :
    (row.cursorBehind reads).index + (row.cursorBehind reads).remaining.length =
      row.values.length := by
  rw [Row.cursorBehind]
  dsimp only
  rw [List.length_drop]
  omega

theorem remaining_eq_drop_index (row : Row) (reads : Nat) :
    (row.cursorBehind reads).remaining = row.values.drop (row.cursorBehind reads).index := by
  rw [Row.cursorBehind]
  rcases Nat.le_total reads row.values.length with hle | hle
  · rw [Nat.min_eq_left hle]
  · rw [Nat.min_eq_right hle, List.drop_length, List.drop_of_length_le hle]

/-- A read gives what its own column comes to and leaves the cursor behind one more read. -/
theorem take_cursorBehind (row : Row) (reads : Nat) (type : ColumnType) :
    (row.cursorBehind reads).take type = (row.readAt reads type, row.cursorBehind (reads + 1)) := by
  by_cases hreads : reads < row.values.length
  · have hcolumn : row.cursorBehind reads =
        ⟨reads, row.values[reads] :: row.values.drop (reads + 1)⟩ := by
      rw [Row.cursorBehind, Nat.min_eq_left (Nat.le_of_lt hreads), List.drop_eq_getElem_cons hreads]
    have hnext : row.cursorBehind (reads + 1) = ⟨reads + 1, row.values.drop (reads + 1)⟩ := by
      rw [Row.cursorBehind, Nat.min_eq_left hreads]
    rw [hcolumn, hnext, take_cons, Row.readAt, List.getElem?_eq_getElem hreads]
    dsimp only
    rw [read_eq]
    cases type.ofValue? row.values[reads] <;> rfl
  · have hend : row.values.length ≤ reads := Nat.le_of_not_lt hreads
    have hbehind (later : Nat) (hlater : reads ≤ later) :
        row.cursorBehind later = ⟨row.values.length, []⟩ := by
      rw [Row.cursorBehind, Nat.min_eq_right (by omega), List.drop_of_length_le (by omega)]
    rw [hbehind reads (Nat.le_refl reads), hbehind (reads + 1) (Nat.le_succ reads), Cursor.take,
      Row.readAt, List.getElem?_eq_none hend]

/-- Reads that follow on others give what their own columns come to. -/
theorem takeEach_cursorBehind (row : Row) (reads : Nat) (types : List ColumnType) :
    (row.cursorBehind reads).takeEach types =
      (types.mapIdx fun i type ↦ ⟨type, row.readAt (reads + i) type⟩,
        row.cursorBehind (reads + types.length)) := by
  induction types generalizing reads with
  | nil => rfl
  | cons type types ih =>
    have hindex (i : Nat) : reads + 1 + i = reads + (i + 1) := by omega
    rw [Cursor.takeEach, take_cursorBehind]
    dsimp only
    rw [ih, List.mapIdx_cons, List.length_cons, hindex]
    simp only [hindex, Nat.add_zero]

/-- What any row of reads comes to that starts in front of the first column. -/
structure TakesByColumn (row : Row) (types : List ColumnType) (takes : List Take)
    (last : Cursor) : Prop where
  /-- The read at a position depends on the column there and on the type that is asked for. -/
  takes : takes = types.mapIdx fun i type ↦ ⟨type, row.readAt i type⟩
  /-- The cursor has consumed as many columns as there were reads, or all. -/
  index : last.index = min types.length row.values.length
  remaining : last.remaining = row.values.drop last.index
  consumed : last.index + last.remaining.length = row.values.length

/--
Whatever has been read before and has come of it, the read at a position gives what the column
there comes to as the type asked for: its datum, or a mismatch with the position and the value of
the column, or, behind the last column, that the column is missing whose index is the number of
columns. After any number of reads the index of the cursor is the number of consumed columns.
-/
theorem takeEach_isByColumn (row : Row) (types : List ColumnType) :
    TakesByColumn row types (row.cursor.takeEach types).1 (row.cursor.takeEach types).2 := by
  have hrun := takeEach_cursorBehind row 0 types
  rw [cursorBehind_zero, Nat.zero_add] at hrun
  simp only [Nat.zero_add] at hrun
  rw [hrun]
  constructor
  case takes => rfl
  case index => rfl
  case remaining => exact remaining_eq_drop_index row types.length
  case consumed => exact index_add_length_remaining row types.length

/-- A mismatch does not shift the reads behind it, and the reads behind the end all say the same. -/
example : (Row.cursor ⟨[.text "abc", .int 7]⟩).takeEach [.int64, .int32, .text, .bool] =
    ([⟨.int64, .error (.typeMismatch 0 .int64 (.text "abc"))⟩, ⟨.int32, .ok 7⟩,
      ⟨.text, .error (.missingColumn 2)⟩, ⟨.bool, .error (.missingColumn 2)⟩], ⟨2, []⟩) := rfl

end ProtoCrud.Sql
