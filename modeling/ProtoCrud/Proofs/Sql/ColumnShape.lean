import ProtoCrud.Proofs.Handler.CreatedRow
import ProtoCrud.Proofs.Text.Cut

/-!
# Shapes of columns and lists of their names

The store says in which shape it returns a column, and the code says as what it reads the column.
A type reads a shape if it takes every value of the shape, apart from integers out of its range.
The absence of a value is taken by the optional types and by no others.
-/

namespace ProtoCrud.Sql

/-- The shape of a value; the absence of a value has none. -/
def Value.kind? : Value → Option ColumnKind
  | .null => none
  | .bool _ => some .bool
  | .int _ => some .int
  | .uint _ => some .uint
  | .float _ => some .float
  | .text _ => some .text
  | .bytes _ => some .bytes
  | .timestamp _ => some .timestamp

/-- Whether a value is in the range of a type, if both are integers of some width. -/
def ColumnType.Spans : ColumnType → Value → Prop
  | .int32, value => ∀ whole ∈ value.whole?, -0x80000000 ≤ whole ∧ whole ≤ 0x7FFFFFFF
  | .uint32, value => ∀ whole ∈ value.whole?, 0 ≤ whole ∧ whole ≤ 0xFFFFFFFF
  | .optional type, value => type.Spans value
  | _, _ => True

/-- Whether a column of a shape can be read as a type. -/
structure ReadsKind (kind : ColumnKind) (type : ColumnType) : Prop where
  /-- Every value of the shape is read, if it is in range. -/
  fits : ∀ value, value.kind? = some kind → type.Spans value → Fits type value
  /-- The absence of a value is read as an optional type only. -/
  fits_null_iff : Fits type .null ↔ ∃ inner, type = .optional inner

theorem fits_null_iff (type : ColumnType) : Fits type .null ↔ ∃ inner, type = .optional inner := by
  constructor
  · intro h
    by_contra hplain
    exact not_fits_null (fun inner heq ↦ hplain ⟨inner, heq⟩) h
  · rintro ⟨inner, rfl⟩
    exact fits_optional_null inner

theorem ReadsKind.optional {kind : ColumnKind} {type : ColumnType} (h : ReadsKind kind type) :
    ReadsKind kind (.optional type) where
  fits value hkind hspans := (h.fits value hkind hspans).optional
  fits_null_iff := Sql.fits_null_iff _

theorem readsKind_text : ReadsKind .text .text where
  fits value hkind _ := by
    cases value <;> cases hkind
    rfl
  fits_null_iff := fits_null_iff _

theorem readsKind_timestamp : ReadsKind .timestamp .timestamp where
  fits value hkind _ := by
    cases value <;> cases hkind
    rfl
  fits_null_iff := fits_null_iff _

/-- The type of a scalar reads the columns of the scalar. -/
theorem readsKind_scalar (scalar : Schema.ScalarType) :
    ReadsKind scalar.columnKind scalar.columnType where
  fits value hkind hspans := by
    cases scalar <;> cases value <;> cases hkind
    case int32.int number =>
      have hrange := hspans _ rfl
      rw [Fits, Schema.ScalarType.columnType, ColumnType.ofValue?, Option.isSome_map]
      exact isSome_wholeWithin? rfl hrange.1 hrange.2
    case uint32.uint number =>
      have hrange := hspans _ rfl
      rw [Fits, Schema.ScalarType.columnType, ColumnType.ofValue?, Option.isSome_map]
      exact isSome_wholeWithin? rfl hrange.1 hrange.2
    case int64.int number => exact fits_toValue .int64 number
    case uint64.uint number => exact fits_toValue .uint64 number
    all_goals rfl
  fits_null_iff := fits_null_iff _

def listedNames (text : String) : List String :=
  if text = "" then []
  else (Text.splitAll ',' text.toList).map fun part ↦
    String.ofList (part.dropWhile (· == ' '))

/-- Whether a name can be read out of a list: it is not empty and without commas and blanks. -/
structure IsListable (name : List Char) : Prop where
  ne_nil : name ≠ []
  comma_notMem : ',' ∉ name
  blank_notMem : ' ' ∉ name

theorem dropWhile_blank {name : List Char} (h : ' ' ∉ name) :
    name.dropWhile (· == ' ') = name := by
  cases name with
  | nil => rfl
  | cons c rest =>
    rw [List.mem_cons, not_or] at h
    exact List.dropWhile_cons_of_neg (by simpa using Ne.symm h.1)

/-- A blank in front of a list changes nothing but its first part. -/
theorem map_dropWhile_splitAll (text : List Char) :
    (Text.splitAll ',' (' ' :: text)).map (List.dropWhile (· == ' ')) =
      (Text.splitAll ',' text).map (List.dropWhile (· == ' ')) := by
  rw [Text.splitAll, if_neg (by decide)]
  split
  · next h => exact absurd h (Text.splitAll_ne_nil ',' text)
  · next part parts h =>
    rw [h, List.map_cons, List.map_cons, List.dropWhile_cons_of_pos rfl]

theorem map_splitAll_intercalate {first : List Char} {others : List (List Char)}
    (h : ∀ name ∈ first :: others, IsListable name) :
    (Text.splitAll ',' ([',', ' '].intercalate (first :: others))).map
      (List.dropWhile (· == ' ')) = first :: others := by
  induction others generalizing first with
  | nil =>
    have hfirst := h first List.mem_cons_self
    rw [List.intercalate_singleton, Text.splitAll_of_notMem hfirst.comma_notMem,
      List.map_singleton, dropWhile_blank hfirst.blank_notMem]
  | cons next others ih =>
    obtain ⟨hfirst, hothers⟩ := List.forall_mem_cons.mp h
    rw [List.intercalate_cons_cons, List.append_assoc, List.cons_append, List.singleton_append,
      Text.splitAll_append_cons hfirst.comma_notMem, List.map_cons, map_dropWhile_splitAll,
      ih hothers, dropWhile_blank hfirst.blank_notMem]

/-- A comma list of names is read back. -/
theorem listedNames_commaList {names : List String} (h : ∀ name ∈ names, IsListable name.toList) :
    listedNames (commaList names) = names := by
  cases names with
  | nil => rfl
  | cons first others =>
    have hchars : (commaList (first :: others)).toList =
        [',', ' '].intercalate (first.toList :: others.map String.toList) :=
      String.toList_intercalate
    have hparts : (Text.splitAll ',' (commaList (first :: others)).toList).map
        (List.dropWhile (· == ' ')) = first.toList :: others.map String.toList := by
      rw [hchars]
      exact map_splitAll_intercalate (List.forall_mem_map.mpr h)
    have hne : commaList (first :: others) ≠ "" := by
      intro hempty
      rw [hempty] at hparts
      exact (h first List.mem_cons_self).ne_nil (List.cons.inj hparts).1.symm
    calc listedNames (commaList (first :: others))
      _ = ((Text.splitAll ',' (commaList (first :: others)).toList).map
          (List.dropWhile (· == ' '))).map String.ofList := by
        rw [listedNames, if_neg hne, List.map_map]
        rfl
      _ = first :: others := by
        rw [hparts]
        simp

end ProtoCrud.Sql
