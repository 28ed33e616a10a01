import Mathlib.Algebra.Group.Int.Defs
import ProtoCrud.Sql.Row

/-!
# What is read from a column

A value is read as an integer type by the number that it holds, whichever of the two integer sorts
it is of, and only if the type has that number. What does not fit is handed back as it was. So a
datum that was stored without rounding is read back, also where it may be absent.
-/

namespace ProtoCrud.Sql

open Number

/-- The mathematical value of an integer column. -/
def Value.whole? : Value → Option Int
  | .int i => some i.toInt
  | .uint u => some u.toNat
  | _ => none

/-- The value of an integer column, if it is at least `low` and at most `high`. -/
def Value.wholeWithin? (low high : Int) (v : Value) : Option Int :=
  v.whole?.filter fun n ↦ low ≤ n && n ≤ high

/-- A number column; integers of the signed sort are rounded to the nearest number. -/
def Value.double? : Value → Option Double
  | .float x => some x
  | .int i => some (.ofInt i.toInt)
  | _ => none

/-- What a value is as the type; `none` if the value does not fit it. -/
def ColumnType.ofValue? : (type : ColumnType) → Value → Option type.Carrier
  | .text, .text s => some s
  | .text, _ => none
  | .bytes, .bytes b => some b
  | .bytes, .text s => some (utf8 s)
  | .bytes, _ => none
  | .bool, .bool b => some b
  | .bool, v => v.whole?.map (· != 0)
  | .int32, v => (v.wholeWithin? (-0x80000000) 0x7FFFFFFF).map Int32.ofInt
  | .int64, v => (v.wholeWithin? (-0x8000000000000000) 0x7FFFFFFFFFFFFFFF).map Int64.ofInt
  | .uint32, v => (v.wholeWithin? 0 0xFFFFFFFF).map fun n ↦ UInt32.ofNat n.toNat
  | .uint64, v => (v.wholeWithin? 0 0xFFFFFFFFFFFFFFFF).map fun n ↦ UInt64.ofNat n.toNat
  | .single, v => v.double?.map Double.toSingle
  | .double, v => v.double?
  | .timestamp, .timestamp t => some t
  | .timestamp, _ => none
  | .optional _, .null => some none
  | .optional type, v => (type.ofValue? v).map some

/-- A reading that hands back what it cannot read. -/
def orRefused {α : Type} (value : Value) : Option α → Except Value α
  | some datum => .ok datum
  | none => .error value

theorem readWhole_eq {α : Type} (low high : Int) (ofWhole : Int → α) (value : Value) :
    value.readWhole low high ofWhole =
      orRefused value ((value.wholeWithin? low high).map ofWhole) := by
  cases value with
  | int i =>
    rw [Value.readWhole, Value.wholeWithin?, Value.whole?, Option.filter_some]
    by_cases hrange : low ≤ i.toInt ∧ i.toInt ≤ high <;> simp [hrange, orRefused]
  | uint u =>
    rw [Value.readWhole, Value.wholeWithin?, Value.whole?, Option.filter_some]
    by_cases hrange : low ≤ (u.toNat : Int) ∧ (u.toNat : Int) ≤ high <;>
      simp [hrange, orRefused]
  | _ => rfl

theorem readDouble_eq (value : Value) : value.readDouble = orRefused value value.double? := by
  cases value <;> rfl

theorem map_orRefused {α β : Type} (f : α → β) (value : Value) (datum : Option α) :
    (orRefused value datum).map f = orRefused value (datum.map f) := by
  cases datum <;> rfl

theorem orRefused_eq_ok_iff {α : Type} {value : Value} {found : Option α} {datum : α} :
    orRefused value found = .ok datum ↔ found = some datum := by
  cases found <;> simp [orRefused]

theorem orRefused_eq_error_iff {α : Type} {value refused : Value} {found : Option α} :
    orRefused value found = .error refused ↔ found = none ∧ refused = value := by
  cases found <;> simp [orRefused, eq_comm]

/-- A value is read as what it is as the type, and is handed back if it is nothing of the kind. -/
theorem read_eq (type : ColumnType) (value : Value) :
    type.read value = orRefused value (type.ofValue? value) := by
  induction type with
  | text => cases value <;> rfl
  | bytes => cases value <;> rfl
  | bool =>
    cases value with
    | int i =>
      have hzero : (i.toInt != 0) = (i != 0) := by
        rw [Bool.eq_iff_iff]
        simp [← Int64.toInt_inj]
      exact congrArg Except.ok hzero.symm
    | uint u =>
      have hzero : ((u.toNat : Int) != 0) = (u != 0) := by
        rw [Bool.eq_iff_iff]
        simp [← UInt64.toNat_inj]
      exact congrArg Except.ok hzero.symm
    | _ => rfl
  | int32 => exact readWhole_eq _ _ _ value
  | int64 => exact readWhole_eq _ _ _ value
  | uint32 => exact readWhole_eq _ _ _ value
  | uint64 => exact readWhole_eq _ _ _ value
  | single => rw [ColumnType.read, ColumnType.ofValue?, readDouble_eq, map_orRefused]
  | double => exact readDouble_eq value
  | timestamp => cases value <;> rfl
  | optional type ih =>
    cases value with
    | null => rfl
    | _ => exact (congrArg (Except.map some) ih).trans (map_orRefused some _ _)

/-- A read of a column gives what its value is as the type, or reports the value. -/
theorem take_cons (type : ColumnType) (index : Nat) (value : Value) (rest : List Value) :
    Cursor.take ⟨index, value :: rest⟩ type =
      ((type.ofValue? value).elim (.error (.typeMismatch index type value)) .ok,
        ⟨index + 1, rest⟩) := by
  rw [Cursor.take]
  dsimp only
  rw [read_eq]
  cases type.ofValue? value <;> rfl

/-- The integer types that a column is read as. -/
inductive WholeType where
  | int32
  | int64
  | uint32
  | uint64

namespace WholeType

def column : WholeType → ColumnType
  | .int32 => .int32
  | .int64 => .int64
  | .uint32 => .uint32
  | .uint64 => .uint64

def number : (type : WholeType) → type.column.Carrier → Int
  | .int32, n => Int32.toInt n
  | .int64, n => Int64.toInt n
  | .uint32, n => UInt32.toNat n
  | .uint64, n => UInt64.toNat n

def ofNumber : (type : WholeType) → Int → type.column.Carrier
  | .int32, n => Int32.ofInt n
  | .int64, n => Int64.ofInt n
  | .uint32, n => UInt32.ofNat n.toNat
  | .uint64, n => UInt64.ofNat n.toNat

def least : WholeType → Int
  | .int32 => -2 ^ 31
  | .int64 => -2 ^ 63
  | .uint32 => 0
  | .uint64 => 0

def greatest : WholeType → Int
  | .int32 => 2 ^ 31 - 1
  | .int64 => 2 ^ 63 - 1
  | .uint32 => 2 ^ 32 - 1
  | .uint64 => 2 ^ 64 - 1

variable {type : WholeType}

theorem number_injective : Function.Injective type.number := by
  cases type with
  | int32 => exact fun n m h ↦ Int32.toInt_inj.mp h
  | int64 => exact fun n m h ↦ Int64.toInt_inj.mp h
  | uint32 => exact fun n m h ↦ UInt32.toNat_inj.mp (Int.ofNat_inj.mp h)
  | uint64 => exact fun n m h ↦ UInt64.toNat_inj.mp (Int.ofNat_inj.mp h)

theorem least_le_number (datum : type.column.Carrier) : type.least ≤ type.number datum := by
  cases type with
  | int32 => exact Int32.le_toInt datum
  | int64 => exact Int64.le_toInt datum
  | uint32 => exact Int.natCast_nonneg _
  | uint64 => exact Int.natCast_nonneg _

theorem number_le_greatest (datum : type.column.Carrier) : type.number datum ≤ type.greatest := by
  cases type with
  | int32 => exact Int.le_sub_one_of_lt (Int32.toInt_lt datum)
  | int64 => exact Int.le_sub_one_of_lt (Int64.toInt_lt datum)
  | uint32 =>
    have h := UInt32.toNat_lt datum
    simp only [number, greatest]
    omega
  | uint64 =>
    have h := UInt64.toNat_lt datum
    simp only [number, greatest]
    omega

theorem number_ofNumber {n : Int} (hleast : type.least ≤ n) (hgreatest : n ≤ type.greatest) :
    type.number (type.ofNumber n) = n := by
  cases type with
  | int32 => exact Int32.toInt_ofInt_of_le hleast (Int.lt_of_le_sub_one hgreatest)
  | int64 => exact Int64.toInt_ofInt_of_le hleast (Int.lt_of_le_sub_one hgreatest)
  | uint32 =>
    simp only [least, greatest] at hleast hgreatest
    simp only [number, ofNumber, UInt32.toNat_ofNat']
    omega
  | uint64 =>
    simp only [least, greatest] at hleast hgreatest
    simp only [number, ofNumber, UInt64.toNat_ofNat']
    omega

/-- A value is an integer type if it has a number of the type. -/
theorem ofValue?_column (value : Value) : type.column.ofValue? value =
    (value.wholeWithin? type.least type.greatest).map type.ofNumber := by
  cases type <;> rfl

end WholeType

/-- A column that holds a number in one of the two integer sorts. -/
inductive Value.IsWhole : Value → Int → Prop
  | int (i : Int64) : IsWhole (.int i) i.toInt
  | uint (u : UInt64) : IsWhole (.uint u) u.toNat

theorem whole?_eq_some_iff {value : Value} {n : Int} :
    value.whole? = some n ↔ value.IsWhole n := by
  constructor
  · intro h
    cases value with
    | int i =>
      obtain rfl := Option.some.inj h
      exact .int i
    | uint u =>
      obtain rfl := Option.some.inj h
      exact .uint u
    | _ => cases h
  · rintro (i | u) <;> rfl

theorem wholeWithin?_eq_some_iff {value : Value} {low high n : Int} :
    value.wholeWithin? low high = some n ↔ value.IsWhole n ∧ low ≤ n ∧ n ≤ high := by
  rw [Value.wholeWithin?, Option.filter_eq_some_iff, whole?_eq_some_iff, Bool.and_eq_true,
    decide_eq_true_eq, decide_eq_true_eq]

/-- An integer type is read from the integer columns whose number it has, and gives that number. -/
theorem exists_read_eq_ok_iff (type : WholeType) (value : Value) (n : Int) :
    (∃ datum, type.column.read value = .ok datum ∧ type.number datum = n) ↔
      value.IsWhole n ∧ type.least ≤ n ∧ n ≤ type.greatest := by
  have hread (datum : type.column.Carrier) : type.column.read value = .ok datum ↔
      ∃ m, (value.IsWhole m ∧ type.least ≤ m ∧ m ≤ type.greatest) ∧ type.ofNumber m = datum := by
    rw [read_eq, orRefused_eq_ok_iff, WholeType.ofValue?_column, Option.map_eq_some_iff]
    simp only [wholeWithin?_eq_some_iff]
  constructor
  · rintro ⟨datum, hdatum, rfl⟩
    obtain ⟨m, ⟨hwhole, hleast, hgreatest⟩, rfl⟩ := (hread datum).mp hdatum
    rw [WholeType.number_ofNumber hleast hgreatest]
    exact ⟨hwhole, hleast, hgreatest⟩
  · intro h
    exact ⟨type.ofNumber n, (hread _).mpr ⟨n, h, rfl⟩, WholeType.number_ofNumber h.2.1 h.2.2⟩

/-- An integer is stored as its number. -/
theorem isWhole_toValue (type : WholeType) (datum : type.column.Carrier) :
    (type.column.toValue datum).IsWhole (type.number datum) := by
  rw [← whole?_eq_some_iff]
  cases type with
  | int32 => exact congrArg some (Int32.toInt_toInt64 datum)
  | int64 => rfl
  | uint32 => exact congrArg (some ∘ Int.ofNat) (UInt32.toNat_toUInt64 datum)
  | uint64 => rfl

/-- The types whose data do not become floating point numbers in a column. -/
inductive IsExact : ColumnType → Prop
  | text : IsExact .text
  | bytes : IsExact .bytes
  | bool : IsExact .bool
  | timestamp : IsExact .timestamp
  | whole (type : WholeType) : IsExact type.column

theorem read_toValue {type : ColumnType} (h : IsExact type) (datum : type.Carrier) :
    type.read (type.toValue datum) = .ok datum := by
  cases h with
  | text => rfl
  | bytes => rfl
  | bool => rfl
  | timestamp => rfl
  | whole type =>
    obtain ⟨found, hread, hnumber⟩ := (exists_read_eq_ok_iff type _ _).mpr
      ⟨isWhole_toValue type datum, type.least_le_number datum, type.number_le_greatest datum⟩
    rw [hread, WholeType.number_injective hnumber]

/-- The absence of a value is read as an optional type only. -/
theorem read_null {type : ColumnType} (h : ∀ inner, type ≠ .optional inner) :
    type.read .null = .error .null := by
  cases type with
  | optional inner => exact absurd rfl (h inner)
  | _ => rfl

theorem IsExact.ne_optional {type : ColumnType} (h : IsExact type) (inner : ColumnType) :
    type ≠ .optional inner := by
  cases h with
  | whole type => cases type <;> exact ColumnType.noConfusion
  | _ => exact ColumnType.noConfusion

theorem read_optional {type : ColumnType} {value : Value} (h : value ≠ .null) :
    (ColumnType.optional type).read value = (type.read value).map some := by
  cases value with
  | null => exact absurd rfl h
  | _ => rfl

/-- An optional type is read from what its type is read from, and from the absence of a value. -/
theorem read_optional_eq_ok_iff {type : ColumnType} (h : ∀ inner, type ≠ .optional inner)
    (value : Value) (datum : Option type.Carrier) :
    (ColumnType.optional type).read value = .ok datum ↔
      (value = .null ∧ datum = none) ∨
        ∃ held, datum = some held ∧ type.read value = .ok held := by
  by_cases hnull : value = .null
  · subst hnull
    rw [read_null h, ColumnType.read]
    simp [eq_comm]
  · rw [read_optional hnull]
    cases type.read value <;> simp [hnull, Except.map, eq_comm]

theorem read_optional_toValue {type : ColumnType} (h : IsExact type)
    (datum : Option type.Carrier) :
    (ColumnType.optional type).read ((ColumnType.optional type).toValue datum) = .ok datum := by
  rw [read_optional_eq_ok_iff h.ne_optional]
  cases datum with
  | none => exact .inl ⟨rfl, rfl⟩
  | some held => exact .inr ⟨held, rfl, read_toValue h held⟩

theorem eq_of_read_eq_error {type : ColumnType} {value refused : Value}
    (h : type.read value = .error refused) : refused = value := by
  rw [read_eq, orRefused_eq_error_iff] at h
  exact h.2

/-- A read of a column fails if its value is refused, and reports that value. -/
theorem take_eq_error_iff (type : ColumnType) (index : Nat) (value : Value) (rest : List Value)
    (e : RowError) :
    (Cursor.take ⟨index, value :: rest⟩ type).1 = .error e ↔
      type.read value = .error value ∧ e = .typeMismatch index type value := by
  rw [take_cons, read_eq]
  cases type.ofValue? value <;> simp [orRefused, eq_comm]

/--
A datum that is no floating point number, or may be absent, is read back from the value that stores
it. An integer type is read from exactly the integer columns with a number in its range, and that
number is what is read. An optional type is read from what its type is read from, and from the
absence of a value. A value that is not read is handed back and reported as it was.
-/
theorem read_isFaithful :
    (∀ type, IsExact type → (∀ datum, type.read (type.toValue datum) = .ok datum) ∧
      ∀ datum, (ColumnType.optional type).read ((ColumnType.optional type).toValue datum) =
        .ok datum) ∧
    (∀ (type : WholeType) (value : Value) (n : Int),
      (∃ datum, type.column.read value = .ok datum ∧ type.number datum = n) ↔
        value.IsWhole n ∧ type.least ≤ n ∧ n ≤ type.greatest) ∧
    (∀ type : ColumnType, (∀ inner, type ≠ .optional inner) → ∀ value datum,
      (ColumnType.optional type).read value = .ok datum ↔
        (value = .null ∧ datum = none) ∨
          ∃ held, datum = some held ∧ type.read value = .ok held) ∧
    (∀ (type : ColumnType) (value refused : Value), type.read value = .error refused →
      refused = value) ∧
    ∀ (type : ColumnType) (index : Nat) (value : Value) (rest : List Value) (e : RowError),
      (Cursor.take ⟨index, value :: rest⟩ type).1 = .error e ↔
        type.read value = .error value ∧ e = .typeMismatch index type value :=
  ⟨fun _ h ↦ ⟨read_toValue h, read_optional_toValue h⟩,
    exists_read_eq_ok_iff,
    fun _ ↦ read_optional_eq_ok_iff,
    fun _ _ _ ↦ eq_of_read_eq_error,
    take_eq_error_iff⟩

/-- The greatest number of 32 bits without sign is read from the signed sort, one more is not. -/
theorem read_atBoundary :
    (∃ datum, ColumnType.uint32.read (.int 0xFFFFFFFF) = .ok datum ∧
      WholeType.uint32.number datum = 0xFFFFFFFF) ∧
    (∀ datum, ColumnType.uint32.read (.int 0x100000000) ≠ .ok datum) ∧
    (∀ refused, ColumnType.uint32.read (.int 0x100000000) = .error refused →
      refused = .int 0x100000000) ∧
    (ColumnType.optional .int32).read ((ColumnType.optional .int32).toValue (some (-1))) =
      .ok (some (-1)) ∧
    (ColumnType.optional .text).read .null = .ok none ∧
    (Cursor.take ⟨3, [.int 0x100000000]⟩ .uint32).1 =
      .error (.typeMismatch 3 .uint32 (.int 0x100000000)) := by
  obtain ⟨hstored, hwhole, hoptional, hrefused, htake⟩ := read_isFaithful
  refine ⟨(hwhole .uint32 _ _).mpr ⟨.int 0xFFFFFFFF, by decide, by decide⟩, fun datum hread ↦ ?_,
    hrefused .uint32 _, (hstored .int32 (.whole .int32)).2 (some (-1)),
    (hoptional .text (fun _ ↦ ColumnType.noConfusion) .null none).mpr (.inl ⟨rfl, rfl⟩),
    (htake .uint32 3 _ [] _).mpr ⟨rfl, rfl⟩⟩
  obtain ⟨hnumber, -, hgreatest⟩ := (hwhole .uint32 _ _).mp ⟨datum, hread, rfl⟩
  have hvalue : WholeType.uint32.number datum = 0x100000000 :=
    Option.some.inj ((whole?_eq_some_iff.mpr hnumber).symm.trans rfl)
  rw [hvalue] at hgreatest
  exact absurd hgreatest (by decide)

end ProtoCrud.Sql
