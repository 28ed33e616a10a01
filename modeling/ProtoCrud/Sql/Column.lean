import ProtoCrud.Sql.Value

/-!
# Columns: storage kinds and the types read from them

A `ColumnKind` says in which shape the store returns a column, a `ColumnType` as what a record
reads it. Reading never wraps: an integer is read from either storage integer if its value lies in
the range of the type, and everything that does not fit is refused. Writing (`toValue`) picks the
widest value of the same sort.
-/

namespace ProtoCrud.Sql

open Number

/-- The shape in which a store returns a column. -/
inductive ColumnKind where
  | bool
  | int
  | uint
  | float
  | text
  | bytes
  | timestamp
  deriving DecidableEq

def ColumnKind.name : ColumnKind → String
  | .bool => "Bool"
  | .int => "Int"
  | .uint => "UInt"
  | .float => "Float"
  | .text => "Text"
  | .bytes => "Bytes"
  | .timestamp => "Timestamp"

inductive ColumnType where
  | text
  | bytes
  | bool
  | int32
  | int64
  | uint32
  | uint64
  | single
  | double
  | timestamp
  /-- The absence of a value is read as well. -/
  | optional (type : ColumnType)
  deriving DecidableEq

namespace ColumnType

@[reducible] def Carrier : ColumnType → Type
  | .text => String
  | .bytes => List UInt8
  | .bool => Bool
  | .int32 => Int32
  | .int64 => Int64
  | .uint32 => UInt32
  | .uint64 => UInt64
  | .single => Single
  | .double => Double
  | .timestamp => Timestamp
  | .optional type => Option type.Carrier

def name : ColumnType → String
  | .text => "text"
  | .bytes => "bytes"
  | .bool => "bool"
  | .int32 => "i32"
  | .int64 => "i64"
  | .uint32 => "u32"
  | .uint64 => "u64"
  | .single => "float"
  | .double => "float"
  | .timestamp => "timestamp"
  | .optional type => type.name

end ColumnType

/--
Reads an integer column as one of the numbers from `low` to `high`. A value that is no integer or
out of range is handed back.
-/
def Value.readWhole {α : Type} (low high : Int) (ofWhole : Int → α) : Value → Except Value α
  | .int i => if low ≤ i.toInt ∧ i.toInt ≤ high then .ok (ofWhole i.toInt) else .error (.int i)
  | .uint u => if low ≤ u.toNat ∧ u.toNat ≤ high then .ok (ofWhole u.toNat) else .error (.uint u)
  | other => .error other

/-- Reads a number column; integers of the signed sort are rounded to the nearest number. -/
def Value.readDouble : Value → Except Value Double
  | .float x => .ok x
  | .int i => .ok (.ofInt i.toInt)
  | other => .error other

def utf8 (s : String) : List UInt8 :=
  s.toUTF8.data.toList

namespace ColumnType

/-- Reads a value as the type. A value that does not fit the type is handed back. -/
def read : (type : ColumnType) → Value → Except Value type.Carrier
  | .text, .text s => .ok s
  | .text, other => .error other
  | .bytes, .bytes b => .ok b
  | .bytes, .text s => .ok (utf8 s)
  | .bytes, other => .error other
  | .bool, .bool b => .ok b
  | .bool, .int i => .ok (i != 0)
  | .bool, .uint u => .ok (u != 0)
  | .bool, other => .error other
  | .int32, v => v.readWhole (-0x80000000) 0x7FFFFFFF Int32.ofInt
  | .int64, v => v.readWhole (-0x8000000000000000) 0x7FFFFFFFFFFFFFFF Int64.ofInt
  | .uint32, v => v.readWhole 0 0xFFFFFFFF fun n ↦ UInt32.ofNat n.toNat
  | .uint64, v => v.readWhole 0 0xFFFFFFFFFFFFFFFF fun n ↦ UInt64.ofNat n.toNat
  | .single, v => v.readDouble.map Double.toSingle
  | .double, v => v.readDouble
  | .timestamp, .timestamp t => .ok t
  | .timestamp, other => .error other
  | .optional _, .null => .ok none
  | .optional type, other => (type.read other).map some

def toValue : (type : ColumnType) → type.Carrier → Value
  | .text, s => .text s
  | .bytes, b => .bytes b
  | .bool, b => .bool b
  | .int32, i => .int i.toInt64
  | .int64, i => .int i
  | .uint32, u => .uint u.toUInt64
  | .uint64, u => .uint u
  | .single, x => .float x.toDouble
  | .double, x => .float x
  | .timestamp, t => .timestamp t
  | .optional _, none => .null
  | .optional type, some datum => type.toValue datum

/-- The default of a type: zero, the empty text, the epoch, or no value. -/
def zero : (type : ColumnType) → type.Carrier
  | .text => ""
  | .bytes => []
  | .bool => false
  | .int32 => 0
  | .int64 => 0
  | .uint32 => 0
  | .uint64 => 0
  | .single => ⟨0⟩
  | .double => ⟨0⟩
  | .timestamp => ⟨0, 0⟩
  | .optional _ => none

end ColumnType

end ProtoCrud.Sql
