import ProtoCrud.Number.Shortest
import ProtoCrud.Text.Quoted

/-!
# Values of columns and arguments

A value is what one column of a row holds or what one placeholder of a statement is bound to.
`Value.describe` is the text by which error messages show it.
-/

namespace ProtoCrud.Sql

open Number

/-- A point in time: seconds since the epoch and nanoseconds. -/
structure Timestamp where
  seconds : Int64
  nanos : Int32
  deriving DecidableEq

/-- A column value or a bound argument. -/
inductive Value where
  | null
  | bool (b : Bool)
  | int (i : Int64)
  | uint (u : UInt64)
  | float (x : Double)
  | text (s : String)
  | bytes (b : List UInt8)
  | timestamp (t : Timestamp)
  deriving DecidableEq

def bracketed (entries : List String) : String :=
  "[" ++ ", ".intercalate entries ++ "]"

/-- The text of a timestamp with its two fields named. -/
def Timestamp.describe (t : Timestamp) : String :=
  "Timestamp \x7b seconds: " ++ toString t.seconds.toInt ++ ", nanos: " ++ toString t.nanos.toInt ++
    " \x7d"

/-- The kind of a value and, in parentheses, the value. -/
def Value.describe : Value → String
  | .null => "Null"
  | .bool b => "Bool(" ++ (if b then "true" else "false") ++ ")"
  | .int i => "Int(" ++ toString i.toInt ++ ")"
  | .uint u => "UInt(" ++ toString u.toNat ++ ")"
  | .float x => "Float(" ++ x.text ++ ")"
  | .text s => "Text(" ++ Text.quoted s ++ ")"
  | .bytes b => "Bytes(" ++ bracketed (b.map fun byte ↦ toString byte.toNat) ++ ")"
  | .timestamp t => "Timestamp(" ++ t.describe ++ ")"

end ProtoCrud.Sql
