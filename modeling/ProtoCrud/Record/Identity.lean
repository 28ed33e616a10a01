import ProtoCrud.Text.Quoted

/-!
# Identities of new rows

A new row is identified by 128 bits, all of them random but six: four of them give the version,
which is four, and two the variant. Its text has 32 digits in base sixteen in five groups.
-/

namespace ProtoCrud.Record

structure Identity where
  high : UInt64
  low : UInt64
  deriving DecidableEq

namespace Identity

/-- The identity with the given bits, apart from those of version and variant. -/
def ofRandomBits (high low : UInt64) : Identity :=
  ⟨(high &&& 0xFFFFFFFFFFFF0FFF) ||| 0x4000, (low &&& 0x3FFFFFFFFFFFFFFF) ||| 0x8000000000000000⟩

/-- The last digits in base sixteen of a number, as many as `count`. -/
def lastDigits (count number : Nat) : List Char :=
  let digits := Text.hexDigits number
  List.replicate (count - digits.length) '0' ++ digits.drop (digits.length - count)

def text (identity : Identity) : String :=
  let high := identity.high.toNat
  let low := identity.low.toNat
  String.ofList (lastDigits 8 (high >>> 32) ++ '-' :: lastDigits 4 (high >>> 16) ++
    '-' :: lastDigits 4 high ++ '-' :: lastDigits 4 (low >>> 48) ++ '-' :: lastDigits 12 low)

end Identity

end ProtoCrud.Record
