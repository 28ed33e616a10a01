import ProtoCrud.Number.Binary

/-!
# The shortest decimal text of a number

A finite number is written with the fewest decimal digits that read back to it: for one digit, two
digits and so on, the two multiples of the unit next to the number are tested against the interval
of reals that round to it. Of two hits the nearer one is written, and of two equally near ones the
upper. Numbers from `10 ^ -4` up to `10 ^ 16` are written positionally with at least one digit
behind the point, all others with a power of ten.
-/

namespace ProtoCrud.Number

/-- The decimal number `digits * 10 ^ exponent`. -/
structure Decimal where
  digits : Nat
  exponent : Int
  deriving DecidableEq

def tenTo : (exponent : Nat) → Nat
  | 0 => 1
  | exponent + 1 => 10 * tenTo exponent

/-- The order of `a * 10 ^ i` and `b * 2 ^ j`. -/
def compareScaled (a : Nat) (i : Int) (b : Nat) (j : Int) : Ordering :=
  compare (a * tenTo i.toNat * twoTo (-j).toNat) (b * twoTo j.toNat * tenTo (-i).toNat)

/--
Whether a decimal lies among the reals that round to `significand * 2 ^ exponent`. The interval
reaches halfway to the two neighbours, the lower of which is nearer below a power of two, and
contains its ends if the significand is even.
-/
def readsBack (significand : Nat) (exponent : Int) (decimal : Decimal) : Bool :=
  let narrow := significand = twoTo 52 ∧ exponent ≠ Layout.binary64.leastExponent
  let low := if narrow then 4 * significand - 1 else 4 * significand - 2
  let high := 4 * significand + 2
  let below := compareScaled decimal.digits decimal.exponent low (exponent - 2)
  let above := compareScaled decimal.digits decimal.exponent high (exponent - 2)
  let closed := significand % 2 = 0
  (below = .gt ∨ closed ∧ below = .eq) ∧ (above = .lt ∨ closed ∧ above = .eq)

/-- The least power of ten above `significand * 2 ^ exponent`, for a significand that is not 0. -/
def decimalScale (significand : Nat) (exponent : Int) : Int :=
  let estimate := (exponent + Nat.log2 significand) * 30103 / 100000
  let candidates := [estimate - 1, estimate, estimate + 1, estimate + 2]
  (candidates.find? fun k ↦ compareScaled 1 k significand exponent == .gt).getD (estimate + 3)

/-- The multiple of `10 ^ unit` that reads back, if one of the two next to the number does. -/
def neighbour? (significand : Nat) (exponent unit : Int) : Option Decimal :=
  let numerator := significand * twoTo exponent.toNat * tenTo (-unit).toNat
  let denominator := twoTo (-exponent).toNat * tenTo unit.toNat
  let low : Decimal := ⟨numerator / denominator, unit⟩
  let high : Decimal := ⟨numerator / denominator + 1, unit⟩
  match readsBack significand exponent low, readsBack significand exponent high with
  | true, true => if 2 * (numerator % denominator) < denominator then some low else some high
  | true, false => some low
  | false, true => some high
  | false, false => none

/-- The fewest digits that read back to `significand * 2 ^ exponent`. -/
def shortest (significand : Nat) (exponent : Int) : Decimal :=
  let scale := decimalScale significand exponent
  let found := (List.range 17).findSome? fun n ↦
    neighbour? significand exponent (scale - (n + 1 : Nat))
  found.getD
    ⟨significand * twoTo exponent.toNat * (tenTo (-exponent).toNat >>> (-exponent).toNat),
      min exponent 0⟩

/-- A list of digits without the zeros at its end, and how many there were. -/
def stripZeros (digits : List Char) : List Char × Nat :=
  let kept := (digits.reverse.dropWhile (· == '0')).reverse
  (kept, digits.length - kept.length)

def positiveText (significand : Nat) (exponent : Int) : String :=
  let decimal := shortest significand exponent
  let (digits, zeros) := stripZeros (Nat.toDigits 10 decimal.digits)
  let unit := decimal.exponent + zeros
  let leading := unit + digits.length - 1
  let text :=
    if -4 ≤ leading ∧ leading < 16 then
      if 0 ≤ unit then digits ++ List.replicate unit.toNat '0' ++ ['.', '0']
      else if 0 ≤ leading then
        digits.take (leading + 1).toNat ++ '.' :: digits.drop (leading + 1).toNat
      else '0' :: '.' :: List.replicate (-leading - 1).toNat '0' ++ digits
    else
      let mantissa := match digits with
        | first :: second :: rest => first :: '.' :: second :: rest
        | short => short
      mantissa ++ 'e' :: (toString leading).toList
  String.ofList text

def Double.text (x : Double) : String :=
  let sign := if x.isNegative then "-" else ""
  match x.magnitude with
  | .nan => "NaN"
  | .infinite => sign ++ "inf"
  | .finite 0 _ => sign ++ "0.0"
  | .finite significand exponent => sign ++ positiveText significand exponent

end ProtoCrud.Number
