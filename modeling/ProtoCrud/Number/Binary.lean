/-!
# Binary floating-point numbers as bits

A number of an interchange format is kept as its bits, so that equality is decidable and every
conversion is exact integer arithmetic followed by one rounding to nearest, ties to even. The two
formats differ only in the widths of their fields.
-/

namespace ProtoCrud.Number

/-- The widths of the two fields behind the sign bit. -/
structure Layout where
  fractionBits : Nat
  exponentBits : Nat
  deriving DecidableEq

/-- What a bit pattern stands for, apart from its sign. -/
inductive Magnitude where
  | nan
  | infinite
  /-- The number `significand * 2 ^ exponent`. -/
  | finite (significand : Nat) (exponent : Int)
  deriving DecidableEq

def twoTo (exponent : Nat) : Nat :=
  1 <<< exponent

/-- The nearest integer to `numerator / 2 ^ shift`; a tie goes to the even neighbour. -/
def shiftRound (numerator shift : Nat) : Nat :=
  let quotient := numerator >>> shift
  let remainder := numerator - quotient <<< shift
  let twice := 2 * remainder
  if twice < twoTo shift then quotient
  else if twoTo shift < twice then quotient + 1
  else if quotient % 2 = 0 then quotient else quotient + 1

namespace Layout

/-- Sixty-four bits: eleven of exponent and fifty-two of fraction. -/
def binary64 : Layout := ⟨52, 11⟩

/-- Thirty-two bits: eight of exponent and twenty-three of fraction. -/
def binary32 : Layout := ⟨23, 8⟩

/-- The exponent of the last place of the least numbers. -/
def leastExponent (layout : Layout) : Int :=
  2 - (twoTo (layout.exponentBits - 1) : Int) - layout.fractionBits

/-- The bits of infinity: a full exponent field and no fraction. -/
def infinityBits (layout : Layout) : Nat :=
  (twoTo layout.exponentBits - 1) <<< layout.fractionBits

def signBit (layout : Layout) : Nat :=
  twoTo (layout.exponentBits + layout.fractionBits)

def isNegative (layout : Layout) (bits : Nat) : Bool :=
  layout.signBit ≤ bits

def decode (layout : Layout) (bits : Nat) : Magnitude :=
  let field := (bits % layout.signBit) >>> layout.fractionBits
  let fraction := bits % twoTo layout.fractionBits
  if field = twoTo layout.exponentBits - 1 then
    if fraction = 0 then .infinite else .nan
  else if field = 0 then .finite fraction layout.leastExponent
  else .finite (twoTo layout.fractionBits + fraction) (layout.leastExponent + (field - 1))

/--
The bits of a magnitude rounded to the format. Counting the last places from the least exponent
lets a carry of the significand move into the exponent field by itself.
-/
def roundBits (layout : Layout) : Magnitude → Nat
  | .nan => layout.infinityBits + twoTo (layout.fractionBits - 1)
  | .infinite => layout.infinityBits
  | .finite significand exponent =>
    if significand = 0 then 0
    else
      let place := max (exponent + Nat.log2 significand - layout.fractionBits) layout.leastExponent
      let rounded :=
        if place ≤ exponent then significand <<< (exponent - place).toNat
        else shiftRound significand (place - exponent).toNat
      min ((place - layout.leastExponent).toNat <<< layout.fractionBits + rounded)
        layout.infinityBits

/-- The bits of a signed magnitude rounded to the format. -/
def encode (layout : Layout) (negative : Bool) (magnitude : Magnitude) : Nat :=
  (if negative then layout.signBit else 0) + layout.roundBits magnitude

end Layout

/-- A number of the sixty-four bit format. -/
structure Double where
  bits : UInt64
  deriving DecidableEq

/-- A number of the thirty-two bit format. -/
structure Single where
  bits : UInt32
  deriving DecidableEq

namespace Double

/-- What the number stands for, apart from its sign. -/
def magnitude (x : Double) : Magnitude :=
  Layout.binary64.decode x.bits.toNat

/-- The sign bit. -/
def isNegative (x : Double) : Bool :=
  Layout.binary64.isNegative x.bits.toNat

/-- Whether the number is one of the patterns that stand for no number. -/
def isNaN (x : Double) : Bool :=
  x.magnitude == .nan

/-- The nearest number to an integer. -/
def ofInt (i : Int) : Double :=
  ⟨.ofNat (Layout.binary64.encode (i < 0) (.finite i.natAbs 0))⟩

/-- The nearest number of the narrower format. -/
def toSingle (x : Double) : Single :=
  ⟨.ofNat (Layout.binary32.encode x.isNegative x.magnitude)⟩

end Double

namespace Single

/-- What the number stands for, apart from its sign. -/
def magnitude (x : Single) : Magnitude :=
  Layout.binary32.decode x.bits.toNat

/-- The sign bit. -/
def isNegative (x : Single) : Bool :=
  Layout.binary32.isNegative x.bits.toNat

/-- Whether the number is one of the patterns that stand for no number. -/
def isNaN (x : Single) : Bool :=
  x.magnitude == .nan

/-- The same number in the wider format. -/
def toDouble (x : Single) : Double :=
  ⟨.ofNat (Layout.binary64.encode x.isNegative x.magnitude)⟩

end Single

end ProtoCrud.Number
