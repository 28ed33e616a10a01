/-!
# Numbers on the wire

A number below `2 ^ 64` is written in groups of seven bits, the lowest group first; every byte but
the last has its high bit set. At most ten bytes are read, and the tenth may only hold the one bit
that is left. Reading what was written gives the number and the bytes behind it.
-/

namespace ProtoCrud.Wire

/-- Bytes in the order in which they travel. -/
abbrev Bytes := List UInt8

/-- Writes a number. -/
def writeVarint (n : Nat) : Bytes :=
  if n < 128 then [UInt8.ofNat n] else UInt8.ofNat (n % 128 + 128) :: writeVarint (n / 128)
  termination_by n
  decreasing_by omega

/-- Reads a number of at most `more + 1` bytes, the last of which may hold one bit only. -/
def readVarintWithin : (more : Nat) → Bytes → Option (Nat × Bytes)
  | _, [] => none
  | 0, byte :: rest => if byte.toNat < 2 then some (byte.toNat, rest) else none
  | more + 1, byte :: rest =>
    if byte.toNat < 128 then some (byte.toNat, rest)
    else (readVarintWithin more rest).map fun (high, behind) ↦
      (byte.toNat - 128 + 128 * high, behind)

def readVarint? (bytes : Bytes) : Option (Nat × Bytes) :=
  readVarintWithin 9 bytes

theorem readVarintWithin_shortens {more : Nat} {bytes rest : Bytes} {n : Nat}
    (h : readVarintWithin more bytes = some (n, rest)) : rest.length < bytes.length := by
  induction bytes generalizing more n with
  | nil => simp [readVarintWithin] at h
  | cons byte tail ih =>
    cases more with
    | zero =>
      simp only [readVarintWithin] at h
      split at h <;> simp_all
    | succ more =>
      simp only [readVarintWithin] at h
      split at h
      · simp_all
      · simp only [Option.map_eq_some_iff, Prod.mk.injEq, Prod.exists] at h
        obtain ⟨high, behind, hread, -, rfl⟩ := h
        have := ih hread
        simp only [List.length_cons]
        omega

theorem readVarint?_shortens {bytes rest : Bytes} {n : Nat}
    (h : readVarint? bytes = some (n, rest)) : rest.length < bytes.length :=
  readVarintWithin_shortens h

end ProtoCrud.Wire
