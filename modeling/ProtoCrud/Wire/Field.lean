import ProtoCrud.Wire.Varint

/-!
# Fields on the wire

A field is a key, made of the number of the field and its wire type, and a payload. This module
reads keys and the payloads of single fields and skips fields that nobody asked for, among them
groups, whose fields stand between a start key and an end key.
-/

namespace ProtoCrud.Wire

/-- How the payload of a field is laid out. -/
inductive WireType where
  | varint
  | fixed64
  | lengthDelimited
  | groupStart
  | groupEnd
  | fixed32
  deriving DecidableEq

def WireType.ofCode? : Nat → Option WireType
  | 0 => some .varint
  | 1 => some .fixed64
  | 2 => some .lengthDelimited
  | 3 => some .groupStart
  | 4 => some .groupEnd
  | 5 => some .fixed32
  | _ => none

def WireType.code : WireType → Nat
  | .varint => 0
  | .fixed64 => 1
  | .lengthDelimited => 2
  | .groupStart => 3
  | .groupEnd => 4
  | .fixed32 => 5

def writeKey (number : Nat) (type : WireType) : Bytes :=
  writeVarint (8 * number + type.code)

/-- Reads the key of a field: a number from one on, and a wire type. -/
def readKey? (bytes : Bytes) : Option (Nat × WireType × Bytes) :=
  match readVarint? bytes with
  | none => none
  | some (key, rest) =>
    match WireType.ofCode? (key % 8) with
    | none => none
    | some type => if 0x100000000 ≤ key ∨ key / 8 = 0 then none else some (key / 8, type, rest)

def readExactly? (length : Nat) (bytes : Bytes) : Option (Bytes × Bytes) :=
  if length ≤ bytes.length then some (bytes.take length, bytes.drop length) else none

/-- Reads a stretch of bytes that its length precedes. -/
def readDelimited? (bytes : Bytes) : Option (Bytes × Bytes) :=
  match readVarint? bytes with
  | none => none
  | some (length, rest) => readExactly? length rest

/-- Writes a stretch of bytes behind its length. -/
def writeDelimited (bytes : Bytes) : Bytes :=
  writeVarint bytes.length ++ bytes

def skipPayload? : WireType → Bytes → Option Bytes
  | .varint, bytes => (readVarint? bytes).map Prod.snd
  | .fixed64, bytes => (readExactly? 8 bytes).map Prod.snd
  | .lengthDelimited, bytes => (readDelimited? bytes).map Prod.snd
  | .fixed32, bytes => (readExactly? 4 bytes).map Prod.snd
  | .groupStart, _ => none
  | .groupEnd, _ => none

theorem readKey?_shortens {bytes rest : Bytes} {number : Nat} {type : WireType}
    (h : readKey? bytes = some (number, type, rest)) : rest.length < bytes.length := by
  unfold readKey? at h
  split at h
  · simp at h
  · next hread =>
    split at h
    · simp at h
    · split at h
      · simp at h
      · simp only [Option.some.injEq, Prod.mk.injEq] at h
        obtain ⟨-, -, rfl⟩ := h
        exact readVarint?_shortens hread

theorem readExactly?_length {length : Nat} {bytes payload rest : Bytes}
    (h : readExactly? length bytes = some (payload, rest)) :
    payload.length + rest.length = bytes.length := by
  unfold readExactly? at h
  split at h
  · simp only [Option.some.injEq, Prod.mk.injEq] at h
    obtain ⟨rfl, rfl⟩ := h
    simp only [List.length_take, List.length_drop]
    omega
  · simp at h

theorem readDelimited?_shortens {bytes payload rest : Bytes}
    (h : readDelimited? bytes = some (payload, rest)) :
    payload.length + rest.length < bytes.length := by
  unfold readDelimited? at h
  split at h
  · simp at h
  · next hread =>
    have := readVarint?_shortens hread
    have := readExactly?_length h
    omega

theorem skipPayload?_shortens {type : WireType} {bytes rest : Bytes}
    (h : skipPayload? type bytes = some rest) : rest.length ≤ bytes.length := by
  cases type <;> simp only [skipPayload?, Option.map_eq_some_iff, Prod.exists,
    exists_eq_right, reduceCtorEq] at h
  · obtain ⟨_, hread⟩ := h
    exact Nat.le_of_lt (readVarint?_shortens hread)
  · obtain ⟨_, hread⟩ := h
    have := readExactly?_length hread
    omega
  · obtain ⟨_, hread⟩ := h
    have := readDelimited?_shortens hread
    omega
  · obtain ⟨_, hread⟩ := h
    have := readExactly?_length hread
    omega

/--
What follows the end of all `opened` groups, the innermost of which comes first. No field may lie
in `depth` groups or more.
-/
def skipGroups? (depth : Nat) (opened : List Nat) (bytes : Bytes) : Option Bytes :=
  match opened with
  | [] => some bytes
  | innermost :: outer =>
    match _key : readKey? bytes with
    | none => none
    | some (number, .groupEnd, rest) =>
      if number = innermost then skipGroups? depth outer rest else none
    | some (number, .groupStart, rest) =>
      if opened.length < depth then skipGroups? depth (number :: opened) rest else none
    | some (_, type, rest) =>
      if opened.length < depth then
        match _payload : skipPayload? type rest with
        | none => none
        | some behind => skipGroups? depth opened behind
      else none
  termination_by bytes.length
  decreasing_by
  · exact readKey?_shortens _key
  · exact readKey?_shortens _key
  · have := readKey?_shortens _key
    have := skipPayload?_shortens _payload
    omega

/-- What follows the payload of a field that nobody asked for, groups included. -/
def skipField? (depth number : Nat) (type : WireType) (bytes : Bytes) : Option Bytes :=
  if depth = 0 then none
  else match type with
    | .groupStart => skipGroups? depth [number] bytes
    | type => skipPayload? type bytes

theorem skipGroups?_shortens {depth : Nat} {opened : List Nat} {bytes rest : Bytes}
    (h : skipGroups? depth opened bytes = some rest) : rest.length ≤ bytes.length := by
  fun_induction skipGroups? depth opened bytes with
  | case1 => simp_all
  | case2 => simp at h
  | case3 bytes outer _ _ hkey ih =>
    have := readKey?_shortens hkey
    have := ih h
    omega
  | case4 => simp at h
  | case5 bytes _ _ _ _ hkey hdepth ih =>
    rw [if_pos hdepth] at h
    have := readKey?_shortens hkey
    have := ih h
    omega
  | case6 => grind
  | case7 => grind
  | case8 bytes _ _ _ _ _ _ _ hkey _ hpayload _ ih =>
    have := readKey?_shortens hkey
    have := skipPayload?_shortens hpayload
    have := ih (by grind)
    omega
  | case9 => grind

theorem skipField?_shortens {depth number : Nat} {type : WireType} {bytes rest : Bytes}
    (h : skipField? depth number type bytes = some rest) : rest.length ≤ bytes.length := by
  unfold skipField? at h
  split at h
  · simp at h
  · split at h
    · exact skipGroups?_shortens h
    · exact skipPayload?_shortens h

end ProtoCrud.Wire
