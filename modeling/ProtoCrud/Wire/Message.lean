import ProtoCrud.Wire.Field

/-!
# Messages on the wire

A message is a list of fields. A schema says which fields the messages of each type have and what
their payloads hold; decoding checks every such field against it, skips all others, and keeps the
fields in the order in which they came. What a field that comes twice means is left to the reader
of the list, who takes the last number or text and joins the fields of the messages.

Messages lie in each other at most `nestingLimit` levels below the outermost one.
-/

namespace ProtoCrud.Wire

/-- What the payload of a field holds. -/
inductive FieldKind (Name : Type) where
  /-- A number. -/
  | varint
  /-- A number, or a stretch of numbers. -/
  | varints
  /-- Eight bytes. -/
  | fixed64
  | text
  | bytes
  | message (type : Name)

abbrev Schema (Name : Type) := Name → Nat → Option (FieldKind Name)

inductive Entry where
  | varint (number value : Nat)
  | fixed64 (number : Nat) (value : Bytes)
  | text (number : Nat) (value : String)
  | bytes (number : Nat) (value : Bytes)
  | message (number : Nat) (fields : List Entry)

/-- How many levels of messages may lie below the outermost one. -/
def nestingLimit : Nat := 100

def textOfBytes? (bytes : Bytes) : Option String :=
  String.fromUTF8? ⟨bytes.toArray⟩

def bytesOfText (text : String) : Bytes :=
  text.toUTF8.data.toList

mutual
def Entry.write : Entry → Bytes
  | .varint number value => writeKey number .varint ++ writeVarint value
  | .fixed64 number value => writeKey number .fixed64 ++ value
  | .text number value => writeKey number .lengthDelimited ++ writeDelimited (bytesOfText value)
  | .bytes number value => writeKey number .lengthDelimited ++ writeDelimited value
  | .message number fields => writeKey number .lengthDelimited ++ writeDelimited (write fields)

def write : List Entry → Bytes
  | [] => []
  | entry :: entries => entry.write ++ write entries
end

def readVarints? (bytes : Bytes) : Option (List Nat) :=
  if bytes.isEmpty then some []
  else
    match _read : readVarint? bytes with
    | none => none
    | some (value, rest) => (readVarints? rest).map (value :: ·)
  termination_by bytes.length
  decreasing_by exact readVarint?_shortens _read

/-- Reads the payload of a field that holds no message; a stretch of numbers gives many entries. -/
def readScalar? {Name : Type} (number : Nat) :
    FieldKind Name → WireType → Bytes → Option (List Entry × Bytes)
  | .varint, .varint, bytes | .varints, .varint, bytes =>
    (readVarint? bytes).map fun (value, rest) ↦ ([.varint number value], rest)
  | .varints, .lengthDelimited, bytes => do
    let (payload, rest) ← readDelimited? bytes
    let values ← readVarints? payload
    some (values.map (.varint number), rest)
  | .fixed64, .fixed64, bytes =>
    (readExactly? 8 bytes).map fun (value, rest) ↦ ([.fixed64 number value], rest)
  | .text, .lengthDelimited, bytes => do
    let (payload, rest) ← readDelimited? bytes
    let value ← textOfBytes? payload
    some ([.text number value], rest)
  | .bytes, .lengthDelimited, bytes =>
    (readDelimited? bytes).map fun (value, rest) ↦ ([.bytes number value], rest)
  | _, _, _ => none

theorem readScalar?_shortens {Name : Type} {number : Nat} {kind : FieldKind Name}
    {type : WireType} {bytes rest : Bytes} {entries : List Entry}
    (h : readScalar? number kind type bytes = some (entries, rest)) :
    rest.length ≤ bytes.length := by
  unfold readScalar? at h
  split at h
  · simp only [Option.map_eq_some_iff, Prod.mk.injEq, Prod.exists] at h
    obtain ⟨_, _, hread, -, rfl⟩ := h
    exact Nat.le_of_lt (readVarint?_shortens hread)
  · simp only [Option.map_eq_some_iff, Prod.mk.injEq, Prod.exists] at h
    obtain ⟨_, _, hread, -, rfl⟩ := h
    exact Nat.le_of_lt (readVarint?_shortens hread)
  · simp only [Option.bind_eq_bind, Option.bind_eq_some_iff, Option.some.injEq, Prod.mk.injEq,
      Prod.exists] at h
    obtain ⟨_, _, hread, _, _, -, rfl⟩ := h
    have := readDelimited?_shortens hread
    omega
  · simp only [Option.map_eq_some_iff, Prod.mk.injEq, Prod.exists] at h
    obtain ⟨_, _, hread, -, rfl⟩ := h
    have := readExactly?_length hread
    omega
  · simp only [Option.bind_eq_bind, Option.bind_eq_some_iff, Option.some.injEq, Prod.mk.injEq,
      Prod.exists] at h
    obtain ⟨_, _, hread, _, _, -, rfl⟩ := h
    have := readDelimited?_shortens hread
    omega
  · simp only [Option.map_eq_some_iff, Prod.mk.injEq, Prod.exists] at h
    obtain ⟨_, _, hread, -, rfl⟩ := h
    have := readDelimited?_shortens hread
    omega
  · simp at h

/--
Reads the fields of a message of the given type up to the end of the bytes, with at most `depth`
levels of messages below it.
-/
def read? {Name : Type} (schema : Schema Name) (type : Name) (depth : Nat) (bytes : Bytes) :
    Option (List Entry) :=
  if bytes.isEmpty then some []
  else
    match _key : readKey? bytes with
    | none => none
    | some (number, wireType, rest) =>
      match schema type number with
      | none =>
        match _skip : skipField? depth number wireType rest with
        | none => none
        | some behind => read? schema type depth behind
      | some (.message inner) =>
        if wireType = .lengthDelimited ∧ depth ≠ 0 then
          match _payload : readDelimited? rest with
          | none => none
          | some (payload, behind) =>
            match read? schema inner (depth - 1) payload, read? schema type depth behind with
            | some fields, some others => some (.message number fields :: others)
            | _, _ => none
        else none
      | some kind =>
        match _scalar : readScalar? number kind wireType rest with
        | none => none
        | some (entries, behind) => (read? schema type depth behind).map (entries ++ ·)
  termination_by bytes.length
  decreasing_by
  · have := readKey?_shortens _key
    have := skipField?_shortens _skip
    omega
  · have := readKey?_shortens _key
    have := readDelimited?_shortens _payload
    omega
  · have := readKey?_shortens _key
    have := readDelimited?_shortens _payload
    omega
  · have := readKey?_shortens _key
    have := readScalar?_shortens _scalar
    omega

def decode? {Name : Type} (schema : Schema Name) (type : Name) (bytes : Bytes) :
    Option (List Entry) :=
  read? schema type nestingLimit bytes

def numbersAt (number : Nat) (entries : List Entry) : List Nat :=
  entries.filterMap fun
    | .varint n value => if n = number then some value else none
    | _ => none

def textsAt (number : Nat) (entries : List Entry) : List String :=
  entries.filterMap fun
    | .text n value => if n = number then some value else none
    | _ => none

/-- The fields of the messages in the fields with the given number. -/
def messagesAt (number : Nat) (entries : List Entry) : List (List Entry) :=
  entries.filterMap fun
    | .message n fields => if n = number then some fields else none
    | _ => none

def number? (number : Nat) (entries : List Entry) : Option Nat :=
  (numbersAt number entries).getLast?

/-- The last text in a field; empty if there is none. -/
def text (number : Nat) (entries : List Entry) : String :=
  ((textsAt number entries).getLast?).getD ""

/-- The last number in a field as a signed one of thirty-two bits; zero if there is none. -/
def int32 (number : Nat) (entries : List Entry) : Int32 :=
  ((number? number entries).map Int32.ofNat).getD 0

/-- The last number in a field as a truth value; false if there is none. -/
def bool (number : Nat) (entries : List Entry) : Bool :=
  ((number? number entries).map (· != 0)).getD false

/-- The joined fields of all messages in a field, if there is one. -/
def message? (number : Nat) (entries : List Entry) : Option (List Entry) :=
  match messagesAt number entries with
  | [] => none
  | messages => some messages.flatten

/-- A number field, left out if it is zero. A negative number is written with all its bits. -/
def int32Field (number : Nat) (value : Int32) : List Entry :=
  if value = 0 then [] else [.varint number value.toInt64.toUInt64.toNat]

/-- A truth value field, left out if it is false. -/
def boolField (number : Nat) (value : Bool) : List Entry :=
  if value then [.varint number 1] else []

def textField (number : Nat) (value : String) : List Entry :=
  if value = "" then [] else [.text number value]

mutual
/-- The number of fields in a field, itself included. -/
def Entry.weight : Entry → Nat
  | .message _ fields => 1 + weight fields
  | _ => 1

/-- The number of fields at all levels of a message. -/
def weight : List Entry → Nat
  | [] => 0
  | entry :: entries => entry.weight + weight entries
end

theorem weight_append (a b : List Entry) : weight (a ++ b) = weight a + weight b := by
  induction a with
  | nil => simp [weight]
  | cons entry a ih => simp only [List.cons_append, weight, ih]; omega

theorem weight_lt_of_mem_messagesAt {number : Nat} {entries fields : List Entry}
    (h : fields ∈ messagesAt number entries) : weight fields < weight entries := by
  induction entries with
  | nil => simp [messagesAt] at h
  | cons entry entries ih =>
    simp only [messagesAt, List.filterMap_cons] at h
    simp only [weight]
    have step : fields ∈ messagesAt number entries →
        weight fields < entry.weight + weight entries :=
      fun hmem ↦ by have := ih hmem; omega
    cases entry with
    | message n inner =>
      simp only at h
      split at h
      · exact step h
      · next heq =>
        split at heq
        · cases heq
          rcases List.mem_cons.1 h with rfl | h
          · simp only [Entry.weight]; omega
          · exact step h
        · cases heq
    | varint => exact step h
    | fixed64 => exact step h
    | text => exact step h
    | bytes => exact step h

end ProtoCrud.Wire
