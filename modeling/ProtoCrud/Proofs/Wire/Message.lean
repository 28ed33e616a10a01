import Mathlib.Algebra.Group.Nat.Defs
import ProtoCrud.Wire.Message

/-!
# Reading messages that were written

What was written is read again, with the bytes behind it untouched: numbers and keys first, then
stretches behind their lengths, single fields and whole messages. A message that conforms to its
schema is refused only for its depth, and no message that was read is deeper than was allowed.
-/

namespace ProtoCrud.Wire

theorem readVarintWithin_writeVarint {more n : Nat} (h : n < 2 ^ (7 * more + 1)) (rest : Bytes) :
    readVarintWithin more (writeVarint n ++ rest) = some (n, rest) := by
  induction more generalizing n with
  | zero =>
    have hsmall : n < 2 := h
    have hbyte : (UInt8.ofNat n).toNat = n := by
      rw [UInt8.toNat_ofNat']
      omega
    rw [writeVarint, if_pos (by omega), List.singleton_append, readVarintWithin, hbyte,
      if_pos hsmall]
  | succ more ih =>
    rw [writeVarint]
    split
    · next hsmall =>
      have hbyte : (UInt8.ofNat n).toNat = n := by
        rw [UInt8.toNat_ofNat']
        omega
      rw [List.singleton_append, readVarintWithin, hbyte, if_pos hsmall]
    · next hlarge =>
      have hbyte : (UInt8.ofNat (n % 128 + 128)).toNat = n % 128 + 128 := by
        rw [UInt8.toNat_ofNat']
        omega
      have hhigh : n / 128 < 2 ^ (7 * more + 1) := by
        apply Nat.div_lt_of_lt_mul
        calc
          n < 2 ^ (7 * (more + 1) + 1) := h
          _ = 128 * 2 ^ (7 * more + 1) := by
            rw [Nat.mul_add, Nat.add_right_comm, Nat.pow_add, Nat.mul_comm]
      rw [List.cons_append, readVarintWithin, hbyte, if_neg (by omega), ih hhigh]
      simp only [Option.map_some, Option.some.injEq, Prod.mk.injEq, and_true]
      omega

theorem readVarint?_writeVarint {n : Nat} (h : n < 2 ^ 64) (rest : Bytes) :
    readVarint? (writeVarint n ++ rest) = some (n, rest) :=
  readVarintWithin_writeVarint h rest

theorem readKey?_writeKey {number : Nat} (hpos : 0 < number) (hsmall : number < 2 ^ 29)
    (type : WireType) (rest : Bytes) :
    readKey? (writeKey number type ++ rest) = some (number, type, rest) := by
  have hcode : type.code < 8 ∧ WireType.ofCode? type.code = some type := by
    cases type <;> exact ⟨by decide, rfl⟩
  have hmod : (8 * number + type.code) % 8 = type.code := by omega
  have hdiv : (8 * number + type.code) / 8 = number := by omega
  rw [readKey?, writeKey, readVarint?_writeVarint (by omega)]
  simp only [hmod, hcode.2, hdiv]
  rw [if_neg (by omega)]

theorem readDelimited?_writeDelimited {payload : Bytes} (h : payload.length < 2 ^ 64)
    (rest : Bytes) : readDelimited? (writeDelimited payload ++ rest) = some (payload, rest) := by
  rw [readDelimited?, writeDelimited, List.append_assoc, readVarint?_writeVarint h]
  simp [readExactly?]

theorem textOfBytes?_bytesOfText (text : String) : textOfBytes? (bytesOfText text) = some text := by
  have hbytes : (⟨(bytesOfText text).toArray⟩ : ByteArray) = text.toUTF8 := by
    simp [bytesOfText]
  rw [textOfBytes?, hbytes, String.fromUTF8?]
  exact dif_pos text.isValidUTF8

theorem isEmpty_of_readKey? {bytes rest : Bytes} {number : Nat} {type : WireType}
    (h : readKey? bytes = some (number, type, rest)) : bytes.isEmpty = false := by
  cases bytes with
  | nil => cases h
  | cons byte bytes => rfl

variable {Name : Type} {schema : Schema Name} {type inner : Name} {depth number : Nat}
  {wireType : WireType} {bytes rest payload behind : Bytes} {kind : FieldKind Name}
  {entries : List Entry}

/-- What becomes of a field behind its key, and of the fields behind it. -/
theorem read?_of_readKey? (hkey : readKey? bytes = some (number, wireType, rest)) :
    read? schema type depth bytes =
      match schema type number with
      | none => (skipField? depth number wireType rest).bind (read? schema type depth)
      | some (.message inner) =>
        if wireType = .lengthDelimited ∧ depth ≠ 0 then
          (readDelimited? rest).bind fun (payload, behind) ↦
            (read? schema inner (depth - 1) payload).bind fun fields ↦
              (read? schema type depth behind).map (.message number fields :: ·)
        else none
      | some kind =>
        (readScalar? number kind wireType rest).bind fun (entries, behind) ↦
          (read? schema type depth behind).map (entries ++ ·) := by
  rw [read?, if_neg (by simp [isEmpty_of_readKey? hkey])]
  split
  · next hnone => rw [hkey] at hnone; cases hnone
  · next hsome =>
    rw [hkey] at hsome
    cases hsome
    cases hkind : schema type number with
    | none =>
      dsimp only
      split
      · next hskip => rw [hskip, Option.bind_none]
      · next hskip => rw [hskip, Option.bind_some]
    | some kind =>
      cases kind with
      | message inner =>
        dsimp only
        refine ite_congr rfl (fun _ ↦ ?_) fun _ ↦ rfl
        split
        · next hpayload => rw [hpayload, Option.bind_none]
        · next hpayload =>
          rw [hpayload, Option.bind_some]
          cases read? schema inner (depth - 1) _ with
          | none => rfl
          | some fields => cases read? schema type depth _ <;> rfl
      | _ =>
        dsimp only
        split
        · next hscalar => rw [hscalar, Option.bind_none]
        · next hscalar => rw [hscalar, Option.bind_some]

/-- A field that holds a message is read if a level is left, and the fields behind it follow. -/
theorem read?_message (hkey : readKey? bytes = some (number, .lengthDelimited, rest))
    (hkind : schema type number = some (.message inner))
    (hpayload : readDelimited? rest = some (payload, behind)) :
    read? schema type depth bytes =
      if depth = 0 then none
      else (read? schema inner (depth - 1) payload).bind fun fields ↦
        (read? schema type depth behind).map (.message number fields :: ·) := by
  rw [read?_of_readKey? hkey, hkind]
  by_cases hdepth : depth = 0
  · simp [hdepth]
  · simp [hdepth, hpayload]

/-- A field that holds no message is read at any depth. -/
theorem read?_scalar (hkey : readKey? bytes = some (number, wireType, rest))
    (hkind : schema type number = some kind)
    (hscalar : readScalar? number kind wireType rest = some (entries, behind)) :
    read? schema type depth bytes = (read? schema type depth behind).map (entries ++ ·) := by
  rw [read?_of_readKey? hkey, hkind]
  cases kind with
  | message inner => simp [readScalar?] at hscalar
  | _ => simp [hscalar]

mutual
/-- The number of levels of messages in a field, its own included. -/
def Entry.height : Entry → Nat
  | .message _ fields => 1 + height fields
  | _ => 0

/-- The number of levels of messages below a message with the given fields. -/
def height : List Entry → Nat
  | [] => 0
  | entry :: entries => max entry.height (height entries)
end

mutual
def Entry.Conforms (schema : Schema Name) (type : Name) : Entry → Prop
  | .varint number value =>
    (schema type number = some .varint ∨ schema type number = some .varints) ∧ value < 2 ^ 64
  | .fixed64 number value => schema type number = some .fixed64 ∧ value.length = 8
  | .text number _ => schema type number = some .text
  | .bytes number _ => schema type number = some .bytes
  | .message number fields =>
    ∃ inner, schema type number = some (.message inner) ∧ Conforms schema inner fields

def Conforms (schema : Schema Name) (type : Name) : List Entry → Prop
  | [] => True
  | entry :: entries => entry.Conforms schema type ∧ Conforms schema type entries
end

/-- The numbers of fields are those that a key can hold. -/
def Schema.HasLegalNumbers (schema : Schema Name) : Prop :=
  ∀ type number kind, schema type number = some kind → 0 < number ∧ number < 2 ^ 29

/-- A field that holds no message is read where it was written. -/
theorem exists_readScalar? (hschema : schema.HasLegalNumbers) {entry : Entry}
    (hconforms : entry.Conforms schema type) (hscalar : entry.height = 0)
    (hsize : entry.write.length < 2 ^ 64) (rest : Bytes) :
    ∃ number kind wireType payload,
      readKey? (entry.write ++ rest) = some (number, wireType, payload) ∧
        schema type number = some kind ∧
        readScalar? number kind wireType payload = some ([entry], rest) := by
  cases entry with
  | varint number value =>
    obtain ⟨hkind, hvalue⟩ := hconforms
    rcases hkind with hkind | hkind
    all_goals
      obtain ⟨hpos, hlt⟩ := hschema _ _ _ hkind
      refine ⟨number, _, .varint, writeVarint value ++ rest, ?_, hkind, ?_⟩
      · rw [Entry.write, List.append_assoc, readKey?_writeKey hpos hlt]
      · simp [readScalar?, readVarint?_writeVarint hvalue]
  | fixed64 number value =>
    obtain ⟨hkind, hvalue⟩ := hconforms
    obtain ⟨hpos, hlt⟩ := hschema _ _ _ hkind
    refine ⟨number, _, .fixed64, value ++ rest, ?_, hkind, ?_⟩
    · rw [Entry.write, List.append_assoc, readKey?_writeKey hpos hlt]
    · simp [readScalar?, readExactly?, ← hvalue]
  | text number value =>
    obtain ⟨hpos, hlt⟩ := hschema _ _ _ hconforms
    have hlength : (bytesOfText value).length < 2 ^ 64 := by
      simp only [Entry.write, writeDelimited, List.length_append] at hsize
      omega
    refine ⟨number, _, .lengthDelimited, writeDelimited (bytesOfText value) ++ rest, ?_,
      hconforms, ?_⟩
    · rw [Entry.write, List.append_assoc, readKey?_writeKey hpos hlt]
    · simp [readScalar?, readDelimited?_writeDelimited hlength, textOfBytes?_bytesOfText]
  | bytes number value =>
    obtain ⟨hpos, hlt⟩ := hschema _ _ _ hconforms
    have hlength : value.length < 2 ^ 64 := by
      simp only [Entry.write, writeDelimited, List.length_append] at hsize
      omega
    refine ⟨number, _, .lengthDelimited, writeDelimited value ++ rest, ?_, hconforms, ?_⟩
    · rw [Entry.write, List.append_assoc, readKey?_writeKey hpos hlt]
    · simp [readScalar?, readDelimited?_writeDelimited hlength]
  | message number fields =>
    rw [Entry.height] at hscalar
    omega

theorem Entry.eq_message {entry : Entry} (h : entry.height ≠ 0) :
    ∃ number fields, entry = .message number fields := by
  cases entry with
  | message number fields => exact ⟨number, fields, rfl⟩
  | varint | fixed64 | text | bytes => exact absurd rfl h

theorem Entry.weight_pos (entry : Entry) : 0 < entry.weight := by
  cases entry <;> simp only [Entry.weight] <;> omega

/-- Entries behind a message are not too deep if neither they nor the fields of the message are. -/
theorem ite_height_message (number depth : Nat) (fields rest : List Entry) :
    (if depth = 0 then none
      else (if height fields ≤ depth - 1 then some fields else none).bind fun fields ↦
        (if height rest ≤ depth then some rest else none).map (.message number fields :: ·)) =
      if height (.message number fields :: rest) ≤ depth then some (.message number fields :: rest)
      else none := by
  rw [height, Entry.height]
  by_cases hdepth : depth = 0
  · rw [if_pos hdepth, if_neg (by omega)]
  · rw [if_neg hdepth]
    by_cases hfields : height fields ≤ depth - 1
    · rw [if_pos hfields, Option.bind_some]
      by_cases hrest : height rest ≤ depth
      · rw [if_pos hrest, if_pos (by omega), Option.map_some]
      · rw [if_neg hrest, if_neg (by omega), Option.map_none]
    · rw [if_neg hfields, Option.bind_none, if_neg (by omega)]

/-- A message that was written is read again if it is not too deep, and refused if it is. -/
theorem read?_write (hschema : schema.HasLegalNumbers) (entries : List Entry) (depth : Nat)
    {type : Name} (hconforms : Conforms schema type entries)
    (hsize : (write entries).length < 2 ^ 64) :
    read? schema type depth (write entries) =
      if height entries ≤ depth then some entries else none := by
  match entries with
  | [] =>
    rw [write, read?]
    simp [height]
  | entry :: rest =>
    obtain ⟨hentry, hrest⟩ := hconforms
    rw [write, List.length_append] at hsize
    have hbehind := read?_write hschema rest depth hrest (by omega)
    by_cases hscalar : entry.height = 0
    · obtain ⟨number, kind, wireType, payload, hkey, hkind, hread⟩ :=
        exists_readScalar? hschema hentry hscalar (by omega) (write rest)
      rw [write, read?_scalar hkey hkind hread, hbehind, height, hscalar, Nat.zero_max]
      split <;> rfl
    · obtain ⟨number, fields, hmessage⟩ := Entry.eq_message hscalar
      rw [hmessage] at hentry hsize ⊢
      obtain ⟨inner, hkind, hfields⟩ := hentry
      obtain ⟨hpos, hlt⟩ := hschema _ _ _ hkind
      have hlength : (write fields).length < 2 ^ 64 := by
        simp only [Entry.write, writeDelimited, List.length_append] at hsize
        omega
      have hinner := read?_write hschema fields (depth - 1) hfields hlength
      rw [write, Entry.write, List.append_assoc,
        read?_message (readKey?_writeKey hpos hlt _ _) hkind
          (readDelimited?_writeDelimited hlength _), hinner, hbehind]
      exact ite_height_message number depth fields rest
  termination_by weight entries
  decreasing_by
    · have := entry.weight_pos
      simp only [weight]
      omega
    · simp only [hmessage, weight, Entry.weight]
      omega

theorem height_append (a b : List Entry) : height (a ++ b) = max (height a) (height b) := by
  induction a with
  | nil => simp [height]
  | cons entry a ih => rw [List.cons_append, height, height, ih, Nat.max_assoc]

theorem height_eq_zero {entries : List Entry} (h : ∀ entry ∈ entries, entry.height = 0) :
    height entries = 0 := by
  induction entries with
  | nil => rfl
  | cons entry entries ih =>
    obtain ⟨hentry, hentries⟩ := List.forall_mem_cons.mp h
    rw [height, hentry, ih hentries, Nat.max_self]

theorem height_of_readScalar? (h : readScalar? number kind wireType bytes = some (entries, rest)) :
    height entries = 0 := by
  apply height_eq_zero
  unfold readScalar? at h
  split at h
  all_goals
    simp only [Option.map_eq_some_iff, Option.bind_eq_bind, Option.bind_eq_some_iff,
      Option.some.injEq, Prod.mk.injEq, Prod.exists, reduceCtorEq] at h
  all_goals grind [Entry.height]

/-- No message that was read is deeper than was allowed. -/
theorem height_le_of_read? (h : read? schema type depth bytes = some entries) :
    height entries ≤ depth := by
  fun_induction read? schema type depth bytes generalizing entries with
  | case1 =>
    cases h
    exact Nat.zero_le _
  | case2 => cases h
  | case3 => cases h
  | case4 _ _ _ _ _ _ _ _ _ _ _ ih => exact ih h
  | case5 => cases h
  | case6 _ depth _ _ _ _ _ _ _ _ hallowed _ _ _ fields others hothers hfields ihfields ihothers =>
    cases h
    have := ihfields hfields
    have := ihothers hothers
    rw [height, Entry.height]
    omega
  | case7 => cases h
  | case8 => cases h
  | case9 => cases h
  | case10 _ _ _ _ _ _ _ _ _ _ _ first behind hscalar ih =>
    obtain ⟨others, hothers, rfl⟩ := Option.map_eq_some_iff.mp h
    rw [height_append, height_of_readScalar? hscalar, Nat.zero_max]
    exact ih hothers

end ProtoCrud.Wire
