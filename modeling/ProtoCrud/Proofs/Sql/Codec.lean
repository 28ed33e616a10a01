import Mathlib.Data.List.Nodup
import ProtoCrud.Sql.Codec

/-!
# The two directions of a codec

Both directions of a codec take the first entry that fits, and so an entry may be hidden by one
before it: for its number in one direction, for its text in the other. A number is read back from
the text that stores it if and only if no earlier entry has taken that text, at the first entry of
the number. Distinct texts are enough for this, and distinct numbers for the way back.
-/

namespace ProtoCrud.Sql.EnumCodec

def numbers (codec : EnumCodec) : List Int32 :=
  codec.variants.map Prod.fst

def texts (codec : EnumCodec) : List String :=
  codec.variants.map Prod.snd

/-- Every number of the table is read back from the text that stores it. -/
def RoundTrips (codec : EnumCodec) : Prop :=
  ∀ entry ∈ codec.variants, codec.decode (codec.encode entry.1) = entry.1

/-- Every text of the table stores the number that is read from it. -/
def Restores (codec : EnumCodec) : Prop :=
  ∀ entry ∈ codec.variants, codec.encode (codec.decode entry.2) = entry.2

/-- Every entry with a number that none before it has comes with a text that none before it has. -/
def IsSeparating (variants : List (Int32 × String)) : Prop :=
  ∀ before entry after, variants = before ++ entry :: after →
    entry.1 ∉ before.map Prod.fst → entry.2 ∉ before.map Prod.snd

/-- How the two directions of a codec go together. -/
structure IsCoherent (codec : EnumCodec) : Prop where
  /-- A number that is not listed is stored as the first variant. -/
  encode_of_notMem : ∀ number, number ∉ codec.numbers → codec.encode number = codec.defaultText
  /-- A text that is not listed is read as the first variant. -/
  decode_of_notMem : ∀ text, text ∉ codec.texts → codec.decode text = codec.defaultNumber
  /-- Every number is stored by a listed text. -/
  encode_mem : ∀ number, codec.encode number ∈ codec.texts
  /-- Every text is read as a listed number. -/
  decode_mem : ∀ text, codec.decode text ∈ codec.numbers
  /-- Listed numbers are read back if the texts are distinct, whatever the numbers are. -/
  roundTrips_of_nodup : codec.texts.Nodup → codec.RoundTrips
  /-- Listed texts are stored again if the numbers are distinct, whatever the texts are. -/
  restores_of_nodup : codec.numbers.Nodup → codec.Restores
  /-- Without aliases, the numbers are read back only if the texts are distinct. -/
  roundTrips_iff_nodup : codec.numbers.Nodup → (codec.RoundTrips ↔ codec.texts.Nodup)

section FirstEntry

variable {α : Type} {key : Int32 × String → α}
  {variants before after : List (Int32 × String)} {entry : Int32 × String}

/-- The first entry of every key that a table lists. -/
theorem exists_first {value : α} (h : value ∈ variants.map key) :
    ∃ before entry after, variants = before ++ entry :: after ∧ key entry = value ∧
      value ∉ before.map key := by
  obtain ⟨keys, others, hkeys, hfresh⟩ := List.eq_append_cons_of_mem h
  obtain ⟨before, rest, rfl, rfl, hrest⟩ := List.map_eq_append_iff.mp hkeys
  obtain ⟨entry, after, rfl, hentry, -⟩ := List.map_eq_cons_iff.mp hrest
  exact ⟨before, entry, after, rfl, hentry, hfresh⟩

/-- Among distinct keys, that of an entry is new. -/
theorem notMem_of_nodup (h : (variants.map key).Nodup)
    (hsplit : variants = before ++ entry :: after) : key entry ∉ before.map key := by
  rw [hsplit, List.map_append, List.map_cons, List.nodup_append] at h
  exact fun hmem ↦ h.2.2 _ hmem _ List.mem_cons_self rfl

/-- The first entry of a key is what a search for the key finds. -/
theorem find?_eq_some_of_notMem [DecidableEq α]
    (hsplit : variants = before ++ entry :: after) (hfresh : key entry ∉ before.map key) :
    variants.find? (key · = key entry) = some entry := by
  rw [List.find?_eq_some_iff_append]
  refine ⟨by simp, before, after, hsplit, fun other hother ↦ ?_⟩
  have hne : key other ≠ key entry := fun heq ↦ hfresh (heq ▸ List.mem_map_of_mem hother)
  simpa using hne

end FirstEntry

variable {codec : EnumCodec}

/-- The first entry of a number gives its text. -/
theorem encode_eq {before after : List (Int32 × String)} {entry : Int32 × String}
    (hsplit : codec.variants = before ++ entry :: after) (hfresh : entry.1 ∉ before.map Prod.fst) :
    codec.encode entry.1 = entry.2 := by
  have hfind : codec.variants.find? (·.1 = entry.1) = some entry :=
    find?_eq_some_of_notMem hsplit hfresh
  rw [encode, hfind, Option.getD_some]

/-- The first entry of a text gives its number. -/
theorem decode_eq {before after : List (Int32 × String)} {entry : Int32 × String}
    (hsplit : codec.variants = before ++ entry :: after) (hfresh : entry.2 ∉ before.map Prod.snd) :
    codec.decode entry.2 = entry.1 := by
  have hfind : codec.variants.find? (·.2 = entry.2) = some entry :=
    find?_eq_some_of_notMem hsplit hfresh
  rw [decode, hfind, Option.getD_some]

/-- A search that falls back to the first variant always ends at an entry of the table. -/
theorem getD_find?_mem (codec : EnumCodec) (p : Int32 × String → Bool) :
    (codec.variants.find? p).getD codec.default ∈ codec.variants := by
  cases hfind : codec.variants.find? p with
  | none => exact List.head_mem codec.variants_ne_nil
  | some entry => exact List.mem_of_find?_eq_some hfind

/-- A search for a key that the table does not list falls back to the first variant. -/
theorem getD_find?_eq_default {p : Int32 × String → Bool}
    (h : ∀ entry ∈ codec.variants, p entry = false) :
    (codec.variants.find? p).getD codec.default = codec.default := by
  have hfind : codec.variants.find? p = none :=
    List.find?_eq_none.mpr fun entry hentry ↦ by simp [h entry hentry]
  rw [hfind, Option.getD_none]

theorem encode_eq_defaultText {number : Int32} (h : number ∉ codec.numbers) :
    codec.encode number = codec.defaultText := by
  rw [encode, getD_find?_eq_default, defaultText]
  intro entry hentry
  exact decide_eq_false fun heq ↦ h (heq ▸ List.mem_map_of_mem hentry)

theorem decode_eq_defaultNumber {text : String} (h : text ∉ codec.texts) :
    codec.decode text = codec.defaultNumber := by
  rw [decode, getD_find?_eq_default, defaultNumber]
  intro entry hentry
  exact decide_eq_false fun heq ↦ h (heq ▸ List.mem_map_of_mem hentry)

/-- A table is read back if and only if new numbers come with new texts. -/
theorem roundTrips_iff : codec.RoundTrips ↔ IsSeparating codec.variants := by
  constructor
  · intro h before entry after hsplit hfresh htaken
    -- The text leads to the first entry that has it, and that one has another number.
    obtain ⟨front, first, back, hbefore, htext, htextFresh⟩ := exists_first htaken
    have hfirst : codec.variants = front ++ first :: (back ++ entry :: after) := by
      rw [hsplit, hbefore, List.append_assoc, List.cons_append]
    have hnumber : first.1 = entry.1 := by
      have hentry : codec.decode (codec.encode entry.1) = entry.1 :=
        h entry (hsplit ▸ List.mem_append_right _ List.mem_cons_self)
      rw [encode_eq hsplit hfresh, ← htext, decode_eq hfirst (htext ▸ htextFresh)] at hentry
      exact hentry
    have hmem : first ∈ before := hbefore ▸ List.mem_append_right _ List.mem_cons_self
    exact hfresh (hnumber ▸ List.mem_map_of_mem hmem)
  · intro h entry hentry
    obtain ⟨before, first, after, hsplit, hnumber, hfresh⟩ :=
      exists_first (List.mem_map_of_mem (f := Prod.fst) hentry)
    rw [← hnumber] at hfresh ⊢
    rw [encode_eq hsplit hfresh, decode_eq hsplit (h before first after hsplit hfresh)]

theorem isSeparating_of_nodup {variants : List (Int32 × String)}
    (h : (variants.map Prod.snd).Nodup) : IsSeparating variants :=
  fun _ _ _ hsplit _ ↦ notMem_of_nodup h hsplit

/-- Without aliases, new numbers come with new texts if and only if the texts are distinct. -/
theorem isSeparating_iff {variants : List (Int32 × String)}
    (hnumbers : (variants.map Prod.fst).Nodup) :
    IsSeparating variants ↔ (variants.map Prod.snd).Nodup := by
  refine ⟨fun h ↦ ?_, isSeparating_of_nodup⟩
  rw [List.Nodup, List.pairwise_map, List.pairwise_iff_getElem]
  intro i j hi hj hij htext
  have hsplit : variants = variants.take j ++ variants[j] :: variants.drop (j + 1) := by
    rw [List.getElem_cons_drop, List.take_append_drop]
  have hearlier : variants[i] ∈ variants.take j :=
    List.mem_take_iff_getElem.mpr ⟨i, by omega, rfl⟩
  exact h _ _ _ hsplit (notMem_of_nodup hnumbers hsplit) (htext ▸ List.mem_map_of_mem hearlier)

/-- Distinct numbers lead back to the text that they were read from. -/
theorem restores_of_nodup_numbers (h : codec.numbers.Nodup) : codec.Restores := by
  intro entry hentry
  obtain ⟨before, first, after, hsplit, htext, hfresh⟩ :=
    exists_first (List.mem_map_of_mem (f := Prod.snd) hentry)
  rw [← htext] at hfresh ⊢
  rw [decode_eq hsplit hfresh, encode_eq hsplit (notMem_of_nodup h hsplit)]

/--
A codec stores and reads what it does not list as its first variant, and gives only what it lists.
Its numbers are read back if its texts are distinct and, without aliases, only then; its texts are
stored again if its numbers are distinct.
-/
theorem codec_isCoherent (codec : EnumCodec) : codec.IsCoherent where
  encode_of_notMem _ h := encode_eq_defaultText h
  decode_of_notMem _ h := decode_eq_defaultNumber h
  encode_mem _ := List.mem_map_of_mem (getD_find?_mem codec _)
  decode_mem _ := List.mem_map_of_mem (getD_find?_mem codec _)
  roundTrips_of_nodup h := roundTrips_iff.mpr (isSeparating_of_nodup h)
  restores_of_nodup := restores_of_nodup_numbers
  roundTrips_iff_nodup h := roundTrips_iff.trans (isSeparating_iff h)

/-- A codec in which one number has two texts. -/
def urgencyCodec : EnumCodec :=
  ⟨"Urgency", [(0, "low"), (1, "high"), (1, "urgent")], List.cons_ne_nil _ _⟩

/-- With an alias all numbers are read back, while the text of the alias is not stored again. -/
theorem urgency_roundTrips :
    urgencyCodec.texts.Nodup ∧ urgencyCodec.RoundTrips ∧ ¬ urgencyCodec.Restores := by
  have htexts : urgencyCodec.texts.Nodup := by decide +kernel
  refine ⟨htexts, (codec_isCoherent urgencyCodec).roundTrips_of_nodup htexts, fun hrestores ↦ ?_⟩
  have halias : urgencyCodec.encode (urgencyCodec.decode "urgent") = "urgent" :=
    hrestores (1, "urgent") (by decide +kernel)
  revert halias
  decide +kernel

end ProtoCrud.Sql.EnumCodec
