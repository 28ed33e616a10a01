import ProtoCrud.Schema.Naming

/-!
# Qualifiers in names

A qualifier is a `By` behind the first character of a name with an upper-case letter behind it. A
name is cut in front of its first qualifier. A search that goes on behind every `By` it has found
misses none, since a `By` cannot overlap another; and what is left has no qualifier, since a
qualifier in a part of a name is one of the name. So the cut is made once and for all.
-/

namespace ProtoCrud.Schema

open Text (isUppercase)

theorem startsQualifier_eq_true_iff {text : List Char} :
    startsQualifier text = true ↔
      ∃ c rest, text = 'B' :: 'y' :: c :: rest ∧ isUppercase c = true := by
  rw [startsQualifier.eq_def]
  split
  · next c rest => simp
  · next hnot => simpa using fun c rest heq ↦ absurd heq (hnot c rest)

/-- A text has a qualifier at an offset: not at its very start, and with the letter behind it. -/
def QualifiesAt (text : List Char) (offset : Nat) : Prop :=
  0 < offset ∧ ∃ c rest, text.drop offset = 'B' :: 'y' :: c :: rest ∧ isUppercase c = true

theorem qualifiesAt_cons_succ_iff {c : Char} {rest : List Char} {offset : Nat} :
    QualifiesAt (c :: rest) (offset + 1) ↔ startsQualifier (rest.drop offset) = true := by
  rw [QualifiesAt, List.drop_succ_cons, startsQualifier_eq_true_iff]
  exact and_iff_right (Nat.succ_pos offset)

/-- A qualifier in the beginning of a text is one of the text. -/
theorem QualifiesAt.of_take {text : List Char} {length offset : Nat}
    (h : QualifiesAt (text.take length) offset) : QualifiesAt text offset ∧ offset < length := by
  obtain ⟨hpos, c, rest, hdrop, hupper⟩ := h
  rw [List.drop_take] at hdrop
  have hlength : offset < length := by
    refine Nat.lt_of_not_le fun hle ↦ ?_
    rw [Nat.sub_eq_zero_of_le hle, List.take_zero] at hdrop
    cases hdrop
  refine ⟨⟨hpos, c, rest ++ (text.drop offset).drop (length - offset), ?_, hupper⟩, hlength⟩
  calc text.drop offset
    _ = (text.drop offset).take (length - offset) ++ (text.drop offset).drop (length - offset) :=
      (List.take_append_drop _ _).symm
    _ = _ := by rw [hdrop]; rfl

inductive CutsAtFirst (text : List Char) : List Char → Prop
  | first {offset : Nat} (hqualifies : QualifiesAt text offset)
    (hfirst : ∀ earlier < offset, ¬QualifiesAt text earlier) : CutsAtFirst text (text.take offset)
  | whole (hnone : ∀ offset, ¬QualifiesAt text offset) : CutsAtFirst text text

section Cuts

variable {text cut : List Char}

/-- No qualifier is left, and none comes about. -/
theorem CutsAtFirst.not_qualifiesAt (h : CutsAtFirst text cut) (offset : Nat) :
    ¬QualifiesAt cut offset := by
  cases h with
  | first _ hfirst =>
    intro hqualifies
    obtain ⟨hearlier, hlt⟩ := hqualifies.of_take
    exact hfirst offset hlt hearlier
  | whole hnone => exact hnone offset

theorem CutsAtFirst.eq_nil_iff (h : CutsAtFirst text cut) : cut = [] ↔ text = [] := by
  cases h with
  | @first offset hqualifies _ =>
    rw [List.take_eq_nil_iff]
    exact or_iff_right (Nat.ne_of_gt hqualifies.1)
  | whole _ => exact Iff.rfl

theorem CutsAtFirst.subset (h : CutsAtFirst text cut) : cut ⊆ text := by
  cases h with
  | @first offset _ _ => exact List.take_subset offset text
  | whole _ => exact List.Subset.refl text

/-- A text without a qualifier is not cut. -/
theorem CutsAtFirst.eq_self (h : CutsAtFirst text cut)
    (hnone : ∀ offset, ¬QualifiesAt text offset) : cut = text := by
  cases h with
  | @first offset hqualifies _ => exact absurd hqualifies (hnone offset)
  | whole _ => rfl

/-- What precedes the first qualifier of a text that may start with one. -/
theorem beforeQualifier_cases (text : List Char) :
    (∃ offset, startsQualifier (text.drop offset) = true ∧
        (∀ earlier < offset, startsQualifier (text.drop earlier) = false) ∧
          beforeQualifier text = text.take offset) ∨
      (∀ offset, startsQualifier (text.drop offset) = false) ∧ beforeQualifier text = text := by
  induction text with
  | nil => exact .inr ⟨fun offset ↦ by rw [List.drop_nil]; rfl, rfl⟩
  | cons c rest ih =>
    rw [beforeQualifier]
    split
    · next hstarts => exact .inl ⟨0, hstarts, by simp, rfl⟩
    · next hstarts =>
      rcases ih with ⟨offset, hqualifies, hfirst, hcut⟩ | ⟨hnone, hcut⟩
      · refine .inl ⟨offset + 1, hqualifies, fun earlier hearlier ↦ ?_, by rw [hcut]; rfl⟩
        cases earlier with
        | zero => exact Bool.eq_false_iff.mpr hstarts
        | succ earlier => exact hfirst earlier (by omega)
      · refine .inr ⟨fun offset ↦ ?_, by rw [hcut]⟩
        cases offset with
        | zero => exact Bool.eq_false_iff.mpr hstarts
        | succ offset => exact hnone offset

theorem not_qualifiesAt_zero : ¬QualifiesAt text 0 :=
  fun h ↦ absurd h.1 (Nat.lt_irrefl 0)

theorem cutsAtFirst_stripQualifierChars (text : List Char) :
    CutsAtFirst text (stripQualifierChars text) := by
  cases text with
  | nil =>
    refine .whole fun offset h ↦ ?_
    obtain ⟨-, c, rest, hdrop, -⟩ := h
    rw [List.drop_nil] at hdrop
    cases hdrop
  | cons c rest =>
    rw [stripQualifierChars]
    rcases beforeQualifier_cases rest with ⟨offset, hqualifies, hfirst, hcut⟩ | ⟨hnone, hcut⟩
    · rw [hcut, ← List.take_succ_cons]
      refine .first (qualifiesAt_cons_succ_iff.mpr hqualifies) fun earlier hearlier ↦ ?_
      cases earlier with
      | zero => exact not_qualifiesAt_zero
      | succ earlier =>
        rw [qualifiesAt_cons_succ_iff, hfirst earlier (by omega)]
        exact Bool.false_ne_true
    · rw [hcut]
      refine .whole fun offset ↦ ?_
      cases offset with
      | zero => exact not_qualifiesAt_zero
      | succ offset =>
        rw [qualifiesAt_cons_succ_iff, hnone offset]
        exact Bool.false_ne_true

end Cuts

/-- The offsets at which a search from left to right finds `By`; it goes on behind each of them. -/
def markOffsets : List Char → List Nat
  | [] => []
  | 'B' :: 'y' :: rest => 0 :: (markOffsets rest).map (· + 2)
  | _ :: rest => (markOffsets rest).map (· + 1)

/-- Whether the character behind a `By` at an offset is an upper-case letter. -/
def isFollowed (text : List Char) (offset : Nat) : Bool :=
  (text.drop (offset + 2)).head?.any isUppercase

/-- What precedes an offset, or the whole text if there is none. -/
def cutAt (text : List Char) (offset : Option Nat) : List Char :=
  offset.elim text text.take

/-- A text cut at the first offset that is found behind its start and has a letter behind it. -/
def cutBySearch (text : List Char) : List Char :=
  cutAt text ((markOffsets text).find? fun offset ↦ 0 < offset && isFollowed text offset)

section Search

theorem startsQualifier_mark (rest : List Char) :
    startsQualifier ('B' :: 'y' :: rest) = rest.head?.any isUppercase := by
  cases rest <;> rfl

theorem startsQualifier_of_not_mark {c : Char} {rest : List Char}
    (h : ∀ behind, c = 'B' → rest = 'y' :: behind → False) :
    startsQualifier (c :: rest) = false := by
  rw [Bool.eq_false_iff]
  intro hstarts
  obtain ⟨upper, behind, heq, -⟩ := startsQualifier_eq_true_iff.mp hstarts
  cases heq
  exact h _ rfl rfl

theorem cutAt_map_succ (c : Char) (rest : List Char) (offset : Option Nat) :
    cutAt (c :: rest) (offset.map (· + 1)) = c :: cutAt rest offset := by
  cases offset <;> rfl

theorem cutAt_map_add_two (c d : Char) (rest : List Char) (offset : Option Nat) :
    cutAt (c :: d :: rest) (offset.map (· + 2)) = c :: d :: cutAt rest offset := by
  cases offset <;> rfl

/-- What is not at the beginning of a `By` may be passed over, the second character too. -/
theorem beforeQualifier_eq_cutAt (text : List Char) :
    beforeQualifier text = cutAt text ((markOffsets text).find? (isFollowed text)) := by
  fun_induction markOffsets text with
  | case1 => rfl
  | case2 rest ih =>
    have hinner : isFollowed ('B' :: 'y' :: rest) ∘ (· + 2) = isFollowed rest := rfl
    have hmark : isFollowed ('B' :: 'y' :: rest) 0 = startsQualifier ('B' :: 'y' :: rest) :=
      (startsQualifier_mark rest).symm
    rw [beforeQualifier, List.find?_cons, hmark]
    cases startsQualifier ('B' :: 'y' :: rest) with
    | true => rfl
    | false =>
      have hsecond : startsQualifier ('y' :: rest) = false :=
        startsQualifier_of_not_mark (by simp)
      dsimp only
      rw [if_neg Bool.false_ne_true, beforeQualifier, hsecond, if_neg Bool.false_ne_true, ih,
        List.find?_map, hinner, cutAt_map_add_two]
  | case3 c rest hnot ih =>
    have hinner : isFollowed (c :: rest) ∘ (· + 1) = isFollowed rest := rfl
    rw [beforeQualifier, startsQualifier_of_not_mark hnot, if_neg Bool.false_ne_true, ih,
      List.find?_map, hinner, cutAt_map_succ]

/-- The search finds the cut: leaving the start out of account costs it nothing behind the start. -/
theorem stripQualifierChars_eq_cutBySearch (text : List Char) :
    stripQualifierChars text = cutBySearch text := by
  rw [cutBySearch]
  fun_cases markOffsets text with
  | case1 => rfl
  | case2 rest =>
    have hinner : (fun offset ↦ 0 < offset && isFollowed ('B' :: 'y' :: rest) offset) ∘ (· + 2) =
        isFollowed rest := by
      funext offset
      simp [isFollowed]
    have hsecond : startsQualifier ('y' :: rest) = false := startsQualifier_of_not_mark (by simp)
    rw [stripQualifierChars, beforeQualifier, hsecond, if_neg Bool.false_ne_true,
      beforeQualifier_eq_cutAt, List.find?_cons_of_neg (by simp), List.find?_map, hinner,
      cutAt_map_add_two]
  | case3 c rest hnot =>
    have hinner : (fun offset ↦ 0 < offset && isFollowed (c :: rest) offset) ∘ (· + 1) =
        isFollowed rest := by
      funext offset
      simp [isFollowed]
    rw [stripQualifierChars, beforeQualifier_eq_cutAt, List.find?_map, hinner, cutAt_map_succ]

end Search

/-- What is left of a name without its qualifier. -/
structure IsStripped (name stripped : String) : Prop where
  /-- It is what precedes the first qualifier, or all of the name. -/
  cuts : CutsAtFirst name.toList stripped.toList
  /-- A search that goes on behind what it has found comes to the same. -/
  search : stripped.toList = cutBySearch name.toList
  empty_iff : stripped = "" ↔ name = ""
  not_qualifiesAt : ∀ offset, ¬QualifiesAt stripped.toList offset
  /-- It is not stripped any further. -/
  stable : stripQualifier stripped = stripped

/--
A name is cut in front of its first `By` behind the first character and with an upper-case letter
behind it, or is left as it is if there is none. What is left is empty for the empty name only, has
no such `By`, and is left as it is when it is cut again. The `By`s that a search from left to right
finds without overlaps come to the same cut.
-/
theorem stripQualifier_isStripped (name : String) : IsStripped name (stripQualifier name) := by
  have hchars : (stripQualifier name).toList = stripQualifierChars name.toList :=
    String.toList_ofList
  have hcuts : CutsAtFirst name.toList (stripQualifier name).toList :=
    hchars ▸ cutsAtFirst_stripQualifierChars name.toList
  constructor
  case cuts => exact hcuts
  case search => rw [hchars, stripQualifierChars_eq_cutBySearch]
  case empty_iff => rw [← String.toList_eq_nil_iff, hcuts.eq_nil_iff, String.toList_eq_nil_iff]
  case not_qualifiesAt => exact hcuts.not_qualifiesAt
  case stable =>
    apply String.toList_injective
    rw [stripQualifier, String.toList_ofList]
    exact (cutsAtFirst_stripQualifierChars _).eq_self hcuts.not_qualifiesAt

/-- Neither a `By` at the start nor one without an upper-case letter behind it cuts a name. -/
example : stripQualifier "ByBylineByéByBy" = "ByBylineByé" := by decide +kernel

end ProtoCrud.Schema
