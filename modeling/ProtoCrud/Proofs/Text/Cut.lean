import ProtoCrud.Text.Cut

/-!
# Cutting text whose parts are known

What splitting, replacing, cutting off and trimming do to a text that is put together of parts in
which the separator, the beginning of the text sought for, or the end to cut off does not occur.
-/

namespace ProtoCrud.Text

theorem splitAll_ne_nil (separator : Char) (text : List Char) : splitAll separator text ≠ [] := by
  cases text with
  | nil => exact List.cons_ne_nil _ _
  | cons c rest =>
    rw [splitAll]
    split
    · exact List.cons_ne_nil _ _
    · split <;> exact List.cons_ne_nil _ _

theorem splitAll_append_cons {separator : Char} {part : List Char} (h : separator ∉ part)
    (rest : List Char) :
    splitAll separator (part ++ separator :: rest) = part :: splitAll separator rest := by
  induction part with
  | nil => simp [splitAll]
  | cons c part ih =>
    rw [List.mem_cons, not_or] at h
    rw [List.cons_append, splitAll, if_neg (Ne.symm h.1), ih h.2]

theorem splitAll_of_notMem {separator : Char} {part : List Char} (h : separator ∉ part) :
    splitAll separator part = [part] := by
  induction part with
  | nil => rfl
  | cons c part ih =>
    rw [List.mem_cons, not_or] at h
    rw [splitAll, if_neg (Ne.symm h.1), ih h.2]

/-- The parts with some text in front of each are the text with this in place of separators. -/
theorem flatMap_splitAll (separator : Char) (lead text : List Char) :
    (splitAll separator text).flatMap (lead ++ ·) =
      lead ++ text.flatMap fun c ↦ if c = separator then lead else [c] := by
  induction text with
  | nil => simp [splitAll]
  | cons c rest ih =>
    rw [splitAll, List.flatMap_cons]
    split
    · rw [List.flatMap_cons, ih, List.append_nil]
    · cases hparts : splitAll separator rest with
      | nil => exact absurd hparts (splitAll_ne_nil separator rest)
      | cons part parts =>
        rw [hparts, List.flatMap_cons, List.append_assoc] at ih
        rw [List.flatMap_cons, List.append_assoc, List.cons_append, List.append_cancel_left ih]
        rfl

theorem splitLast?_eq_none_iff {separator : Char} {text : List Char} :
    splitLast? separator text = none ↔ separator ∉ text := by
  induction text with
  | nil => simp [splitLast?]
  | cons c rest ih =>
    rw [splitLast?, List.mem_cons, not_or, ← ih]
    cases splitLast? separator rest with
    | some parts => simp
    | none => simp [eq_comm]

/-- The parts before and behind the last separator are found again. -/
theorem splitLast?_append_cons {separator : Char} {before after : List Char}
    (h : separator ∉ after) :
    splitLast? separator (before ++ separator :: after) = some (before, after) := by
  induction before with
  | nil =>
    rw [List.nil_append, splitLast?, splitLast?_eq_none_iff.mpr h]
    exact if_pos rfl
  | cons c before ih => rw [List.cons_append, splitLast?, ih]

theorem notMem_of_splitLast? {separator : Char} {text before after : List Char}
    (h : splitLast? separator text = some (before, after)) : separator ∉ after := by
  induction text generalizing before with
  | nil => cases h
  | cons c rest ih =>
    rw [splitLast?] at h
    split at h
    · next hrest =>
      cases h
      exact ih hrest
    · next hrest =>
      split at h
      · cases h
        exact splitLast?_eq_none_iff.mp hrest
      · cases h

/-- A text is cut behind its beginning and nowhere else. -/
theorem afterStart?_eq_some_iff {start text rest : List Char} :
    afterStart? start text = some rest ↔ text = start ++ rest := by
  induction start generalizing text with
  | nil => simp [afterStart?]
  | cons s start ih =>
    cases text with
    | nil => simp [afterStart?]
    | cons c text =>
      rw [afterStart?]
      split
      · next heq => simp [ih, heq]
      · next hne => simp [Ne.symm hne]

/-- A text is cut in front of its end and nowhere else. -/
theorem beforeEnd?_eq_some_iff {ending text before : List Char} :
    beforeEnd? ending text = some before ↔ text = before ++ ending := by
  rw [beforeEnd?, Option.map_eq_some_iff]
  constructor
  · rintro ⟨rest, hrest, rfl⟩
    rw [← List.reverse_reverse text, afterStart?_eq_some_iff.mp hrest, List.reverse_append,
      List.reverse_reverse]
  · rintro rfl
    exact ⟨before.reverse, afterStart?_eq_some_iff.mpr List.reverse_append,
      List.reverse_reverse before⟩

/-- Nothing is replaced in front of the first occurrence. -/
theorem replaceAll_append {head : Char} {before : List Char} (h : head ∉ before)
    (tail replacement text : List Char) :
    replaceAll head tail replacement (before ++ text) =
      before ++ replaceAll head tail replacement text := by
  induction before with
  | nil => rfl
  | cons c before ih =>
    rw [List.mem_cons, not_or] at h
    have hstart : afterStart? (head :: tail) (c :: (before ++ text)) = none := by
      rw [afterStart?, if_neg h.1]
    rw [List.cons_append, replaceAll]
    split
    · next behind hbehind => simp [hstart] at hbehind
    · rw [ih h.2, List.cons_append]

theorem replaceAll_self_append (head : Char) (tail replacement text : List Char) :
    replaceAll head tail replacement (head :: tail ++ text) =
      replacement ++ replaceAll head tail replacement text := by
  have hstart : afterStart? (head :: tail) (head :: (tail ++ text)) = some text :=
    afterStart?_eq_some_iff.mpr rfl
  rw [List.cons_append, replaceAll]
  split
  · next behind hbehind =>
    rw [hstart] at hbehind
    cases hbehind
    rfl
  · next hnone =>
    rw [hstart] at hnone
    cases hnone

theorem replaceAll_self (head : Char) (tail replacement : List Char) :
    replaceAll head tail replacement (head :: tail) = replacement := by
  have hwhole := replaceAll_self_append head tail replacement []
  rwa [List.append_nil, replaceAll, List.append_nil] at hwhole

/-- A text that does not end with a colon keeps its end. -/
theorem dropColonsEnd_of_getLast? {text : List Char} (h : ∀ c ∈ text.getLast?, c ≠ ':') :
    dropColonsEnd text = text := by
  rw [dropColonsEnd, dropColonsEnd.dropPairs.eq_def]
  split
  · next heq =>
    refine absurd rfl (h ':' ?_)
    rw [← List.head?_reverse, heq]
    rfl
  · rw [List.reverse_reverse]

end ProtoCrud.Text
