import ProtoCrud.Text.Words

/-!
# The characters of words

A word of a name has at least one character, and all its characters are letters and numbers of the
name. What joins the words in one of the three spellings is therefore all that the spelling adds,
apart from the case.
-/

namespace ProtoCrud.Text

theorem mem_of_mem_pieces {separates : Char → Bool} {text piece : List Char} {c : Char}
    (hpiece : piece ∈ pieces separates text) (hc : c ∈ piece) :
    c ∈ text ∧ separates c = false := by
  induction text generalizing piece with
  | nil =>
    rw [pieces, List.mem_singleton] at hpiece
    subst hpiece
    cases hc
  | cons first rest ih =>
    rw [pieces] at hpiece
    split at hpiece
    · rcases List.mem_cons.mp hpiece with rfl | hpiece
      · cases hc
      · exact (ih hpiece hc).imp_left (List.mem_cons_of_mem _)
    · next hfirst =>
      have hself : first ∈ first :: rest ∧ separates first = false :=
        ⟨List.mem_cons_self, by simpa using hfirst⟩
      split at hpiece
      · rw [List.mem_singleton] at hpiece
        subst hpiece
        rw [List.mem_singleton] at hc
        exact hc ▸ hself
      · next before others heq =>
        have hothers {part : List Char} (hpart : part ∈ before :: others) (hc : c ∈ part) :=
          (ih (heq ▸ hpart) hc).imp_left (List.mem_cons_of_mem first)
        rcases List.mem_cons.mp hpiece with rfl | hpiece
        · rcases List.mem_cons.mp hc with rfl | hc
          · exact hself
          · exact hothers List.mem_cons_self hc
        · exact hothers (List.mem_cons_of_mem _ hpiece) hc

theorem mem_of_mem_pieceWords {mode : CaseMode} {current text word : List Char} {c : Char}
    (hword : word ∈ pieceWords mode current text) (hc : c ∈ word) : c ∈ current ∨ c ∈ text := by
  fun_induction pieceWords mode current text with
  | case1 => cases hword
  | case2 mode current hcurrent =>
    rw [List.mem_singleton] at hword
    subst hword
    exact .inl (List.mem_reverse.mp hc)
  | case3 => grind
  | case4 => grind
  | case5 => grind
  | case6 => grind

/-- The characters of a word are letters and numbers of the name. -/
theorem mem_of_mem_words {name word : List Char} {c : Char} (hword : word ∈ words name)
    (hc : c ∈ word) : c ∈ name ∧ isAlphanumeric c = true := by
  rw [words, List.mem_flatMap] at hword
  obtain ⟨piece, hpiece, hword⟩ := hword
  have hmem : c ∈ piece := by
    simpa using mem_of_mem_pieceWords hword hc
  simpa using mem_of_mem_pieces hpiece hmem

theorem toNat_of_ofNat_eq {code : Nat} {c : Char} (h : Char.ofNat code = c) (hc : c ≠ '\x00') :
    code = c.toNat := by
  subst h
  by_cases hvalid : code.isValidChar
  · rw [Char.ofNat, dif_pos hvalid]
    rfl
  · rw [Char.ofNat, dif_neg hvalid] at hc
    exact absurd rfl hc

/-- What holds of the first code points holds of every ASCII character. -/
theorem forall_isAscii {P : Char → Prop} (h : ∀ code < 0x80, P (Char.ofNat code)) (c : Char)
    (hc : isAscii c = true) : P c := by
  have hcode := h c.toNat (by simpa [isAscii] using hc)
  rwa [Char.ofNat_toNat] at hcode

/-- A form from tables that do not lead to a sign is without the sign. -/
theorem notMem_caseForm {expansions : List (Nat × List Nat)} {shifts : List CodeShift}
    {sign c : Char} (hsign : sign ≠ '\x00')
    (hexpansions : ∀ entry ∈ expansions, sign.toNat ∉ entry.2)
    (hshifts : ∀ shift ∈ shifts, (sign.toNat : Int) < shift.run.first + shift.distance)
    (hc : c ≠ sign) : sign ∉ caseForm expansions shifts c := by
  intro hmem
  rw [caseForm] at hmem
  split at hmem
  · next codes hcodes =>
    obtain ⟨code, hcode, hform⟩ := List.mem_map.mp hmem
    obtain ⟨before, after, rfl, -⟩ := List.lookup_eq_some_iff.mp hcodes
    have hentry := hexpansions _ (List.mem_append_right before List.mem_cons_self)
    exact hentry (toNat_of_ofNat_eq hform hsign ▸ hcode)
  · rw [List.mem_singleton, shifted?] at hmem
    cases hfind : shifts.find? (·.run.contains c.toNat) with
    | none => exact hc (by simpa [hfind] using hmem.symm)
    | some shift =>
      have hrun : shift.run.first ≤ c.toNat := by
        have hcontains := List.find?_some hfind
        simp only [CodeRun.contains, Bool.and_eq_true, decide_eq_true_eq] at hcontains
        exact hcontains.1.1
      have hform : ((c.toNat : Int) + shift.distance).toNat = sign.toNat :=
        toNat_of_ofNat_eq (by simpa [hfind] using hmem.symm) hsign
      have hfar := hshifts shift (List.mem_of_find?_eq_some hfind)
      omega

theorem caseForm_ne_nil {expansions : List (Nat × List Nat)} {shifts : List CodeShift}
    (hexpansions : ∀ entry ∈ expansions, entry.2 ≠ []) (c : Char) :
    caseForm expansions shifts c ≠ [] := by
  rw [caseForm]
  split
  · next codes hcodes =>
    obtain ⟨before, after, rfl, -⟩ := List.lookup_eq_some_iff.mp hcodes
    have hentry := hexpansions _ (List.mem_append_right before List.mem_cons_self)
    exact fun hnil ↦ hentry (List.map_eq_nil_iff.mp hnil)
  · exact List.cons_ne_nil _ _

theorem lowerForm_ne_nil (c : Char) : lowerForm c ≠ [] := by
  rw [lowerForm]
  split
  · exact List.cons_ne_nil _ _
  · exact caseForm_ne_nil (by decide +kernel) c

/-- The signs that no letter has as a form of lower case. -/
def outerSigns : List Char := ['#', '/', '_']

theorem forall_outerSigns {P : Char → Prop} :
    (∀ sign ∈ outerSigns, P sign) ↔ P '#' ∧ P '/' ∧ P '_' := by
  simp [outerSigns]

theorem notMem_lowerForm {sign c : Char} (hsign : sign ∈ outerSigns) (hc : c ≠ sign) :
    sign ∉ lowerForm c := by
  by_cases hascii : isAscii c = true
  · have hforms : ∀ sign ∈ outerSigns, ∀ d, isAscii d = true → d ≠ sign → sign ∉ lowerForm d :=
      forall_outerSigns.mpr ⟨forall_isAscii (by decide +kernel), forall_isAscii (by decide +kernel),
        forall_isAscii (by decide +kernel)⟩
    exact hforms sign hsign c hascii hc
  · have hzero : ∀ sign ∈ outerSigns, sign ≠ '\x00' := forall_outerSigns.mpr (by decide)
    have hexpansions : ∀ sign ∈ outerSigns, ∀ entry ∈ Table.lowerExpansion,
        sign.toNat ∉ entry.2 :=
      forall_outerSigns.mpr (by decide +kernel)
    have hshifts : ∀ sign ∈ outerSigns, ∀ shift ∈ Table.lowerShift,
        (sign.toNat : Int) < shift.run.first + shift.distance :=
      forall_outerSigns.mpr (by decide +kernel)
    rw [lowerForm, if_neg hascii]
    exact notMem_caseForm (hzero sign hsign) (hexpansions sign hsign) (hshifts sign hsign) hc

theorem mem_lowerWord {word : List Char} {c : Char} (h : c ∈ lowerWord word) :
    c = 'ς' ∨ ∃ d ∈ word, c ∈ lowerForm d := by
  fun_induction lowerWord word with
  | case1 => cases h
  | case2 => exact .inl (List.mem_singleton.mp h)
  | case3 d _ => exact .inr ⟨d, List.mem_singleton_self d, h⟩
  | case4 d rest _ ih =>
    rcases List.mem_append.mp h with h | h
    · exact .inr ⟨d, List.mem_cons_self, h⟩
    · exact (ih h).imp_right fun ⟨e, he, hform⟩ ↦ ⟨e, List.mem_cons_of_mem _ he, hform⟩

theorem lowerWord_ne_nil {word : List Char} (h : word ≠ []) : lowerWord word ≠ [] := by
  fun_cases lowerWord word with
  | case1 => exact absurd rfl h
  | case2 => exact List.cons_ne_nil _ _
  | case3 c _ => exact lowerForm_ne_nil c
  | case4 c rest => exact List.append_ne_nil_of_left_ne_nil (lowerForm_ne_nil c) _

/-- A word of a name is without signs in lower case. -/
theorem notMem_lowerWord {name word : List Char} (hword : word ∈ words name) {sign : Char}
    (hsign : sign ∈ outerSigns) : sign ∉ lowerWord word := by
  have houter : ∀ sign ∈ outerSigns, sign ≠ 'ς' ∧ isAlphanumeric sign = false :=
    forall_outerSigns.mpr (by decide +kernel)
  intro hmem
  rcases mem_lowerWord hmem with rfl | ⟨c, hc, hform⟩
  · exact (houter _ hsign).1 rfl
  · refine notMem_lowerForm hsign ?_ hform
    rintro rfl
    cases (houter c hsign).2.symm.trans (mem_of_mem_words hword hc).2

theorem mem_of_mem_intercalate {α : Type} {separator : List α} {parts : List (List α)} {a : α}
    (h : a ∈ separator.intercalate parts) : a ∈ separator ∨ ∃ part ∈ parts, a ∈ part := by
  induction parts with
  | nil => simp at h
  | cons first rest ih =>
    cases rest with
    | nil => exact .inr ⟨first, List.mem_cons_self, by simpa using h⟩
    | cons next rest =>
      rw [List.intercalate_cons_cons, List.mem_append, List.mem_append] at h
      rcases h with (h | h) | h
      · exact .inr ⟨first, List.mem_cons_self, h⟩
      · exact .inl h
      · exact (ih h).imp_right fun ⟨part, hpart, ha⟩ ↦ ⟨part, List.mem_cons_of_mem _ hpart, ha⟩

/-- A name in snake case has no signs but the underscores between its words. -/
theorem notMem_snakeCase (name : String) {sign : Char} (hsign : sign ∈ outerSigns)
    (hunderscore : sign ≠ '_') : sign ∉ (snakeCase name).toList := by
  intro h
  rw [snakeCase, String.toList_intercalate, List.map_map] at h
  rcases mem_of_mem_intercalate h with h | ⟨part, hpart, h⟩
  · exact hunderscore (List.mem_singleton.mp h)
  · obtain ⟨word, hword, rfl⟩ := List.mem_map.mp hpart
    rw [Function.comp_apply, String.toList_ofList] at h
    exact notMem_lowerWord hword hsign h

/-- A name in snake case is without slashes. -/
theorem slash_notMem_snakeCase (name : String) : '/' ∉ (snakeCase name).toList :=
  notMem_snakeCase name (by decide) (by decide)

end ProtoCrud.Text
