import ProtoCrud.Proofs.Text.Words

/-!
# Plain names

A plain name is a letter of ASCII with letters, digits and underscores of ASCII behind it, as schema
languages have them. The spellings of a plain name are plain names again: its first word begins with
the letter that the name begins with.
-/

namespace ProtoCrud.Text

/-- Whether a character may stand in a plain name. -/
def isPlainChar (c : Char) : Bool :=
  c.isAlphanum || c == '_'

def isPlainName : List Char → Bool
  | [] => false
  | c :: rest => c.isAlpha && rest.all isPlainChar

theorem code_of_isAlpha {c : Char} (h : c.isAlpha = true) :
    'A'.toNat ≤ c.toNat ∧ c.toNat ≤ 'Z'.toNat ∨ 'a'.toNat ≤ c.toNat ∧ c.toNat ≤ 'z'.toNat := by
  rcases Bool.or_eq_true_iff.mp h with hupper | hlower
  · exact .inl (of_decide_eq_true hupper)
  · obtain ⟨hlow, hhigh⟩ := Bool.and_eq_true_iff.mp hlower
    exact .inr ⟨of_decide_eq_true hlow, of_decide_eq_true hhigh⟩

theorem code_of_isDigit {c : Char} (h : c.isDigit = true) :
    '0'.toNat ≤ c.toNat ∧ c.toNat ≤ '9'.toNat := by
  obtain ⟨hlow, hhigh⟩ := Bool.and_eq_true_iff.mp h
  exact ⟨of_decide_eq_true hlow, of_decide_eq_true hhigh⟩

theorem isAscii_of_isPlainChar {c : Char} (h : isPlainChar c = true) : isAscii c = true := by
  rw [isAscii, decide_eq_true_eq]
  rcases Bool.or_eq_true_iff.mp h with h | h
  · rcases Bool.or_eq_true_iff.mp h with h | h
    · have hcode := code_of_isAlpha h
      simp only [Char.reduceToNat] at hcode
      omega
    · have hcode := (code_of_isDigit h).2
      simp only [Char.reduceToNat] at hcode
      omega
  · rw [eq_of_beq h]
    decide

theorem isPlainChar_of_isAlpha {c : Char} (h : c.isAlpha = true) : isPlainChar c = true := by
  simp [isPlainChar, Char.isAlphanum, h]

/-- What holds of the first code points that may stand in a plain name holds of all of them. -/
theorem forall_isPlainChar {P : Char → Prop}
    (h : ∀ code < 0x80, isPlainChar (Char.ofNat code) = true → P (Char.ofNat code)) (c : Char)
    (hc : isPlainChar c = true) : P c :=
  forall_isAscii (P := fun c ↦ isPlainChar c = true → P c) h c (isAscii_of_isPlainChar hc) hc

theorem isPlainChar_of_mem {name : List Char} (hname : isPlainName name = true) {c : Char}
    (hc : c ∈ name) : isPlainChar c = true := by
  cases name with
  | nil => cases hc
  | cons first rest =>
    simp only [isPlainName, Bool.and_eq_true, List.all_eq_true] at hname
    rcases List.mem_cons.mp hc with rfl | hc
    · exact isPlainChar_of_isAlpha hname.1
    · exact hname.2 c hc

theorem isPlainName_cons {c : Char} {rest : List Char} (hc : c.isAlpha = true)
    (hrest : ∀ d ∈ rest, isPlainChar d = true) : isPlainName (c :: rest) = true := by
  rw [isPlainName, hc, Bool.true_and, List.all_eq_true]
  exact hrest

theorem exists_cons_of_isPlainName {name : List Char} (h : isPlainName name = true) :
    ∃ c rest, name = c :: rest ∧ c.isAlpha = true ∧ ∀ d ∈ rest, isPlainChar d = true := by
  cases name with
  | nil => cases h
  | cons c rest =>
    simp only [isPlainName, Bool.and_eq_true, List.all_eq_true] at h
    exact ⟨c, rest, rfl, h⟩

/-- The first word goes on with the characters that were read of it. -/
theorem exists_pieceWords {mode : CaseMode} {current text : List Char} (h : current ≠ []) :
    ∃ tail others, pieceWords mode current text = (current.reverse ++ tail) :: others := by
  fun_induction pieceWords mode current text with
  | case1 mode current hempty => exact absurd (List.isEmpty_iff.mp hempty) h
  | case2 => exact ⟨[], [], by rw [List.append_nil]⟩
  | case3 _ current c => exact ⟨[c], [], by rw [List.reverse_cons]⟩
  | case4 _ current c next rest _ =>
    exact ⟨[c], pieceWords .unknown [] (next :: rest), by rw [List.reverse_cons]⟩
  | case5 _ current c next rest =>
    exact ⟨[], pieceWords .unknown [c] (next :: rest), by rw [List.append_nil]⟩
  | case6 _ current c next rest _ _ ih =>
    obtain ⟨tail, others, htail⟩ := ih (List.cons_ne_nil c current)
    exact ⟨c :: tail, others, by rw [htail, List.reverse_cons, List.append_assoc]; rfl⟩

theorem exists_pieceWords_cons (c : Char) (rest : List Char) :
    ∃ tail others, pieceWords .unknown [] (c :: rest) = (c :: tail) :: others := by
  cases rest with
  | nil => exact ⟨[], [], rfl⟩
  | cons next rest =>
    rw [pieceWords]
    split
    · exact ⟨[], pieceWords .unknown [] (next :: rest), rfl⟩
    · rw [if_neg (by simp)]
      exact exists_pieceWords (List.cons_ne_nil c [])

/-- The first word of a name that starts with a letter or a number starts with it too. -/
theorem exists_words_cons {c : Char} (hc : isAlphanumeric c = true) (rest : List Char) :
    ∃ tail others, words (c :: rest) = (c :: tail) :: others := by
  have hpieces : ∃ tail others, pieces (!isAlphanumeric ·) (c :: rest) = (c :: tail) :: others := by
    rw [pieces, if_neg (by simp [hc])]
    split
    · exact ⟨[], [], rfl⟩
    · next piece others _ => exact ⟨piece, others, rfl⟩
  obtain ⟨piece, others, hpieces⟩ := hpieces
  obtain ⟨tail, more, hwords⟩ := exists_pieceWords_cons c piece
  exact ⟨tail, more ++ others.flatMap (pieceWords .unknown []), by
    rw [words, hpieces, List.flatMap_cons, hwords]; rfl⟩

theorem isPlainName_append {name rest : List Char} (hname : isPlainName name = true)
    (hrest : ∀ c ∈ rest, isPlainChar c = true) : isPlainName (name ++ rest) = true := by
  obtain ⟨c, tail, rfl, hc, htail⟩ := exists_cons_of_isPlainName hname
  refine isPlainName_cons hc fun d hd ↦ ?_
  exact (List.mem_append.mp hd).elim (htail d) (hrest d)

theorem isPlainName_intercalate {separator first : List Char} {others : List (List Char)}
    (hseparator : ∀ c ∈ separator, isPlainChar c = true) (hfirst : isPlainName first = true)
    (hothers : ∀ part ∈ others, ∀ c ∈ part, isPlainChar c = true) :
    isPlainName (separator.intercalate (first :: others)) = true := by
  cases others with
  | nil => simpa using hfirst
  | cons next others =>
    rw [List.intercalate_cons_cons, List.append_assoc]
    refine isPlainName_append hfirst fun c hc ↦ ?_
    rcases List.mem_append.mp hc with hc | hc
    · exact hseparator c hc
    · rcases mem_of_mem_intercalate hc with hc | ⟨part, hpart, hc⟩
      · exact hseparator c hc
      · exact hothers part hpart c hc

theorem isPlainChar_of_mem_words {name word : List Char} (hname : isPlainName name = true)
    (hword : word ∈ words name) {c : Char} (hc : c ∈ word) : isPlainChar c = true :=
  isPlainChar_of_mem hname (mem_of_mem_words hword hc).1

theorem intercalate_nil_map {α β : Type} (f : α → List β) (l : List α) :
    [].intercalate (l.map f) = l.flatMap f := by
  induction l with
  | nil => rfl
  | cons a rest ih =>
    rw [List.flatMap_cons, ← ih]
    cases rest with
    | nil => simp
    | cons b rest => rw [List.map_cons, List.map_cons, List.intercalate_cons_cons, List.append_nil]

/--
Joined words of a plain name, each in another spelling, are a plain name if the spelling of the
first of them is one.
-/
theorem isPlainName_intercalate_words {name separator : List Char}
    {spelling : List Char → List Char} (hname : isPlainName name = true)
    (hseparator : ∀ c ∈ separator, isPlainChar c = true)
    (hspelling : ∀ word, (∀ c ∈ word, isPlainChar c = true) →
      ∀ c ∈ spelling word, isPlainChar c = true)
    (hfirst : ∀ c tail, c.isAlpha = true → (∀ d ∈ tail, isPlainChar d = true) →
      isPlainName (spelling (c :: tail)) = true) :
    isPlainName (separator.intercalate ((words name).map spelling)) = true := by
  obtain ⟨c, rest, rfl, hc, -⟩ := exists_cons_of_isPlainName hname
  have hletter : isAlphanumeric c = true := by
    rw [isAlphanumeric, if_pos (isAscii_of_isPlainChar (isPlainChar_of_isAlpha hc)),
      Char.isAlphanum, hc, Bool.true_or]
  obtain ⟨tail, others, hwords⟩ := exists_words_cons hletter rest
  have hchars (word : List Char) (hword : word ∈ (c :: tail) :: others) :
      ∀ d ∈ word, isPlainChar d = true :=
    fun d hd ↦ isPlainChar_of_mem_words hname (hwords ▸ hword) hd
  rw [hwords, List.map_cons]
  refine isPlainName_intercalate hseparator (hfirst c tail hc fun d hd ↦ ?_) fun part hpart ↦ ?_
  · exact hchars _ List.mem_cons_self d (List.mem_cons_of_mem c hd)
  · obtain ⟨word, hword, rfl⟩ := List.mem_map.mp hpart
    exact hspelling word (hchars word (List.mem_cons_of_mem _ hword))

theorem lowerForm_of_isPlainChar {c : Char} (h : isPlainChar c = true) :
    lowerForm c = [c.toLower] := by
  rw [lowerForm, if_pos (isAscii_of_isPlainChar h)]

theorem upperForm_of_isPlainChar {c : Char} (h : isPlainChar c = true) :
    upperForm c = [c.toUpper] := by
  rw [upperForm, if_pos (isAscii_of_isPlainChar h)]

/-- In either case a plain character is plain, and a letter is a letter. -/
theorem isPlainChar_toLower_toUpper {c : Char} (h : isPlainChar c = true) :
    (isPlainChar c.toLower = true ∧ (c.isAlpha = true → c.toLower.isAlpha = true)) ∧
      isPlainChar c.toUpper = true ∧ (c.isAlpha = true → c.toUpper.isAlpha = true) :=
  forall_isPlainChar (P := fun c ↦
    (isPlainChar c.toLower = true ∧ (c.isAlpha = true → c.toLower.isAlpha = true)) ∧
      isPlainChar c.toUpper = true ∧ (c.isAlpha = true → c.toUpper.isAlpha = true))
    (by decide +kernel) c h

theorem lowerWord_of_isPlainChar {word : List Char} (h : ∀ c ∈ word, isPlainChar c = true) :
    lowerWord word = word.map Char.toLower := by
  fun_induction lowerWord word with
  | case1 => rfl
  | case2 => exact absurd (h 'Σ' List.mem_cons_self) (by decide)
  | case3 c _ => exact lowerForm_of_isPlainChar (h c List.mem_cons_self)
  | case4 c rest _ ih =>
    rw [lowerForm_of_isPlainChar (h c List.mem_cons_self),
      ih fun d hd ↦ h d (List.mem_cons_of_mem c hd)]
    rfl

theorem isPlainChar_of_mem_lowerWord {word : List Char} (h : ∀ c ∈ word, isPlainChar c = true) :
    ∀ c ∈ lowerWord word, isPlainChar c = true := by
  intro c hc
  rw [lowerWord_of_isPlainChar h] at hc
  obtain ⟨d, hd, rfl⟩ := List.mem_map.mp hc
  exact (isPlainChar_toLower_toUpper (h d hd)).1.1

theorem isPlainName_snakeCase {name : String} (h : isPlainName name.toList = true) :
    isPlainName (snakeCase name).toList = true := by
  rw [snakeCase, String.toList_intercalate, List.map_map]
  have hunderscore : ∀ c ∈ "_".toList, isPlainChar c = true :=
    List.forall_mem_singleton.mpr rfl
  refine isPlainName_intercalate_words h hunderscore (fun word hword ↦ ?_) fun c tail hc htail ↦ ?_
  · rw [Function.comp_apply, String.toList_ofList]
    exact isPlainChar_of_mem_lowerWord hword
  · have hplain : ∀ d ∈ c :: tail, isPlainChar d = true :=
      List.forall_mem_cons.mpr ⟨isPlainChar_of_isAlpha hc, htail⟩
    have hall := isPlainChar_of_mem_lowerWord hplain
    rw [Function.comp_apply, String.toList_ofList]
    rw [lowerWord_of_isPlainChar hplain, List.map_cons] at hall ⊢
    have hletter := (isPlainChar_toLower_toUpper (isPlainChar_of_isAlpha hc)).1.2 hc
    exact isPlainName_cons hletter fun d hd ↦ hall d (List.mem_cons_of_mem _ hd)

theorem upperWord_of_isPlainChar {word : List Char} (h : ∀ c ∈ word, isPlainChar c = true) :
    upperWord word = word.map Char.toUpper := by
  induction word with
  | nil => rfl
  | cons c word ih =>
    obtain ⟨hc, hword⟩ := List.forall_mem_cons.mp h
    rw [upperWord, List.flatMap_cons, ← upperWord, upperForm_of_isPlainChar hc, ih hword]
    rfl

theorem isPlainName_shoutyCase {name : String} (h : isPlainName name.toList = true) :
    isPlainName (shoutyCase name).toList = true := by
  have hupper {c : Char} (hc : isPlainChar c = true) := (isPlainChar_toLower_toUpper hc).2
  rw [shoutyCase, String.toList_intercalate, List.map_map]
  simp only [Function.comp_def, String.toList_ofList]
  refine isPlainName_intercalate_words h (List.forall_mem_singleton.mpr rfl)
    (fun word hword d hd ↦ ?_) fun c tail hc htail ↦ ?_
  · rw [upperWord_of_isPlainChar hword] at hd
    obtain ⟨c, hc, rfl⟩ := List.mem_map.mp hd
    exact (hupper (hword c hc)).1
  · have hplain := isPlainChar_of_isAlpha hc
    rw [upperWord_of_isPlainChar (List.forall_mem_cons.mpr ⟨hplain, htail⟩), List.map_cons]
    refine isPlainName_cons ((hupper hplain).2 hc) fun d hd ↦ ?_
    obtain ⟨e, he, rfl⟩ := List.mem_map.mp hd
    exact (hupper (htail e he)).1

/-- A name in camel case starts with a letter in upper case. -/
theorem isPlainName_camelCase {name : String} (h : isPlainName name.toList = true) :
    isPlainName (camelCase name).toList = true := by
  have hupper {c : Char} (hc : isPlainChar c = true) := (isPlainChar_toLower_toUpper hc).2
  have hword {c : Char} {tail : List Char} (hc : isPlainChar c = true)
      (htail : ∀ d ∈ tail, isPlainChar d = true) :
      capitalWord (c :: tail) = c.toUpper :: lowerWord tail := by
    rw [capitalWord, upperForm_of_isPlainChar hc]
    rfl
  rw [camelCase, String.toList_join, List.flatMap_map]
  simp only [String.toList_ofList]
  rw [← intercalate_nil_map]
  refine isPlainName_intercalate_words h (by simp) (fun word hplain ↦ ?_) fun c tail hc htail ↦ ?_
  · cases word with
    | nil => simp [capitalWord]
    | cons c tail =>
      obtain ⟨hc, htail⟩ := List.forall_mem_cons.mp hplain
      rw [hword hc htail]
      exact List.forall_mem_cons.mpr ⟨(hupper hc).1, isPlainChar_of_mem_lowerWord htail⟩
  · have hplain := isPlainChar_of_isAlpha hc
    rw [hword hplain htail]
    exact isPlainName_cons ((hupper hplain).2 hc) (isPlainChar_of_mem_lowerWord htail)

end ProtoCrud.Text
