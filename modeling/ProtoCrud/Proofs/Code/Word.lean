import ProtoCrud.Code.Lexeme
import ProtoCrud.Proofs.Text.Cut
import ProtoCrud.Proofs.Text.PlainName

/-!
# Words that are read as a whole

A word of plain characters is read as a whole if what follows neither goes on with it nor makes a
literal of it. A space, a colon and the end of the text do neither.
-/

namespace ProtoCrud.Code

open Text (isPlainChar code_of_isAlpha code_of_isDigit isAscii_of_isPlainChar
  isPlainChar_of_isAlpha forall_isPlainChar)

/-- Whether a plain word may begin with a character. -/
def isPlainStart (c : Char) : Bool :=
  c.isAlpha || c == '_'

/-- The characters that make a literal of a word that they follow. -/
def literalMarks : List Char :=
  ['"', '\'', '#']

/-- What may follow a word: it neither goes on with the word nor makes a literal of it. -/
def StopsWord (rest : List Char) : Prop :=
  ∀ c ∈ rest.head?, Text.isIdentifierContinue c = false ∧ c ∉ literalMarks

theorem stopsWord_nil : StopsWord [] := by
  simp [StopsWord]

theorem stopsWord_colon (rest : List Char) : StopsWord (':' :: rest) := by
  rintro c ⟨⟩
  decide

section Word

variable {c : Char} {tail rest text : List Char}

theorem isPlainStart_of_isAlpha (hc : c.isAlpha = true) : isPlainStart c = true := by
  rw [isPlainStart, hc, Bool.true_or]

theorem isPlainChar_of_isPlainStart (hc : isPlainStart c = true) : isPlainChar c = true := by
  rcases Bool.or_eq_true_iff.mp hc with hc | hc
  · exact isPlainChar_of_isAlpha hc
  · simp [isPlainChar, hc]

theorem isIdentifierContinue_of_isPlainChar (h : isPlainChar c = true) :
    Text.isIdentifierContinue c = true := by
  rw [Text.isIdentifierContinue, if_pos (isAscii_of_isPlainChar h)]
  exact h

theorem notMem_literalMarks (h : isPlainChar c = true) : c ∉ literalMarks := by
  have hmarks : (literalMarks.all fun c ↦ !isPlainChar c) = true := by decide
  intro hmem
  simpa [h] using List.all_eq_true.mp hmarks c hmem

/-- What follows the beginning of a word makes no literal of it. -/
theorem head?_notMem_literalMarks (htail : ∀ d ∈ tail, isPlainChar d = true)
    (hrest : StopsWord rest) : ∀ d ∈ (tail ++ rest).head?, d ∉ literalMarks := by
  cases tail with
  | nil => exact fun d hd ↦ (hrest d hd).2
  | cons d tail =>
    rintro _ ⟨⟩
    exact notMem_literalMarks (htail d List.mem_cons_self)

theorem takeWhile_word (htail : ∀ d ∈ tail, isPlainChar d = true) (hrest : StopsWord rest) :
    (tail ++ rest).takeWhile Text.isIdentifierContinue = tail := by
  rw [List.takeWhile_append_of_pos fun d hd ↦ isIdentifierContinue_of_isPlainChar (htail d hd)]
  cases rest with
  | nil => exact List.append_nil tail
  | cons d rest =>
    rw [List.takeWhile_cons_of_neg (by simp [(hrest d rfl).1]), List.append_nil]

theorem dropWhile_word (htail : ∀ d ∈ tail, isPlainChar d = true) (hrest : StopsWord rest) :
    (tail ++ rest).dropWhile Text.isIdentifierContinue = rest := by
  have hsplit : (tail ++ rest).takeWhile Text.isIdentifierContinue ++
      (tail ++ rest).dropWhile Text.isIdentifierContinue = tail ++ rest :=
    List.takeWhile_append_dropWhile
  rwa [takeWhile_word htail hrest, List.append_cancel_left_eq] at hsplit

/-- The beginning of a word is none of the signs and digits that begin something else. -/
theorem ne_of_isPlainStart (hc : isPlainStart c = true) {sign : Char}
    (hsign : sign ∈ ['"', '#', '\'', '\\', '/', '0']) : c ≠ sign := by
  have hsigns : (['"', '#', '\'', '\\', '/', '0'].all fun sign ↦ !isPlainStart sign) = true :=
    rfl
  rintro rfl
  simpa [hc] using List.all_eq_true.mp hsigns c hsign

theorem isDigit_of_isPlainStart (hc : isPlainStart c = true) : c.isDigit = false := by
  rw [← Bool.not_eq_true]
  intro hdigit
  have hnine := code_of_isDigit hdigit
  rcases Bool.or_eq_true_iff.mp hc with hc | hc
  · have hcode := code_of_isAlpha hc
    simp only [Char.reduceToNat] at hcode hnine
    omega
  · rw [eq_of_beq hc] at hnine
    simp only [Char.reduceToNat] at hnine
    omega

theorem not_digitValue?_lt (hc : c.isDigit = false) {digit : Nat} (h : digitValue? c = some digit) :
    ¬ digit < 10 := by
  rw [digitValue?, if_neg (by simp [hc])] at h
  split at h
  · cases h; omega
  · split at h
    · cases h; omega
    · cases h

theorem afterRaw?_eq_none (kind : QuotedKind) (h : ∀ d ∈ text.head?, d ∉ literalMarks) :
    afterRaw? kind text = none := by
  cases text with
  | nil => rfl
  | cons d text =>
    have hmark := h d rfl
    have hsign : d ≠ '#' := by
      rintro rfl
      exact hmark (by decide)
    rw [afterRaw?, List.dropWhile_cons_of_neg (by simp [hsign])]
    split
    · next heq =>
      rw [(List.cons.inj heq).1] at hmark
      simp [literalMarks] at hmark
    · rfl

/-- No quoted literal begins with a word. -/
theorem afterQuotation?_eq_none (hc : isPlainStart c = true)
    (htail : ∀ d ∈ tail, isPlainChar d = true) (hrest : StopsWord rest) :
    afterQuotation? (c :: (tail ++ rest)) = none := by
  have hfirst {sign : Char} {more : List Char} (hsign : sign ∈ ['"', '#', '\'', '\\', '/', '0'])
      (heq : c :: (tail ++ rest) = sign :: more) : False :=
    ne_of_isPlainStart hc hsign (List.cons.inj heq).1
  have hnext := head?_notMem_literalMarks htail hrest
  have hsecond {first d : Char} {more : List Char} (heq : c :: (tail ++ rest) = first :: d :: more)
      (hd : d ∈ literalMarks) : False :=
    hnext d (by rw [(List.cons.inj heq).2]; rfl) hd
  have hthird {first d : Char} {more : List Char} (hd : isPlainChar d = true)
      (heq : c :: (tail ++ rest) = first :: d :: more) : ∀ e ∈ more.head?, e ∉ literalMarks := by
    cases tail with
    | nil =>
      have hstop := (hrest d (by rw [← List.nil_append rest, (List.cons.inj heq).2]; rfl)).1
      rw [isIdentifierContinue_of_isPlainChar hd] at hstop
      cases hstop
    | cons e tail =>
      rw [← (List.cons.inj (List.cons.inj heq).2).2]
      exact head?_notMem_literalMarks (List.forall_mem_cons.mp htail).2 hrest
  -- the letters that announce a quoted literal need a quote or a mark behind them
  rw [afterQuotation?.eq_def]
  split
  · next heq => exact (hfirst (by simp) heq).elim
  · next heq => exact afterRaw?_eq_none .text ((List.cons.inj heq).2 ▸ hnext)
  · next heq => exact (hsecond heq (by decide)).elim
  · next heq => exact afterRaw?_eq_none .bytes (hthird (by decide) heq)
  · next heq => exact (hsecond heq (by decide)).elim
  · next heq => exact afterRaw?_eq_none .terminated (hthird (by decide) heq)
  · next heq => exact (hsecond heq (by decide)).elim
  · next heq => exact (hfirst (by simp) heq).elim
  · rfl

theorem afterWhole?_eq_none (hc : isPlainStart c = true) : afterWhole? (c :: text) = none := by
  have hbase : numberBase (c :: text) = (10, c :: text) := by
    have hzero : c ≠ '0' := ne_of_isPlainStart hc (by simp)
    rw [numberBase.eq_def]
    split
    · next heq => exact absurd (List.cons.inj heq).1 hzero
    · next heq => exact absurd (List.cons.inj heq).1 hzero
    · next heq => exact absurd (List.cons.inj heq).1 hzero
    · rfl
  rw [afterWhole?, hbase]
  dsimp only
  rw [afterDigits?]
  cases hvalue : digitValue? c with
  | none => simp
  | some digit => simp [not_digitValue?_lt (isDigit_of_isPlainStart hc) hvalue]

theorem afterLiteral?_eq_none (hc : isPlainStart c = true)
    (htail : ∀ d ∈ tail, isPlainChar d = true) (hrest : StopsWord rest) :
    afterLiteral? (c :: (tail ++ rest)) = none := by
  have hfraction : afterFraction? (c :: (tail ++ rest)) = none := by
    simp [afterFraction?, isDigit_of_isPlainStart hc]
  rw [afterLiteral?, afterQuotation?_eq_none hc htail hrest, hfraction, afterWhole?_eq_none hc]
  rfl

/-- Plain characters with a mark behind them are not where a word begins. -/
theorem not_prefix_of_mark {word letters after : List Char} {mark : Char}
    (hword : ∀ d ∈ word, isPlainChar d = true) (hrest : StopsWord rest)
    (hletters : ∀ d ∈ letters, isPlainChar d = true) (hmark : mark ∈ literalMarks) :
    ¬ letters ++ mark :: after <+: word ++ rest := by
  induction letters generalizing word with
  | nil =>
    rintro ⟨more, hmore⟩
    exact head?_notMem_literalMarks hword hrest mark (by rw [← hmore]; rfl) hmark
  | cons letter letters ih =>
    obtain ⟨hletter, hletters⟩ := List.forall_mem_cons.mp hletters
    cases word with
    | nil =>
      rintro ⟨more, hmore⟩
      have hstop := (hrest letter (by rw [← List.nil_append rest, ← hmore]; rfl)).1
      rw [isIdentifierContinue_of_isPlainChar hletter] at hstop
      cases hstop
    | cons d word =>
      intro hprefix
      exact ih (List.forall_mem_cons.mp hword).2 hletters (List.cons_prefix_cons.mp hprefix).2

/-- A word is none of the beginnings of literals. -/
theorem not_isPrefixOf_word (hc : isPlainStart c = true)
    (htail : ∀ d ∈ tail, isPlainChar d = true) (hrest : StopsWord rest) :
    (literalBeginnings.any fun beginning ↦ beginning.toList.isPrefixOf (c :: tail ++ rest)) =
      false := by
  have hbeginnings : (literalBeginnings.all fun beginning ↦
      (beginning.toList.dropWhile isPlainChar).head?.any literalMarks.contains) = true :=
    rfl
  have hword : ∀ d ∈ c :: tail, isPlainChar d = true :=
    List.forall_mem_cons.mpr ⟨isPlainChar_of_isPlainStart hc, htail⟩
  rw [List.any_eq_false]
  intro beginning hbeginning hprefix
  obtain ⟨mark, hmark, hmem⟩ :=
    Option.any_eq_true _ _ |>.mp (List.all_eq_true.mp hbeginnings _ hbeginning)
  obtain ⟨after, hafter⟩ := List.head?_eq_some_iff.mp hmark
  have hsplit : beginning.toList.takeWhile isPlainChar ++ mark :: after = beginning.toList := by
    rw [← hafter, List.takeWhile_append_dropWhile]
  have hmarked : beginning.toList.takeWhile isPlainChar ++ mark :: after <+: c :: tail ++ rest := by
    rw [hsplit]
    exact List.isPrefixOf_iff_prefix.mp hprefix
  exact not_prefix_of_mark hword hrest (List.all_eq_true.mp List.all_takeWhile)
    (List.contains_iff_mem.mp hmem) hmarked

theorem isWord_word (hc : isPlainStart c = true) (htail : ∀ d ∈ tail, isPlainChar d = true) :
    isWord (c :: tail) = true := by
  have hstart : (c == '_' || Text.isIdentifierStart c) = true := by
    rw [Text.isIdentifierStart,
      if_pos (isAscii_of_isPlainChar (isPlainChar_of_isPlainStart hc)), Bool.or_comm]
    exact hc
  have htailContinue : tail.all Text.isIdentifierContinue = true :=
    List.all_eq_true.mpr fun d hd ↦ isIdentifierContinue_of_isPlainChar (htail d hd)
  simp [isWord, hstart, htailContinue]

/-- A plain word is not marked, and an identifier whether or not it is a keyword. -/
theorem isIdentifier_word (hc : isPlainStart c = true) (htail : ∀ d ∈ tail, isPlainChar d = true) :
    isIdentifier (String.ofList (c :: tail)) = true := by
  have hunmarked : Text.afterStart? rawMark.toList (c :: tail) = none := by
    have hmark : rawMark.toList = ['r', '#'] := rfl
    rw [hmark, Text.afterStart?]
    split
    · cases tail with
      | nil => rfl
      | cons d tail =>
        rw [Text.afterStart?, if_neg]
        rintro rfl
        exact absurd (htail '#' List.mem_cons_self) (by decide)
    · rfl
  rw [isIdentifier, String.toList_ofList, hunmarked]
  exact isWord_word hc htail

theorem markedWord?_word (hc : isPlainStart c = true) (htail : ∀ d ∈ tail, isPlainChar d = true)
    (hrest : StopsWord rest) :
    markedWord? (c :: tail ++ rest) = some (String.ofList (c :: tail), rest) := by
  have hnext := head?_notMem_literalMarks htail hrest
  unfold markedWord?
  split
  next mark unmarked heq =>
    split at heq
    · next hmarked =>
      rw [List.cons_append] at hmarked
      exact absurd (hnext '#' (by rw [(List.cons.inj hmarked).2]; rfl)) (by decide)
    · obtain ⟨rfl, rfl⟩ := Prod.mk.inj heq
      simp only [List.cons_append]
      rw [takeWhile_word htail hrest, dropWhile_word htail hrest, String.empty_append,
        if_pos ⟨isWord_word hc (by simp), isIdentifier_word hc htail⟩]

theorem leadingWord?_word (hc : isPlainStart c = true) (htail : ∀ d ∈ tail, isPlainChar d = true)
    (hrest : StopsWord rest) :
    leadingWord? (c :: tail ++ rest) = some (String.ofList (c :: tail), rest) := by
  rw [leadingWord?, not_isPrefixOf_word hc htail hrest, if_neg Bool.false_ne_true,
    markedWord?_word hc htail hrest]

end Word

section Leaf

variable {c : Char} {tail rest text : List Char}

/-- A text that starts with no slash starts with no comment. -/
theorem comment?_eq_none (hc : c ≠ '/') (text : List Char) :
    afterLeadingComment? (c :: text) = none ∧ documentation? (c :: text) = none := by
  rw [afterLeadingComment?.eq_def, documentation?.eq_def]
  constructor
  · split
    all_goals first | rfl | (next heq => exact absurd (List.cons.inj heq).1 hc)
  · split
    all_goals first | rfl | (next heq => exact absurd (List.cons.inj heq).1 hc)

theorem startsSign_cons (hc : c ≠ '/') :
    startsSign (c :: text) = (signCharacters.contains c || c == '\'') := by
  rw [startsSign.eq_def]
  split
  · next heq => exact absurd (List.cons.inj heq).1 hc
  · next heq => exact absurd (List.cons.inj heq).1 hc
  · next heq => rw [(List.cons.inj heq).1]
  · next heq => cases heq

theorem lexemesWithin?_leaf (rounds : Nat) {tree : Tree} (hgap : isGap c = false) (hslash : c ≠ '/')
    (hbracket : bracket? c = none) (hleaf : leaf? (c :: text) = some (tree, rest)) :
    lexemesWithin? (rounds + 1) (c :: text) =
      (lexemesWithin? rounds rest).map (.leaf tree :: ·) := by
  obtain ⟨hcomment, hdocumentation⟩ := comment?_eq_none hslash text
  rw [lexemesWithin?, hgap, if_neg Bool.false_ne_true, hcomment, hdocumentation, hbracket, hleaf]

/-- What starts with no literal and no sign starts with a word if with anything. -/
theorem leaf?_of_startsSign_eq_false (hc : c ≠ '\'') (hliteral : afterLiteral? (c :: text) = none)
    (hsign : startsSign (c :: text) = false) :
    leaf? (c :: text) =
      (leadingWord? (c :: text)).map fun (word, behind) ↦ (.word word, behind) := by
  rw [leaf?.eq_def, hliteral]
  dsimp only
  split
  · next heq => cases heq
  · next heq => exact absurd (List.cons.inj heq).1 hc
  · rw [hsign, if_neg Bool.false_ne_true]

/-- The beginning of a word is no gap, no bracket and no sign. -/
theorem plain_of_isPlainStart (hc : isPlainStart c = true) :
    isGap c = false ∧ (bracket? c).isNone = true ∧
      (signCharacters.contains c || c == '\'') = false := by
  have hletter : ∀ c, isPlainChar c = true → isPlainStart c = true →
      isGap c = false ∧ (bracket? c).isNone = true ∧
        (signCharacters.contains c || c == '\'') = false :=
    forall_isPlainChar (by decide +kernel)
  exact hletter c (isPlainChar_of_isPlainStart hc) hc

theorem lexemesWithin?_of_leadingWord? (rounds : Nat) (hc : isPlainStart c = true)
    (hliteral : afterLiteral? (c :: text) = none) {word : String}
    (hword : leadingWord? (c :: text) = some (word, rest)) :
    lexemesWithin? (rounds + 1) (c :: text) =
      (lexemesWithin? rounds rest).map (.leaf (.word word) :: ·) := by
  obtain ⟨hgap, hbracket, hsign⟩ := plain_of_isPlainStart hc
  have hslash : c ≠ '/' := ne_of_isPlainStart hc (by simp)
  refine lexemesWithin?_leaf rounds hgap hslash (Option.isNone_iff_eq_none.mp hbracket) ?_
  rw [leaf?_of_startsSign_eq_false (ne_of_isPlainStart hc (by simp)) hliteral
    ((startsSign_cons hslash).trans hsign), hword]
  rfl

theorem lexemesWithin?_word (rounds : Nat) (hc : isPlainStart c = true)
    (htail : ∀ d ∈ tail, isPlainChar d = true) (hrest : StopsWord rest) :
    lexemesWithin? (rounds + 1) (c :: tail ++ rest) =
      (lexemesWithin? rounds rest).map (.leaf (.word (String.ofList (c :: tail))) :: ·) :=
  lexemesWithin?_of_leadingWord? rounds hc (afterLiteral?_eq_none hc htail hrest)
    (leadingWord?_word hc htail hrest)

/-- A word behind its mark is read with the mark, if it can be an identifier so. -/
theorem lexemesWithin?_markedWord (rounds : Nat) (hc : isPlainStart c = true)
    (htail : ∀ d ∈ tail, isPlainChar d = true) (hrest : StopsWord rest)
    (hidentifier : isIdentifier (rawMark ++ String.ofList (c :: tail)) = true) :
    lexemesWithin? (rounds + 1) ('r' :: '#' :: (c :: tail ++ rest)) =
      (lexemesWithin? rounds rest).map
        (.leaf (.word (rawMark ++ String.ofList (c :: tail))) :: ·) := by
  have hmark : c ≠ '#' := ne_of_isPlainStart hc (by simp)
  have hliteral : afterLiteral? ('r' :: '#' :: (c :: tail ++ rest)) = none := by
    have hquotation : afterQuotation? ('r' :: '#' :: (c :: tail ++ rest)) = none := by
      change afterRaw? .text ('#' :: (c :: tail ++ rest)) = none
      rw [afterRaw?, List.dropWhile_cons_of_pos (by decide), List.cons_append,
        List.dropWhile_cons_of_neg (by simp [hmark])]
      split
      · next heq => exact absurd (List.cons.inj heq).1 (ne_of_isPlainStart hc (by simp))
      · rfl
    rw [afterLiteral?, hquotation, afterWhole?_eq_none rfl]
    rfl
  have hbeginning : (literalBeginnings.any fun beginning ↦
      beginning.toList.isPrefixOf ('r' :: '#' :: (c :: tail ++ rest))) = false := by
    have hquote : c ≠ '"' := ne_of_isPlainStart hc (by simp)
    simp [literalBeginnings, List.isPrefixOf, hquote.symm, hmark.symm]
  have hmarked : markedWord? ('r' :: '#' :: (c :: tail ++ rest)) =
      some (rawMark ++ String.ofList (c :: tail), rest) := by
    simp only [markedWord?, List.cons_append]
    rw [takeWhile_word htail hrest, dropWhile_word htail hrest,
      if_pos ⟨isWord_word hc (by simp), hidentifier⟩]
  refine lexemesWithin?_of_leadingWord? rounds rfl hliteral ?_
  rw [leadingWord?, hbeginning, if_neg Bool.false_ne_true, hmarked]

end Leaf

end ProtoCrud.Code
