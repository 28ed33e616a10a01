import ProtoCrud.Proofs.Code.Word

/-!
# Code that is read back

Code with a space between any two tokens is read token by token: words, lifetimes and brackets as
they are, a sign of several characters as that many signs without gaps between them, and text
between quotes up to the quote that ends it, whatever its characters are.
-/

namespace ProtoCrud.Code

open Text (isPlainChar)

section Leaf

variable {c : Char} {tail rest text : List Char}

/-- An apostrophe in front of a word makes a lifetime of it. -/
theorem leaf?_lifetime (hc : isPlainStart c = true) (htail : ∀ d ∈ tail, isPlainChar d = true)
    (hrest : StopsWord rest) :
    leaf? ('\'' :: (c :: tail ++ rest)) = some (.lifetime (String.ofList (c :: tail)), rest) := by
  have hnext := head?_notMem_literalMarks htail hrest
  have hcharacter : afterQuotation? ('\'' :: c :: (tail ++ rest)) = none := by
    have hescape : c ≠ '\\' := ne_of_isPlainStart hc (by simp)
    have hclosing : afterApostrophe? (tail ++ rest) = none := by
      rw [afterApostrophe?.eq_def]
      split
      · next heq => exact absurd (by decide) (hnext '\'' (by rw [heq]; rfl))
      · rfl
    change afterCharacter? .text (c :: (tail ++ rest)) = none
    rw [afterCharacter?.eq_def]
    split
    · next heq => exact absurd (List.cons.inj heq).1 hescape
    · next heq => rw [← (List.cons.inj heq).2, hclosing, ite_self]
    · next heq => cases heq
  have hliteral : afterLiteral? ('\'' :: c :: (tail ++ rest)) = none := by
    rw [afterLiteral?, hcharacter]
    rfl
  have hstop : rest.head? ≠ some '\'' ∧ rest.head? ≠ some '#' :=
    ⟨fun h ↦ (hrest _ h).2 (by decide), fun h ↦ (hrest _ h).2 (by decide)⟩
  have htick : afterTick? (c :: tail ++ rest) =
      some (.lifetime (String.ofList (c :: tail)), rest) := by
    unfold afterTick?
    rw [markedWord?_word hc htail hrest]
    dsimp only
    rw [if_neg hstop.1, if_neg fun h ↦ hstop.2 h.1, List.cons_append,
      afterLiteral?_eq_none hc htail hrest, ← List.cons_append, leadingWord?_word hc htail hrest]
    rfl
  rw [leaf?.eq_def, List.cons_append, hliteral]
  exact htick

def plainSigns : List Char :=
  signCharacters.filter (· != '/')

theorem ne_slash_of_mem (hc : c ∈ plainSigns) : c ≠ '/' :=
  bne_iff_ne.mp (List.mem_filter.mp hc).2

/-- Whether a character is none of those that a literal begins with. -/
def startsNoLiteral (c : Char) : Bool :=
  (digitValue? c).isNone && !(['"', '\'', 'r', 'b', 'c', '_'].contains c)

theorem afterLiteral?_of_startsNoLiteral (hc : startsNoLiteral c = true) :
    afterLiteral? (c :: text) = none := by
  simp only [startsNoLiteral, Bool.and_eq_true, Bool.not_eq_true',
    Option.isNone_iff_eq_none] at hc
  obtain ⟨hvalue, hother⟩ := hc
  have hne {other : Char} {more : List Char}
      (hmem : ['"', '\'', 'r', 'b', 'c', '_'].contains other = true)
      (heq : c :: text = other :: more) : False := by
    rw [(List.cons.inj heq).1, hmem] at hother
    cases hother
  have hdigit : c.isDigit = false := by
    rw [← Bool.not_eq_true]
    intro hdigit
    rw [digitValue?, if_pos hdigit] at hvalue
    cases hvalue
  have hquotation : afterQuotation? (c :: text) = none := by
    rw [afterQuotation?.eq_def]
    split
    all_goals first | rfl | (next heq => exact (hne (by decide) heq).elim)
  have hfraction : afterFraction? (c :: text) = none := by
    simp [afterFraction?, hdigit]
  have hbase : numberBase (c :: text) = (10, c :: text) := by
    have hzero {more : List Char} (heq : c :: text = '0' :: more) : False := by
      rw [(List.cons.inj heq).1] at hdigit
      cases hdigit
    rw [numberBase.eq_def]
    split
    all_goals first | rfl | (next heq => exact (hzero heq).elim)
  have hunderscore : c ≠ '_' := fun h ↦ hne (by decide) (congrArg (· :: text) h)
  rw [afterLiteral?, hquotation, hfraction, afterWhole?, hbase]
  simp [afterDigits?, hunderscore, hvalue]

theorem leaf?_sign (hc : c ∈ plainSigns) :
    leaf? (c :: text) = some (.sign c (startsSign text), text) := by
  have htick : c ≠ '\'' := by
    rintro rfl
    exact absurd hc (by decide)
  have hsign : startsSign (c :: text) = true := by
    rw [startsSign_cons (ne_slash_of_mem hc), List.contains_iff_mem.mpr (List.mem_filter.mp hc).1]
    rfl
  have hliteral : (plainSigns.all startsNoLiteral) = true := by
    decide +kernel
  rw [leaf?.eq_def, afterLiteral?_of_startsNoLiteral (List.all_eq_true.mp hliteral c hc)]
  dsimp only
  split
  · next heq => cases heq
  · next heq => exact absurd (List.cons.inj heq).1 htick
  · next heq =>
    obtain ⟨rfl, rfl⟩ := List.cons.inj heq
    rw [if_pos hsign]

theorem lexemesWithin?_sign (rounds : Nat) (hc : c ∈ plainSigns) :
    lexemesWithin? (rounds + 1) (c :: text) =
      (lexemesWithin? rounds text).map (.leaf (.sign c (startsSign text)) :: ·) := by
  have hall : (plainSigns.all fun c ↦ !isGap c && (bracket? c).isNone) = true := by
    decide +kernel
  have hplain := List.all_eq_true.mp hall c hc
  rw [Bool.and_eq_true, Bool.not_eq_true', Option.isNone_iff_eq_none] at hplain
  exact lexemesWithin?_leaf rounds hplain.1 (ne_slash_of_mem hc) hplain.2 (leaf?_sign hc)

end Leaf

section Quoted

variable {c : Char} {rest text : List Char}

theorem codePoint?_digitChar {digit digits : Nat} (value : Nat) (hdigit : digit < 16)
    (hdigits : digits < 6) :
    codePoint? value digits (Nat.digitChar digit :: rest) =
      codePoint? (value * 16 + digit) (digits + 1) rest := by
  have hread : ∀ digit < 16, Nat.digitChar digit ≠ '\x7d' ∧ Nat.digitChar digit ≠ '_' ∧
      digitValue? (Nat.digitChar digit) = some digit := by
    decide
  obtain ⟨hbrace, hunderscore, hvalue⟩ := hread digit hdigit
  rw [codePoint?, if_neg hbrace, if_neg hunderscore, hvalue]
  dsimp only
  rw [if_neg (Nat.ne_of_lt hdigits)]

theorem codePoint?_toDigits {n : Nat} (hlength : (Nat.toDigits 16 n).length ≤ 6) :
    codePoint? 0 0 (Nat.toDigits 16 n ++ rest) =
      codePoint? n (Nat.toDigits 16 n).length rest := by
  induction n using Nat.strongRecOn generalizing rest with
  | ind n ih =>
    rw [Nat.toDigits_eq_if (by decide)] at hlength ⊢
    split at hlength
    · next hsmall =>
      rw [if_pos hsmall, List.singleton_append, codePoint?_digitChar 0 hsmall (by decide)]
      simp
    · next hlarge =>
      simp only [List.length_append, List.length_singleton] at hlength
      rw [if_neg hlarge, List.append_assoc, ih _ (by omega) (by omega), List.singleton_append,
        codePoint?_digitChar _ (Nat.mod_lt n (by decide)) (by omega), Nat.mul_comm,
        Nat.div_add_mod, List.length_append, List.length_singleton]

/-- The code point of a character is read from its digits. -/
theorem codePoint?_hexDigits (c : Char) :
    codePoint? 0 0 (Text.hexDigits c.toNat ++ '\x7d' :: rest) = some (c.toNat, rest) := by
  have hcode : c.toNat < 16 ^ 6 := by
    have hvalid := c.valid
    simp only [UInt32.isValidChar, Nat.isValidChar] at hvalid
    simp only [Char.toNat]
    omega
  have hlength := (Nat.length_toDigits_le_iff (by decide) (by decide)).mpr hcode
  have hpos : (Nat.toDigits 16 c.toNat).length ≠ 0 := Nat.ne_of_gt Nat.length_toDigits_pos
  rw [Text.hexDigits, codePoint?_toDigits hlength, codePoint?, if_pos rfl, if_neg hpos]

theorem escapeLetter?_cases {letter : Char} (h : Text.escapeLetter? c = some letter) :
    (c, letter) ∈ [('\x00', '0'), ('\t', 't'), ('\r', 'r'), ('\n', 'n'), ('"', '"'),
      ('\\', '\\')] := by
  rw [Text.escapeLetter?.eq_def] at h
  split at h
  all_goals first | (cases h; simp) | cases h

/-- A character that stands for itself is none of those that mean something between quotes. -/
theorem ne_of_escapeLetter?_eq_none (h : Text.escapeLetter? c = none) {sign : Char}
    (hsign : sign ∈ ['"', '\\', '\r']) : c ≠ sign := by
  have hletters : (['"', '\\', '\r'].all fun sign ↦ (Text.escapeLetter? sign).isSome) = true :=
    rfl
  rintro rfl
  simpa [h] using List.all_eq_true.mp hletters c hsign

/-- The text of a character between quotes is read in one round. -/
theorem afterQuotedWithin?_escape (rounds : Nat) (c : Char) :
    afterQuotedWithin? .text (rounds + 1) (Text.escape c ++ rest) =
      afterQuotedWithin? .text rounds rest := by
  rw [Text.escape]
  split
  · next letter hletter =>
    have hcases := escapeLetter?_cases hletter
    simp only [List.mem_cons, Prod.mk.injEq, List.not_mem_nil, or_false] at hcases
    rcases hcases with ⟨-, rfl⟩ | ⟨-, rfl⟩ | ⟨-, rfl⟩ | ⟨-, rfl⟩ | ⟨-, rfl⟩ | ⟨-, rfl⟩ <;> rfl
  · next hnone =>
    have hne {sign : Char} {more : List Char} (hsign : sign ∈ ['"', '\\', '\r'])
        (heq : c :: rest = sign :: more) : False :=
      ne_of_escapeLetter?_eq_none hnone hsign (List.cons.inj heq).1
    split
    · rw [List.singleton_append, afterQuotedWithin?.eq_def]
      split
      all_goals first
        | (next heq => exact (hne (by decide) heq).elim)
        | skip
      · next heq => cases heq
      · next heq => cases heq
      · next hrounds heq =>
        obtain ⟨rfl, rfl⟩ := List.cons.inj heq
        obtain rfl := Nat.succ.inj hrounds
        rfl
    · have hescape : afterEscape? .text
          ('u' :: '\x7b' :: (Text.hexDigits c.toNat ++ '\x7d' :: rest)) = some rest := by
        have hvalid : c.toNat.isValidChar := c.valid
        rw [afterEscape?, codePoint?_hexDigits]
        simp [hvalid, QuotedKind.holds]
      simp only [List.cons_append, List.nil_append, List.append_assoc]
      change (afterEscape? .text _).bind (afterQuotedWithin? .text rounds) = _
      rw [hescape, Option.bind_some]

end Quoted

section Text

variable {c : Char} {rest text : List Char}

/-- What may stand behind a token: nothing, or a space. -/
def IsApart (rest : List Char) : Prop :=
  ∀ c ∈ rest.head?, c = ' '

theorem IsApart.stopsWord (h : IsApart rest) : StopsWord rest := by
  intro c hc
  rw [h c hc]
  decide

theorem IsApart.afterWord (h : IsApart rest) : afterWord rest = rest := by
  cases rest with
  | nil => rfl
  | cons c rest =>
    rw [h c rfl]
    rfl

theorem IsApart.startsSign (h : IsApart rest) : startsSign rest = false := by
  cases rest with
  | nil => rfl
  | cons c rest =>
    rw [h c rfl]
    exact startsSign_cons (by decide)

/-- Text between quotes is read up to the closing quote. -/
theorem afterQuotedWithin?_literalChars (hrest : IsApart rest) (value : List Char) {rounds : Nat}
    (hrounds : value.length < rounds) :
    afterQuotedWithin? .text rounds (literalChars value ++ '"' :: rest) = some rest := by
  induction value generalizing rounds with
  | nil =>
    obtain ⟨rounds, rfl⟩ := Nat.exists_eq_add_one_of_ne_zero (Nat.ne_of_gt hrounds)
    exact congrArg some hrest.afterWord
  | cons c value ih =>
    obtain ⟨rounds, rfl⟩ := Nat.exists_eq_add_one_of_ne_zero (Nat.ne_zero_of_lt hrounds)
    have hvalue := ih (Nat.lt_of_succ_lt_succ hrounds)
    rw [literalChars, List.append_assoc]
    split
    · exact hvalue
    · rw [afterQuotedWithin?_escape, hvalue]

theorem length_le_length_literalChars (value : List Char) :
    value.length ≤ (literalChars value).length := by
  have hescape (c : Char) : 1 ≤ (Text.escape c).length := by
    rw [Text.escape]
    split
    · simp
    · split <;> simp
  induction value with
  | nil => exact Nat.zero_le _
  | cons c value ih =>
    rw [literalChars, List.length_cons, List.length_append]
    split
    · simp only [List.length_cons, List.length_nil]
      omega
    · have := hescape c
      omega

theorem leaf?_quoted (hrest : IsApart rest) (value : String) :
    leaf? ((Token.quoted value).text.toList ++ rest) =
      some (.literal (Token.quoted value).text, rest) := by
  have htext : (Token.quoted value).text.toList =
      '"' :: (literalChars value.toList ++ ['"']) := by
    rw [Token.text, String.toList_ofList]
    rfl
  have hliteral : afterLiteral? ((Token.quoted value).text.toList ++ rest) = some rest := by
    have hlength := length_le_length_literalChars value.toList
    have hquoted : afterQuoted? .text (literalChars value.toList ++ '"' :: rest) = some rest := by
      refine afterQuotedWithin?_literalChars hrest _ ?_
      simp only [List.length_append]
      omega
    rw [htext, afterLiteral?, List.cons_append, List.append_assoc, List.singleton_append]
    change ((afterQuoted? .text _).or _).or _ = _
    rw [hquoted]
    rfl
  rw [leaf?.eq_def, hliteral]
  simp

end Text

/-- Text that reads as certain lexemes, however many rounds more than enough there are. -/
def ReadsAs (text : List Char) (lexemes : List Lexeme) : Prop :=
  ∀ rounds, text.length ≤ rounds → lexemesWithin? rounds text = some lexemes

namespace ReadsAs

variable {c : Char} {tail rest text : List Char} {more : List Lexeme}

theorem lexemes?_eq (h : ReadsAs text more) : lexemes? text = some more :=
  h _ (Nat.le_refl _)

theorem nil : ReadsAs [] [] := by
  intro rounds _
  cases rounds <;> rfl

/-- A text reads as what its beginning is read as and as what is left of it. -/
theorem of_step (part : List Lexeme) (hmore : ReadsAs rest more)
    (hlength : rest.length < text.length) (hstep : ∀ rounds,
      lexemesWithin? (rounds + 1) text = (lexemesWithin? rounds rest).map (part ++ ·)) :
    ReadsAs text (part ++ more) := by
  intro rounds hrounds
  obtain ⟨rounds, rfl⟩ := Nat.exists_eq_add_one_of_ne_zero (by omega : rounds ≠ 0)
  rw [hstep, hmore rounds (by omega), Option.map_some]

theorem gap (hmore : ReadsAs rest more) : ReadsAs (' ' :: rest) more := by
  refine of_step [] hmore (Nat.lt_succ_self _) fun rounds ↦ ?_
  rw [lexemesWithin?, if_pos (by decide)]
  simp

theorem sign (hc : c ∈ plainSigns) (hmore : ReadsAs rest more) :
    ReadsAs (c :: rest) (.leaf (.sign c (startsSign rest)) :: more) := by
  refine of_step [_] hmore (Nat.lt_succ_self _) fun rounds ↦ ?_
  exact lexemesWithin?_sign rounds hc

theorem bracket {lexeme : Lexeme} (hbracket : bracket? c = some lexeme)
    (hmore : ReadsAs rest more) : ReadsAs (c :: rest) (lexeme :: more) := by
  refine of_step [lexeme] hmore (Nat.lt_succ_self _) fun rounds ↦ ?_
  rw [bracket?.eq_def] at hbracket
  split at hbracket
  all_goals first
    | (cases hbracket; rfl)
    | cases hbracket

theorem length_lt_cons_append (c : Char) (tail rest : List Char) :
    rest.length < (c :: (tail ++ rest)).length := by
  rw [List.length_cons, List.length_append]
  omega

theorem word (hc : isPlainStart c = true) (htail : ∀ d ∈ tail, isPlainChar d = true)
    (hrest : StopsWord rest) (hmore : ReadsAs rest more) :
    ReadsAs (c :: tail ++ rest) (.leaf (.word (String.ofList (c :: tail))) :: more) := by
  refine of_step [_] hmore (length_lt_cons_append c tail rest) fun rounds ↦ ?_
  exact lexemesWithin?_word rounds hc htail hrest

theorem markedWord (hc : isPlainStart c = true) (htail : ∀ d ∈ tail, isPlainChar d = true)
    (hrest : StopsWord rest)
    (hidentifier : isIdentifier (rawMark ++ String.ofList (c :: tail)) = true)
    (hmore : ReadsAs rest more) :
    ReadsAs ('r' :: '#' :: (c :: tail ++ rest))
      (.leaf (.word (rawMark ++ String.ofList (c :: tail))) :: more) := by
  refine of_step [_] hmore (length_lt_cons_append _ ('#' :: c :: tail) rest) fun rounds ↦ ?_
  exact lexemesWithin?_markedWord rounds hc htail hrest hidentifier

theorem lifetime (hc : isPlainStart c = true) (htail : ∀ d ∈ tail, isPlainChar d = true)
    (hrest : StopsWord rest) (hmore : ReadsAs rest more) :
    ReadsAs ('\'' :: (c :: tail ++ rest))
      (.leaf (.lifetime (String.ofList (c :: tail))) :: more) := by
  refine of_step [_] hmore (length_lt_cons_append _ (c :: tail) rest) fun rounds ↦ ?_
  exact lexemesWithin?_leaf rounds (by decide) (by decide) rfl (leaf?_lifetime hc htail hrest)

theorem quoted (hrest : IsApart rest) (value : String) (hmore : ReadsAs rest more) :
    ReadsAs ((Token.quoted value).text.toList ++ rest)
      (.leaf (.literal (Token.quoted value).text) :: more) := by
  obtain ⟨content, hcontent⟩ : ∃ content, (Token.quoted value).text.toList = '"' :: content := by
    rw [Token.text, String.toList_ofList]
    exact ⟨_, rfl⟩
  have hleaf := leaf?_quoted hrest value
  rw [hcontent, List.cons_append] at hleaf ⊢
  refine of_step [_] hmore (length_lt_cons_append _ content rest) fun rounds ↦ ?_
  exact lexemesWithin?_leaf rounds (by decide) (by decide) rfl hleaf

/-- Nothing reads as lexemes that has the mark of byte order in front. -/
theorem not_orderMark : ¬ ReadsAs ('\ufeff' :: text) more := by
  intro h
  have hleaf : leaf? ('\ufeff' :: text) = none := by
    have hword : isWord ['\ufeff'] = false := by
      decide +kernel
    have hliteral : afterLiteral? ('\ufeff' :: text) = none :=
      afterLiteral?_of_startsNoLiteral (by decide)
    have hleading : leadingWord? ('\ufeff' :: text) = none := by
      have hmarked : markedWord? ('\ufeff' :: text) = none := by
        simp [markedWord?, hword]
      rw [leadingWord?, hmarked, ite_self]
    rw [leaf?_of_startsSign_eq_false (by decide) hliteral (startsSign_cons (by decide)), hleading]
    rfl
  have hread := h (text.length + 1) (Nat.le_refl _)
  rw [lexemesWithin?, hleaf] at hread
  cases hread

/-- The trees of a text are those of the lexemes that it reads as. -/
theorem trees?_ofList (h : ReadsAs text more) :
    trees? (String.ofList text) = treesAround? [] [] more := by
  have hmark : withoutOrderMark text = text := by
    rw [withoutOrderMark.eq_def]
    split
    · exact absurd h not_orderMark
    · rfl
  rw [trees?, String.toList_ofList, hmark, h.lexemes?_eq, Option.bind_some]

end ReadsAs

/-- The lexemes of signs without gaps between them. -/
def signLexemes : List Char → List Lexeme
  | [] => []
  | c :: rest => .leaf (.sign c (!rest.isEmpty)) :: signLexemes rest

def isPlainWord : List Char → Bool
  | c :: tail => isPlainStart c && tail.all isPlainChar
  | [] => false

/-- The lexemes of a word, of signs, of a lifetime or of a bracket. -/
def plainLexemes? (text : String) : Option (List Lexeme) :=
  if isPlainWord text.toList then some [.leaf (.word text)]
  else if text.toList.all plainSigns.contains then some (signLexemes text.toList)
  else
    match text.toList with
    | [c] => (bracket? c).map ([·])
    | '\'' :: word =>
      if isPlainWord word then some [.leaf (.lifetime (String.ofList word))] else none
    | 'r' :: '#' :: word =>
      if isPlainWord word && isIdentifier text then some [.leaf (.word text)] else none
    | _ => none

/-- The lexemes of a token that stands apart, if it is one of those that the generated code has. -/
def Token.lexemes? : Token → Option (List Lexeme)
  | .plain text => plainLexemes? text
  | .name text => plainLexemes? text
  | .quoted value => some [.leaf (.literal (Token.quoted value).text)]
  | .raw _ => none

def codeLexemes? : List Token → Option (List Lexeme)
  | [] => some []
  | token :: rest => do return (← token.lexemes?) ++ (← codeLexemes? rest)

section Tokens

variable {rest text : List Char} {lexemes more : List Lexeme}

theorem ReadsAs.signs (hrest : IsApart rest) (hsigns : ∀ c ∈ text, c ∈ plainSigns)
    (hmore : ReadsAs rest more) : ReadsAs (text ++ rest) (signLexemes text ++ more) := by
  induction text with
  | nil => exact hmore
  | cons c text ih =>
    obtain ⟨hc, hothers⟩ := List.forall_mem_cons.mp hsigns
    have hjoined : startsSign (text ++ rest) = !text.isEmpty := by
      cases text with
      | nil => exact hrest.startsSign
      | cons d text =>
        have hd := (List.forall_mem_cons.mp hothers).1
        rw [List.cons_append, startsSign_cons (ne_slash_of_mem hd),
          List.contains_iff_mem.mpr (List.mem_filter.mp hd).1]
        rfl
    rw [signLexemes, ← hjoined]
    exact (ih hothers).sign hc

theorem exists_cons_of_isPlainWord (h : isPlainWord text = true) :
    ∃ c tail, text = c :: tail ∧ isPlainStart c = true ∧ ∀ d ∈ tail, isPlainChar d = true := by
  cases text with
  | nil => cases h
  | cons c tail =>
    obtain ⟨hc, htail⟩ := Bool.and_eq_true_iff.mp h
    exact ⟨c, tail, rfl, hc, List.all_eq_true.mp htail⟩

theorem readsAs_plain {text : String} (h : plainLexemes? text = some lexemes)
    (hrest : IsApart rest) (hmore : ReadsAs rest more) :
    ReadsAs (text.toList ++ rest) (lexemes ++ more) := by
  rw [plainLexemes?] at h
  generalize htext : text.toList = chars at h ⊢
  have hchars : text = String.ofList chars := by
    rw [← htext, String.ofList_toList]
  split at h
  · next hword =>
    obtain ⟨c, tail, rfl, hc, htail⟩ := exists_cons_of_isPlainWord hword
    cases h
    rw [hchars]
    exact .word hc htail hrest.stopsWord hmore
  split at h
  · next hsigns =>
    cases h
    refine .signs hrest (fun c hc ↦ ?_) hmore
    exact List.contains_iff_mem.mp (List.all_eq_true.mp hsigns c hc)
  split at h
  · obtain ⟨lexeme, hbracket, rfl⟩ := Option.map_eq_some_iff.mp h
    exact .bracket hbracket hmore
  · split at h
    · next hword =>
      obtain ⟨c, tail, rfl, hc, htail⟩ := exists_cons_of_isPlainWord hword
      cases h
      exact .lifetime hc htail hrest.stopsWord hmore
    · cases h
  · split at h
    · next hmarked =>
      obtain ⟨hword, hidentifier⟩ := Bool.and_eq_true_iff.mp hmarked
      obtain ⟨c, tail, rfl, hc, htail⟩ := exists_cons_of_isPlainWord hword
      cases h
      have hmark : text = rawMark ++ String.ofList (c :: tail) := by
        have happend : String.ofList (['r', '#'] ++ c :: tail) =
            rawMark ++ String.ofList (c :: tail) :=
          String.ofList_append
        rw [hchars, ← happend]
        rfl
      rw [hmark]
      exact .markedWord hc htail hrest.stopsWord (hmark ▸ hidentifier) hmore
    · cases h
  · cases h

/-- A token that stands apart is read back as its lexemes. -/
theorem Token.readsAs {token : Token} (h : token.lexemes? = some lexemes) (hrest : IsApart rest)
    (hmore : ReadsAs rest more) : ReadsAs (token.text.toList ++ rest) (lexemes ++ more) := by
  cases token with
  | plain text => exact readsAs_plain h hrest hmore
  | name text => exact readsAs_plain h hrest hmore
  | quoted value =>
    cases h
    exact .quoted hrest value hmore
  | raw spelling => cases h

theorem codeLexemes?_cons {token : Token} {rest : List Token}
    (h : codeLexemes? (token :: rest) = some lexemes) :
    ∃ first others, token.lexemes? = some first ∧ codeLexemes? rest = some others ∧
      lexemes = first ++ others := by
  obtain ⟨first, hfirst, h⟩ := Option.bind_eq_some_iff.mp h
  obtain ⟨others, hothers, h⟩ := Option.bind_eq_some_iff.mp h
  exact ⟨first, others, hfirst, hothers, (Option.some.inj h).symm⟩

theorem spacedText_cons_cons (first second : Token) (rest : List Token) :
    (spacedText (first :: second :: rest)).toList =
      first.text.toList ++ ' ' :: (spacedText (second :: rest)).toList := by
  simp [spacedText, String.toList_intercalate]

/-- Code with a space between any two tokens is read back token by token. -/
theorem readsAs_spacedText {tokens : List Token} (h : codeLexemes? tokens = some lexemes) :
    ReadsAs (spacedText tokens).toList lexemes := by
  induction tokens generalizing lexemes with
  | nil =>
    cases h
    exact .nil
  | cons token rest ih =>
    obtain ⟨first, others, hfirst, hothers, rfl⟩ := codeLexemes?_cons h
    cases rest with
    | nil =>
      cases hothers
      have htext : (spacedText [token]).toList = token.text.toList ++ [] := by
        rw [List.append_nil]
        rfl
      rw [htext]
      exact token.readsAs hfirst (by simp [IsApart]) .nil
    | cons second rest =>
      rw [spacedText_cons_cons]
      exact token.readsAs hfirst (by rintro c ⟨⟩; rfl) (ih hothers).gap

/-- The trees of code with a space between any two tokens are those of its lexemes. -/
theorem trees?_spacedText {tokens : List Token} (h : codeLexemes? tokens = some lexemes) :
    trees? (spacedText tokens) = treesAround? [] [] lexemes := by
  have hreads := readsAs_spacedText h
  rw [← hreads.trees?_ofList, String.ofList_toList]

end Tokens

end ProtoCrud.Code
