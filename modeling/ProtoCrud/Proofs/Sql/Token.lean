import ProtoCrud.Text.Letter

/-!
# Tokens of a statement

The text of a statement is read as words, signs and marks. Words and signs extend as far as they
can, white space separates and is dropped, and everything that no statement uses is a stray token.
The lemmas read a text from the left: a name, a word or a mark in front of any text becomes one
token in front of the tokens of that text.
-/

namespace ProtoCrud.Sql

inductive Token where
  | word (text : String)
  | sign (text : String)
  | opening
  | closing
  | comma
  | placeholder
  /-- A character that no statement uses. -/
  | stray (c : Char)
  deriving DecidableEq

/-- Letters, numbers and the underscore. -/
def isWordChar (c : Char) : Bool :=
  Text.isAlphanumeric c || c == '_'

/-- The characters that comparison signs are made of. -/
def isSignChar (c : Char) : Bool :=
  c == '=' || c == '!' || c == '<' || c == '>'

/-- The token that a single character makes. -/
def markToken (c : Char) : Token :=
  if c = '(' then .opening
  else if c = ')' then .closing
  else if c = ',' then .comma
  else if c = '?' then .placeholder
  else .stray c

/-- `c` in front of tokens, as the beginning of the word at their head if it touches that word. -/
def consWord (c : Char) (touches : Bool) (rest : List Token) : List Token :=
  match touches, rest with
  | true, .word text :: others => .word (String.ofList (c :: text.toList)) :: others
  | _, _ => .word (String.ofList [c]) :: rest

/-- `c` in front of tokens, as the beginning of the sign at their head if it touches that sign. -/
def consSign (c : Char) (touches : Bool) (rest : List Token) : List Token :=
  match touches, rest with
  | true, .sign text :: others => .sign (String.ofList (c :: text.toList)) :: others
  | _, _ => .sign (String.ofList [c]) :: rest

def tokens : List Char → List Token
  | [] => []
  | c :: rest =>
    if isWordChar c then consWord c (rest.head?.any isWordChar) (tokens rest)
    else if isSignChar c then consSign c (rest.head?.any isSignChar) (tokens rest)
    else if c.isWhitespace then tokens rest
    else markToken c :: tokens rest

def EndsWord (rest : List Char) : Prop :=
  rest.head?.any isWordChar = false

structure IsWord (text : String) : Prop where
  ne_empty : text ≠ ""
  chars : ∀ c ∈ text.toList, isWordChar c = true

theorem IsWord.of_all {text : String} (hne : text ≠ "")
    (hall : text.toList.all isWordChar = true) : IsWord text :=
  ⟨hne, List.all_eq_true.mp hall⟩

theorem endsWord_nil : EndsWord [] := rfl

theorem endsWord_blank (rest : List Char) : EndsWord (' ' :: rest) := rfl

theorem endsWord_closing (rest : List Char) : EndsWord (')' :: rest) := rfl

theorem endsWord_comma (rest : List Char) : EndsWord (',' :: rest) := rfl

/-- The longest word at the beginning of a text is one token. -/
theorem tokens_wordChars (word rest : List Char) (hne : word ≠ [])
    (hchars : ∀ c ∈ word, isWordChar c = true) (hrest : EndsWord rest) :
    tokens (word ++ rest) = .word (String.ofList word) :: tokens rest := by
  induction word with
  | nil => exact absurd rfl hne
  | cons c word ih =>
    have hc : isWordChar c = true := hchars c List.mem_cons_self
    rw [List.cons_append, tokens, if_pos hc]
    cases word with
    | nil =>
      rw [List.nil_append, show rest.head?.any isWordChar = false from hrest]
      rfl
    | cons d word =>
      have hd : isWordChar d = true := hchars d (by simp)
      have hword := ih (by simp) fun x hx ↦ hchars x (List.mem_cons_of_mem _ hx)
      rw [hword]
      simp [consWord, hd]

theorem tokens_word {text : String} (h : IsWord text) {rest : List Char} (hrest : EndsWord rest) :
    tokens (text.toList ++ rest) = .word text :: tokens rest := by
  have hne : text.toList ≠ [] := by
    simpa using h.ne_empty
  rw [tokens_wordChars text.toList rest hne h.chars hrest, String.ofList_toList]

/-- White space in front of a text leaves no token. -/
theorem tokens_blank (rest : List Char) : tokens (' ' :: rest) = tokens rest := by
  rfl

theorem tokens_opening (rest : List Char) : tokens ('(' :: rest) = .opening :: tokens rest := by
  rfl

theorem tokens_closing (rest : List Char) : tokens (')' :: rest) = .closing :: tokens rest := by
  rfl

theorem tokens_comma (rest : List Char) : tokens (',' :: rest) = .comma :: tokens rest := by
  rfl

example : tokens "a_1 NOT IN (?, ?) AND b>= 2".toList =
    [.word "a_1", .word "NOT", .word "IN", .opening, .placeholder, .comma, .placeholder, .closing,
      .word "AND", .word "b", .sign ">=", .word "2"] := by
  rfl

end ProtoCrud.Sql
