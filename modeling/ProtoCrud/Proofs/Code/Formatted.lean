import ProtoCrud.Code.Format
import ProtoCrud.Proofs.Code.Lexeme

/-!
# Code that can be laid out

Whether the code of a file can be laid out is decided by the lexemes of its tokens: they make the
trees that the text of the code spells, and the length of that text bounds the rounds of reading.
-/

namespace ProtoCrud.Code

def Token.length : Token → Nat
  | .plain text => text.toList.length
  | .name text => text.toList.length
  | .quoted value => (literalChars value.toList).length + 2
  | .raw spelling => spelling.toList.length

theorem Token.length_text (token : Token) : token.text.length = token.length := by
  cases token with
  | quoted value => simp [Token.text, Token.length, ← String.length_toList]
  | _ => exact String.length_toList.symm

/-- The number of characters of code with a space between any two tokens. -/
def spacedLength : List Token → Nat
  | [] => 0
  | [token] => token.length
  | token :: rest => token.length + 1 + spacedLength rest

theorem length_spacedText (tokens : List Token) :
    (spacedText tokens).length = spacedLength tokens := by
  induction tokens with
  | nil => rfl
  | cons first rest ih =>
    cases rest with
    | nil => simp [spacedText, spacedLength, Token.length_text]
    | cons second rest =>
      rw [← String.length_toList, spacedText_cons_cons, List.length_append, List.length_cons,
        String.length_toList, String.length_toList, ih, Token.length_text]
      change _ = first.length + 1 + spacedLength (second :: rest)
      omega

/-- The file that lexemes are read as, with at most `rounds` rules within each other. -/
def fileOf? (rounds : Nat) (lexemes : List Lexeme) : Option Node := do
  let trees ← treesAround? [] [] lexemes
  let (node, rest) ← Grammar.file (Grammar.readWithin rounds) trees
  if rest.isEmpty then some node else none

theorem readFile?_spacedText {tokens : List Token} {lexemes : List Lexeme}
    (h : codeLexemes? tokens = some lexemes) :
    readFile? (spacedText tokens) = fileOf? (8 * spacedLength tokens + 8) lexemes := by
  rw [readFile?, readWhole?, trees?_spacedText h, length_spacedText, fileOf?]

/-- Whether code can be laid out or is no file at all, so far as its lexemes are known. -/
def isFormatted? (tokens : List Token) : Option Bool :=
  (codeLexemes? tokens).map fun lexemes ↦
    (fileOf? (8 * spacedLength tokens + 8) lexemes).all fun node ↦
      !(Layout.layTree .plain node).contains .impossible

/-- The lexemes of code decide whether it is formatted. -/
theorem isSome_formatted? {tokens : List Token} {isFormatted : Bool}
    (h : isFormatted? tokens = some isFormatted) : (formatted? tokens).isSome = isFormatted := by
  obtain ⟨lexemes, hlexemes, rfl⟩ := Option.map_eq_some_iff.mp h
  rw [formatted?, readFile?_spacedText hlexemes]
  cases fileOf? (8 * spacedLength tokens + 8) lexemes with
  | none => rfl
  | some node =>
    dsimp only
    rw [Option.isSome_map, layOut?, Option.all_some]
    cases (Layout.layTree .plain node).contains .impossible <;> rfl

end ProtoCrud.Code
