import ProtoCrud.Code.Literal
import ProtoCrud.Code.Tree

/-!
# Reading text as bracketed code

A text is cut into lexemes from left to right; blanks and comments between them are of no account,
but a comment that documents something counts as the attribute it stands for. The lexemes are trees
once every bracket has found its partner.
-/

namespace ProtoCrud.Code

/-- A lexeme: a bracket on its own, or a tree that is no group. -/
inductive Lexeme where
  | opening (bracket : Bracket)
  | closing (bracket : Bracket)
  | leaf (tree : Tree)

/-- Blanks between lexemes, the two marks of writing direction among them. -/
def isGap (c : Char) : Bool :=
  Text.isBlank c || c == '\u200e' || c == '\u200f'

/-- The rest of a line without its end, and the text from the end of the line. -/
def splitLine : List Char → List Char × List Char
  | [] => ([], [])
  | '\n' :: rest => ([], '\n' :: rest)
  | '\r' :: '\n' :: rest => ([], '\n' :: rest)
  | c :: rest =>
    let (line, behind) := splitLine rest
    (c :: line, behind)

/-- The text behind the end of `depth` nested comments, if they end. -/
def afterComment? : (depth : Nat) → List Char → Option (List Char)
  | 0, text => some text
  | depth + 1, '*' :: '/' :: rest => afterComment? depth rest
  | depth + 1, '/' :: '*' :: rest => afterComment? (depth + 2) rest
  | depth + 1, _ :: rest => afterComment? (depth + 1) rest
  | _ + 1, [] => none

/--
The text behind the comment that it starts with; `none` if it starts with no comment, or with one
that documents something.
-/
def afterLeadingComment? : List Char → Option (List Char)
  | '/' :: '/' :: '/' :: '/' :: rest => some (splitLine rest).2
  | '/' :: '/' :: '/' :: _ => none
  | '/' :: '/' :: '!' :: _ => none
  | '/' :: '/' :: rest => some (splitLine rest).2
  | '/' :: '*' :: '*' :: '/' :: rest => some rest
  | '/' :: '*' :: '*' :: '*' :: rest => afterComment? 1 ('*' :: '*' :: rest)
  | '/' :: '*' :: '*' :: _ => none
  | '/' :: '*' :: '!' :: _ => none
  | '/' :: '*' :: rest => afterComment? 1 rest
  | _ => none

structure Documentation where
  /-- Whether it is about what encloses it and not about what follows. -/
  inner : Bool
  text : List Char
  deriving DecidableEq

def lineDocumentation (inner : Bool) (text : List Char) : Documentation × List Char :=
  let (line, rest) := splitLine text
  (⟨inner, line⟩, rest)

/-- The documentation between `text` and the end of the comment. -/
def blockDocumentation? (inner : Bool) (text : List Char) :
    Option (Documentation × List Char) :=
  (afterComment? 1 text).map fun rest ↦
    (⟨inner, text.take (text.length - rest.length - 2)⟩, rest)

/-- The documentation at the beginning of a text, and what follows. -/
def documentation? : List Char → Option (Documentation × List Char)
  | '/' :: '/' :: '!' :: rest => some (lineDocumentation true rest)
  | '/' :: '/' :: '/' :: rest => some (lineDocumentation false rest)
  | '/' :: '*' :: '!' :: rest => blockDocumentation? true rest
  | '/' :: '*' :: '*' :: rest => blockDocumentation? false rest
  | _ => none

/-- Whether every carriage return in a text stands in front of a line feed. -/
def hasWholeLineEnds : List Char → Bool
  | [] => true
  | '\r' :: '\n' :: rest => hasWholeLineEnds rest
  | '\r' :: _ => false
  | _ :: rest => hasWholeLineEnds rest

def Documentation.lexemes (doc : Documentation) : List Lexeme :=
  let mark := if doc.inner then [.leaf (.sign '!' false)] else []
  .leaf (.sign '#' false) :: mark ++
    [.opening .square, .leaf (.word "doc"), .leaf (.sign '=' false),
      .leaf (.literal (Token.quoted (String.ofList doc.text)).text), .closing .square]

/-- Whether a text starts with a sign, and not with a comment. -/
def startsSign : List Char → Bool
  | '/' :: '/' :: _ => false
  | '/' :: '*' :: _ => false
  | c :: _ => signCharacters.contains c || c == '\''
  | [] => false

/-- The beginnings of quoted literals; a text with one of them starts with no word. -/
def literalBeginnings : List String :=
  ["r\"", "r#\"", "r##", "b\"", "b'", "br\"", "br#", "c\"", "cr\"", "cr#"]

def markedWord? (text : List Char) : Option (String × List Char) :=
  let (mark, unmarked) := match text with
    | 'r' :: '#' :: rest => (rawMark, rest)
    | text => ("", text)
  match unmarked with
  | c :: rest =>
    let word := mark ++ String.ofList (c :: rest.takeWhile Text.isIdentifierContinue)
    if isWord [c] ∧ isIdentifier word then some (word, rest.dropWhile Text.isIdentifierContinue)
    else none
  | [] => none

/-- The word at the beginning of a text that starts with no literal. -/
def leadingWord? (text : List Char) : Option (String × List Char) :=
  if literalBeginnings.any fun beginning ↦ beginning.toList.isPrefixOf text then none
  else markedWord? text

/-- What an apostrophe begins that is no quote: a lifetime, or a sign in front of a literal. -/
def afterTick? (text : List Char) : Option (Tree × List Char) :=
  match markedWord? text with
  | none => none
  | some (_, behind) =>
    if behind.head? = some '\'' then none
    else if behind.head? = some '#' ∧ !rawMark.toList.isPrefixOf text then none
    else if (afterLiteral? text).isSome then some (.sign '\'' true, text)
    else (leadingWord? text).map fun (word, rest) ↦ (.lifetime word, rest)

/-- The literal, sign or word at the beginning of a text that starts with no gap and no bracket. -/
def leaf? (text : List Char) : Option (Tree × List Char) :=
  match afterLiteral? text with
  | some rest => some (.literal (String.ofList (text.take (text.length - rest.length))), rest)
  | none =>
    match text with
    | [] => none
    | '\'' :: rest => afterTick? rest
    | c :: rest =>
      if startsSign text then some (.sign c (startsSign rest), rest)
      else (leadingWord? text).map fun (word, behind) ↦ (.word word, behind)

def bracket? : Char → Option Lexeme
  | '(' => some (.opening .round)
  | '[' => some (.opening .square)
  | '\x7b' => some (.opening .curly)
  | ')' => some (.closing .round)
  | ']' => some (.closing .square)
  | '\x7d' => some (.closing .curly)
  | _ => none

/-- The lexemes of a text, read in at most `rounds` rounds; `none` if there is no such thing. -/
def lexemesWithin? : (rounds : Nat) → List Char → Option (List Lexeme)
  | _, [] => some []
  | 0, _ :: _ => none
  | rounds + 1, c :: rest =>
    if isGap c then lexemesWithin? rounds rest
    else
      match afterLeadingComment? (c :: rest) with
      | some behind => lexemesWithin? rounds behind
      | none =>
        match documentation? (c :: rest) with
        | some (doc, behind) =>
          if hasWholeLineEnds doc.text then
            (lexemesWithin? rounds behind).map (doc.lexemes ++ ·)
          else none
        | none =>
          match bracket? c with
          | some lexeme => (lexemesWithin? rounds rest).map (lexeme :: ·)
          | none =>
            match leaf? (c :: rest) with
            | some (tree, behind) => (lexemesWithin? rounds behind).map (.leaf tree :: ·)
            | none => none

/-- The lexemes of a text; each round reads at least one character. -/
def lexemes? (text : List Char) : Option (List Lexeme) :=
  lexemesWithin? text.length text

/--
The trees of lexemes, when `around` holds the open brackets with the reversed trees in front of
them, the innermost first, and `before` the reversed trees since the last of them.
-/
def treesAround? (around : List (Bracket × List Tree)) (before : List Tree) :
    List Lexeme → Option (List Tree)
  | [] => if around.isEmpty then some before.reverse else none
  | .leaf tree :: rest => treesAround? around (tree :: before) rest
  | .opening bracket :: rest => treesAround? ((bracket, before) :: around) [] rest
  | .closing bracket :: rest =>
    match around with
    | (opened, outer) :: around =>
      if opened = bracket then treesAround? around (.group bracket before.reverse :: outer) rest
      else none
    | [] => none

/-- A text without the mark of byte order that may stand in front of it. -/
def withoutOrderMark : List Char → List Char
  | '\ufeff' :: rest => rest
  | text => text

def trees? (text : String) : Option (List Tree) :=
  (lexemes? (withoutOrderMark text.toList)).bind (treesAround? [] [])

end ProtoCrud.Code
