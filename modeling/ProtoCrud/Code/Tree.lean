import ProtoCrud.Code.Token

/-!
# Bracketed code

Before code is read as a path or a type it is a list of trees: words, lifetimes, literals and signs,
and groups between matching brackets. A sign remembers whether the next one follows without a gap,
since only signs without a gap make up a longer one such as `::`.
-/

namespace ProtoCrud.Code

inductive Bracket where
  | round
  | square
  | curly
  deriving DecidableEq, Repr

def Bracket.opening : Bracket → String
  | .round => "("
  | .square => "["
  | .curly => "\x7b"

def Bracket.closing : Bracket → String
  | .round => ")"
  | .square => "]"
  | .curly => "\x7d"

def Bracket.around (bracket : Bracket) (content : List Token) : List Token :=
  .plain bracket.opening :: content ++ [.plain bracket.closing]

/-- A piece of code whose brackets match. -/
inductive Tree where
  /-- An identifier or a keyword, the mark included. -/
  | word (text : String)
  | lifetime (name : String)
  /-- A number, or anything between quotes. -/
  | literal (text : String)
  | sign (c : Char) (joined : Bool)
  | group (bracket : Bracket) (content : List Tree)

def literalToken (text : String) : Token :=
  if ['r', '"'].isPrefixOf text.toList then .raw text else .plain text

/-- A sign in front of tokens; one that the next sign follows without a gap is a part of it. -/
def signed (c : Char) (joined : Bool) : List Token → List Token
  | .plain text :: rest =>
    if joined then .plain (String.ofList (c :: text.toList)) :: rest
    else .plain (String.singleton c) :: .plain text :: rest
  | rest => .plain (String.singleton c) :: rest

mutual

def Tree.tokensBefore (behind : List Token) : Tree → List Token
  | .word text => .plain text :: behind
  | .lifetime name => .plain ("'" ++ name) :: behind
  | .literal text => literalToken text :: behind
  | .sign c joined => signed c joined behind
  | .group bracket content => bracket.around (treeTokens content) ++ behind

def treeTokens : List Tree → List Token
  | [] => []
  | tree :: rest => tree.tokensBefore (treeTokens rest)

end

mutual

/-- How many trees there are in a tree, itself included. -/
def Tree.count : Tree → Nat
  | .group _ content => treeCount content + 1
  | _ => 1

/-- How many trees there are, those in groups included. -/
def treeCount : List Tree → Nat
  | [] => 0
  | tree :: rest => tree.count + treeCount rest

end

/-- A question about the code that follows. -/
abbrev Look := List Tree → Bool

namespace Look

/-- Whether nothing follows. -/
def finished : Look
  | [] => true
  | _ => false

/-- The words that are no names. -/
def reserved : List String :=
  ["_", "abstract", "as", "async", "await", "become", "box", "break", "const", "continue", "crate",
    "do", "dyn", "else", "enum", "extern", "false", "final", "fn", "for", "if", "impl", "in", "let",
    "loop", "macro", "match", "mod", "move", "mut", "override", "priv", "pub", "ref", "return",
    "Self", "self", "static", "struct", "super", "trait", "true", "try", "type", "typeof", "unsafe",
    "unsized", "use", "virtual", "where", "while", "yield"]

def word (text : String) : Look
  | .word other :: _ => other == text
  | _ => false

def anyWord : Look
  | .word _ :: _ => true
  | _ => false

def name : Look
  | .word text :: _ => !reserved.contains text
  | _ => false

def lifetime : Look
  | .lifetime _ :: _ => true
  | _ => false

def group (bracket : Bracket) : Look
  | .group other _ :: _ => other == bracket
  | _ => false

/-- Whether signs follow, without gaps between them. -/
def signs : List Char → Look
  | [], _ => true
  | [c], .sign other _ :: _ => other == c
  | c :: rest, .sign other joined :: trees => other == c && joined && signs rest trees
  | _ :: _, _ => false

/-- Whether a sign of one or several characters follows. -/
def sign (text : String) : Look :=
  signs text.toList

/-- Whether a number or quoted text follows, a number with its minus, or one of the truth values. -/
def literal : Look
  | .literal _ :: _ => true
  | .word text :: _ => text == "true" || text == "false"
  | .sign '-' _ :: .literal text :: _ => text.toList.head?.any Char.isDigit
  | _ => false

/-- What another look says about the code behind the next `count` trees. -/
def behind (count : Nat) (look : Look) : Look :=
  fun trees ↦ look (trees.drop count)

def or (left right : Look) : Look :=
  fun trees ↦ left trees || right trees

def and (left right : Look) : Look :=
  fun trees ↦ left trees && right trees

def not (look : Look) : Look :=
  fun trees ↦ !look trees

/-- Whether a sign follows that is not the beginning of another one. -/
def signOnly (text longer : String) : Look :=
  and (sign text) (not (sign longer))

def oneOf (looks : List Look) : Look :=
  fun trees ↦ looks.any fun look ↦ look trees

end Look

end ProtoCrud.Code
