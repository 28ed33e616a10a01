import ProtoCrud.Text.Cut
import ProtoCrud.Text.Words

/-!
# Identifiers of generated code

An identifier starts with a letter or an underscore and goes on with letters, digits and
underscores. A keyword can serve as an identifier behind a mark, a few of them not even then.
Fields and methods are spelt in snake case, with keywords marked or, where no mark helps, followed
by an underscore.
-/

namespace ProtoCrud.Code

/-- The mark that makes an identifier of a keyword. -/
def rawMark : String := "r#"

/-- The words that cannot be identifiers even behind the mark. -/
def unmarkable : List String :=
  ["_", "super", "self", "Self", "crate"]

def keywords : List String :=
  ["as", "break", "const", "continue", "else", "enum", "extern", "false", "fn", "for", "if",
    "impl", "in", "let", "loop", "match", "mod", "move", "mut", "pub", "ref", "return", "static",
    "struct", "trait", "true", "type", "unsafe", "use", "where", "while", "async", "await", "dyn",
    "abstract", "become", "box", "do", "final", "macro", "override", "priv", "typeof", "unsized",
    "virtual", "yield", "try", "gen"]

/-- Whether a text has the characters of an identifier. -/
def isWord : List Char → Bool
  | [] => false
  | c :: rest => (c == '_' || Text.isIdentifierStart c) && rest.all Text.isIdentifierContinue

/-- Whether a text, with or without the mark, is an identifier. -/
def isIdentifier (text : String) : Bool :=
  match Text.afterStart? rawMark.toList text.toList with
  | some unmarked => isWord unmarked && !unmarkable.contains (String.ofList unmarked)
  | none => isWord text.toList

def fieldIdentifier (name : String) : String :=
  let snake := Text.snakeCase name
  if snake = "self" ∨ snake = "super" ∨ snake = "crate" then snake ++ "_"
  else if keywords.contains snake then rawMark ++ snake
  else snake

end ProtoCrud.Code
