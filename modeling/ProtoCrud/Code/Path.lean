import ProtoCrud.Code.Grammar
import ProtoCrud.Code.Spelling

/-!
# Paths of generated code

A path is a chain of segments joined by `::`, possibly led by one. A segment is a name, or one of
the words that stand for a module, and may carry arguments in angle brackets. Blanks and comments
between the tokens are of no account.
-/

namespace ProtoCrud.Code

def path? (text : String) : Option (List Token) :=
  (readPath? text).map Node.tokens

/-- The text of a path without spaces, those between quotes included. -/
def pathText (path : List Token) : String :=
  String.ofList ((path.flatMap fun token ↦ token.text.toList).filter (· != ' '))

end ProtoCrud.Code
