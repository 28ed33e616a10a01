import ProtoCrud.Code.Grammar
import ProtoCrud.Code.Layout.Engine
import ProtoCrud.Code.Layout.Tree

/-!
# Formatted code

A file of code is laid out if it can be read as one, and stays as it is otherwise. Laying it out is
not just a matter of blanks: what is of no use is left out, and where a list is broken into several
lines its last item gets a comma too.
-/

namespace ProtoCrud.Code

/-- The text of a file that is laid out, unless there is code in it that cannot be. -/
def layOut? (file : Node) : Option String :=
  let steps := Layout.layTree .plain file
  if steps.contains .impossible then none else some (Layout.render steps)

/-- The tokens of a formatted file; `none` if it can be read and not laid out. -/
def formatted? (tokens : List Token) : Option (List Token) :=
  match readFile? (spacedText tokens) with
  | none => some tokens
  | some file => (layOut? file).map fun text ↦ ((trees? text).map treeTokens).getD tokens

end ProtoCrud.Code
