import ProtoCrud.Code.Grammar.Statement
import ProtoCrud.Code.Lexeme

/-!
# Reading code

The rules of the grammar tied together: each may use all of them, with one round less to go. Of the
rules within each other there are at most a few for each character of a text.
-/

namespace ProtoCrud.Code

namespace Grammar

def body (read : Rule → Reader Node) : Rule → Reader Node
  | .type sums => typeRule read sums
  | .arguments => argumentsRule read
  | .pattern => patternRule read
  | .expression structs => expressionRule read structs
  | .operand structs => operandRule read structs
  | .operation structs base left => operationRule read structs base left
  | .rightSide structs level right => rightSideRule read structs level right
  | .trailer left => trailerRule read left
  | .conditional => conditionalRule read
  | .standalone => standaloneRule read
  | .statements => statementsRule read
  | .item => itemRule read

/-- Reads by a rule, with at most `rounds` rules within each other. -/
def readWithin : (rounds : Nat) → Rule → Reader Node
  | 0, _ => fun _ ↦ none
  | rounds + 1, rule => fun trees ↦ body (fun inner rest ↦ readWithin rounds inner rest) rule trees

/-- A whole file: its attributes and its items. -/
def file (read : Rule → Reader Node) : Reader Node := do
  let attributes ← innerAttributes read
  return .items attributes (← Reader.whileSeen (Look.not Look.finished) (read .item))

end Grammar

/-- What a reader makes of the whole of a text; it may use every rule of the grammar. -/
def readWhole? (reader : (Grammar.Rule → Reader Node) → Reader Node) (text : String) :
    Option Node := do
  let trees ← trees? text
  let (node, rest) ← reader (Grammar.readWithin (8 * text.length + 8)) trees
  if rest.isEmpty then some node else none

def readPath? (text : String) : Option Node :=
  readWhole? (fun read ↦ Grammar.path read false) text

def readFile? (text : String) : Option Node :=
  readWhole? Grammar.file text

end ProtoCrud.Code
