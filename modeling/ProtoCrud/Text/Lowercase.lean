import ProtoCrud.Text.Letter

/-!
# Lower case of running text

All characters have a lower-case form of their own except the capital sigma, whose form depends
on its place: at the end of a word it becomes `ς`, elsewhere `σ`.
-/

namespace ProtoCrud.Text

/-- Whether the next character, apart from those that case conversion looks past, has case. -/
def meetsCased (text : List Char) : Bool :=
  (text.dropWhile isCaseIgnorable).head?.any isCased

/-- A capital sigma ends a word if a letter with case stands before it and none behind it. -/
def sigmaForm (before after : List Char) : Char :=
  if meetsCased before && !meetsCased after then 'ς' else 'σ'

/-- The lower-case form of `text`, which follows the reversed text `before`. -/
def lowercaseFrom (before : List Char) : List Char → List Char
  | [] => []
  | c :: rest =>
    (if c = 'Σ' then [sigmaForm before rest] else lowerForm c) ++ lowercaseFrom (c :: before) rest

/-- Lower case of a whole text. -/
def lowercase (text : String) : String :=
  String.ofList (lowercaseFrom [] text.toList)

end ProtoCrud.Text
