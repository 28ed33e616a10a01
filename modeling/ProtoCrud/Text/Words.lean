import ProtoCrud.Text.Letter

/-!
# Words of a name, and the three spellings made from them

A name is cut into words at every character that is neither letter nor number, and inside such a
piece where the case changes: behind a lower-case letter that an upper-case one follows, and in
front of the last upper-case letter of a run that a lower-case one follows (`HTTPServer` has the
words `HTTP` and `Server`). A number has no case and leaves the case that was met before.

The words give the spellings `snake_case`, `SHOUTY_CASE` and `CamelCase`.
-/

namespace ProtoCrud.Text

/-- The case met last in the current word. -/
inductive CaseMode where
  | unknown
  | lower
  | upper
  deriving DecidableEq, Repr

/-- The case met last, once `c` has been read. -/
def CaseMode.after (mode : CaseMode) (c : Char) : CaseMode :=
  if isLowercase c then .lower else if isUppercase c then .upper else mode

/--
The words of a piece without separators, when `current` holds the beginning of the first word in
reverse and `mode` the case met last in it.
-/
def pieceWords (mode : CaseMode) (current : List Char) : List Char → List (List Char)
  | [] => if current.isEmpty then [] else [current.reverse]
  | [c] => [(c :: current).reverse]
  | c :: next :: rest =>
    if mode.after c = .lower ∧ isUppercase next then
      (c :: current).reverse :: pieceWords .unknown [] (next :: rest)
    else if mode = .upper ∧ isUppercase c ∧ isLowercase next then
      current.reverse :: pieceWords .unknown [c] (next :: rest)
    else
      pieceWords (mode.after c) (c :: current) (next :: rest)

/-- The pieces between the characters that satisfy `separates`; some of them may be empty. -/
def pieces (separates : Char → Bool) : List Char → List (List Char)
  | [] => [[]]
  | c :: rest =>
    if separates c then [] :: pieces separates rest
    else match pieces separates rest with
      | [] => [[c]]
      | piece :: others => (c :: piece) :: others

/-- The words of a name, in order. None of them is empty. -/
def words (name : List Char) : List (List Char) :=
  (pieces (!isAlphanumeric ·) name).flatMap (pieceWords .unknown [])

/-- Lower case of one word; a capital sigma at its end takes the final form. -/
def lowerWord : List Char → List Char
  | [] => []
  | [c] => if c = 'Σ' then ['ς'] else lowerForm c
  | c :: rest => lowerForm c ++ lowerWord rest

def upperWord (word : List Char) : List Char :=
  word.flatMap upperForm

/-- One word with its first character in upper case and the others in lower case. -/
def capitalWord : List Char → List Char
  | [] => []
  | c :: rest => upperForm c ++ lowerWord rest

/-- The words in lower case, joined by underscores. -/
def snakeCase (name : String) : String :=
  "_".intercalate ((words name.toList).map fun word ↦ String.ofList (lowerWord word))

/-- The words in upper case, joined by underscores. -/
def shoutyCase (name : String) : String :=
  "_".intercalate ((words name.toList).map fun word ↦ String.ofList (upperWord word))

/-- The capitalised words, joined without a sign between them. -/
def camelCase (name : String) : String :=
  String.join ((words name.toList).map fun word ↦ String.ofList (capitalWord word))

end ProtoCrud.Text
