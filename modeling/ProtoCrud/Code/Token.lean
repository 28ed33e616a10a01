import ProtoCrud.Code.Identifier
import ProtoCrud.Text.Quoted

/-!
# Generated code as tokens

Code is a list of tokens; how it is laid out on lines is nobody's concern here. Its text has a
space where two neighbours would otherwise run together into one word, and nowhere else.

A name that comes from a schema stands in the code as a token of its own, since not every name can
be an identifier; code in which every name can is legal.
-/

namespace ProtoCrud.Code

inductive Token where
  /-- A word, a number, or a sign of one or several characters. -/
  | plain (text : String)
  /-- A name that serves as an identifier. -/
  | name (text : String)
  /-- A text between quotes. -/
  | quoted (value : String)
  /-- A text between quotes, spelt without escapes and with the letter that says so. -/
  | raw (spelling : String)
  deriving DecidableEq

/-- Whether a digit in base eight follows. -/
def startsOctal : List Char → Bool
  | c :: _ => '0' ≤ c && c ≤ '7'
  | [] => false

/-- The characters of a text between quotes; a zero is spelt so that no digit behind it joins it. -/
def literalChars : List Char → List Char
  | [] => []
  | c :: rest =>
    (if c = '\x00' && startsOctal rest then ['\\', 'x', '0', '0'] else Text.escape c) ++
      literalChars rest

def Token.text : Token → String
  | .plain text => text
  | .name text => text
  | .quoted value => String.ofList ('"' :: literalChars value.toList ++ ['"'])
  | .raw spelling => spelling

/-- The text of a token as written code shows it, without a mark on the quotes. -/
def Token.shown : Token → String
  | .raw spelling => String.ofList (spelling.toList.drop 1)
  | token => token.text

def isWordChar (c : Char) : Bool :=
  Text.isAlphanumeric c || c == '_'

/-- Whether two texts would run together into one word. -/
def runTogether (left right : String) : Bool :=
  left.toList.getLast?.any isWordChar && right.toList.head?.any isWordChar

/-- The closing brackets. -/
def closers : List String := [")", "]", "\x7d"]

/-- The tokens without the commas that stand right before a closing bracket. -/
def dropTrailingCommas : List Token → List Token
  | [] => []
  | [token] => [token]
  | token :: next :: rest =>
    if token = .plain "," ∧ closers.contains next.text then dropTrailingCommas (next :: rest)
    else token :: dropTrailingCommas (next :: rest)

def signCharacters : List Char :=
  "~!@#$%^&*-=+|;:,<.>/?".toList

def Token.singles : Token → List Token
  | .plain text =>
    if text.toList.all signCharacters.contains then
      text.toList.map fun c ↦ .plain (String.singleton c)
    else [.plain text]
  | token => [token]

def spaced : List String → List String
  | [] => []
  | [text] => [text]
  | text :: next :: rest =>
    if runTogether text next then text :: " " :: spaced (next :: rest)
    else text :: spaced (next :: rest)

/-- The text of code. -/
def write (tokens : List Token) : String :=
  String.join (spaced ((dropTrailingCommas (tokens.flatMap Token.singles)).map Token.shown))

/-- The text of code with a space between any two tokens. -/
def spacedText (tokens : List Token) : String :=
  " ".intercalate (tokens.map Token.text)

def Token.illegalName? : Token → Option String
  | .name text => if isIdentifier text then none else some text
  | _ => none

/-- The first name in code that cannot be an identifier. -/
def illegalName? (tokens : List Token) : Option String :=
  tokens.findSome? Token.illegalName?

/-- The signs of several characters in the code that is built. -/
def longSigns : List (List Char) :=
  ["::", "->", "=>", ".."].map String.toList

/-- The words and signs of a text; every other character that belongs to no word is a sign. -/
def lexical : List Char → List (List Char)
  | [] => []
  | c :: rest =>
    if c = ' ' then lexical rest
    else if (isWordChar c || c == '\'') && rest.head?.any isWordChar then
      match lexical rest with
      | word :: others => (c :: word) :: others
      | [] => [[c]]
    else
      match rest, lexical rest with
      | next :: _, sign :: others =>
        if sign = [next] && longSigns.contains [c, next] then [c, next] :: others
        else [c] :: sign :: others
      | _, others => [c] :: others

def code (text : String) : List Token :=
  (lexical text.toList).map fun token ↦ .plain (String.ofList token)

def name (text : String) : List Token :=
  [.name text]

def quoted (value : String) : List Token :=
  [.quoted value]

def braced (tokens : List Token) : List Token :=
  .plain "\x7b" :: tokens ++ [.plain "\x7d"]

def parenthesised (tokens : List Token) : List Token :=
  .plain "(" :: tokens ++ [.plain ")"]

/-- Code in square brackets. -/
def squared (tokens : List Token) : List Token :=
  .plain "[" :: tokens ++ [.plain "]"]

/-- Code in angle brackets. -/
def angled (tokens : List Token) : List Token :=
  .plain "<" :: tokens ++ [.plain ">"]

def listed (pieces : List (List Token)) : List Token :=
  pieces.flatMap fun piece ↦ piece ++ [.plain ","]

/-- A documenting attribute of the item that follows. -/
def doc (text : String) : List Token :=
  code "#" ++ squared (code "doc =" ++ quoted text)

def fileDoc (text : String) : List Token :=
  code "#!" ++ squared (code "doc =" ++ quoted text)

end ProtoCrud.Code
