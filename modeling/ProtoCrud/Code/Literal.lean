import ProtoCrud.Code.Identifier

/-!
# Literals of code

Where a literal at the beginning of a text ends. Text and bytes stand between quotes, with escapes
or raw between marks; a number has digits of its base and may have a fraction and an exponent. A
literal may carry a word as its suffix. Whatever breaks the rules of its kind is no literal at all.
-/

namespace ProtoCrud.Code

/-- What follows the word at the beginning of a text; a text without one stays as it is. -/
def afterWord : List Char → List Char
  | [] => []
  | c :: rest => if isWord [c] then rest.dropWhile Text.isIdentifierContinue else c :: rest

def digitValue? (c : Char) : Option Nat :=
  if c.isDigit then some (c.toNat - '0'.toNat)
  else if 'a' ≤ c ∧ c ≤ 'f' then some (c.toNat - 'a'.toNat + 10)
  else if 'A' ≤ c ∧ c ≤ 'F' then some (c.toNat - 'A'.toNat + 10)
  else none

inductive QuotedKind where
  | text
  | bytes
  /-- Text that a zero byte ends, so that it can hold none. -/
  | terminated
  deriving DecidableEq, Repr

/-- Whether a character may stand between the quotes for itself. -/
def QuotedKind.holds : QuotedKind → Char → Bool
  | .text, _ => true
  | .bytes, c => Text.isAscii c
  | .terminated, c => c != '\x00'

/-- Whether two digits are the code of a character. -/
def QuotedKind.holdsCode (kind : QuotedKind) (high low : Char) : Bool :=
  match digitValue? high, digitValue? low with
  | some high, some low =>
    match kind with
    | .text => high < 8
    | .bytes => true
    | .terminated => high + low != 0
  | _, _ => false

/-- The code point in braces whose digits go on here, and what follows. -/
def codePoint? : (value digits : Nat) → List Char → Option (Nat × List Char)
  | _, _, [] => none
  | value, digits, c :: rest =>
    if c = '\x7d' then if digits = 0 then none else some (value, rest)
    else if c = '_' then if digits = 0 then none else codePoint? value digits rest
    else
      match digitValue? c with
      | some digit => if digits = 6 then none else codePoint? (value * 16 + digit) (digits + 1) rest
      | none => none

/-- What follows an escape, of which the backslash has been read. -/
def afterEscape? (kind : QuotedKind) : List Char → Option (List Char)
  | 'x' :: high :: low :: rest => if kind.holdsCode high low then some rest else none
  | 'u' :: '\x7b' :: rest =>
    match codePoint? 0 0 rest with
    | some (value, behind) =>
      if kind ≠ .bytes ∧ value.isValidChar ∧ kind.holds (Char.ofNat value) then some behind
      else none
    | none => none
  | c :: rest =>
    if ['n', 'r', 't', '\\', '\'', '"'].contains c || c == '0' && kind != .terminated then some rest
    else none
  | [] => none

/-- What follows the blanks behind an escaped line break; a carriage return needs its line feed. -/
def afterBreak? : (returned : Bool) → List Char → Option (List Char)
  | true, '\n' :: rest => afterBreak? false rest
  | true, _ => none
  | false, [] => none
  | false, c :: rest =>
    if c = ' ' ∨ c = '\t' ∨ c = '\n' then afterBreak? false rest
    else if c = '\r' then afterBreak? true rest
    else some (c :: rest)

/-- What follows text whose opening quote has been read, found in at most `rounds` rounds. -/
def afterQuotedWithin? (kind : QuotedKind) : (rounds : Nat) → List Char → Option (List Char)
  | 0, _ => none
  | _ + 1, [] => none
  | _ + 1, '"' :: rest => some (afterWord rest)
  | rounds + 1, '\r' :: '\n' :: rest => afterQuotedWithin? kind rounds rest
  | _ + 1, '\r' :: _ => none
  | rounds + 1, '\\' :: '\n' :: rest =>
    (afterBreak? false rest).bind (afterQuotedWithin? kind rounds)
  | rounds + 1, '\\' :: '\r' :: rest =>
    (afterBreak? true rest).bind (afterQuotedWithin? kind rounds)
  | rounds + 1, '\\' :: rest => (afterEscape? kind rest).bind (afterQuotedWithin? kind rounds)
  | rounds + 1, c :: rest => if kind.holds c then afterQuotedWithin? kind rounds rest else none

/-- What follows text whose opening quote has been read. -/
def afterQuoted? (kind : QuotedKind) (text : List Char) : Option (List Char) :=
  afterQuotedWithin? kind (text.length + 1) text

def afterRawText? (kind : QuotedKind) (marks : List Char) : List Char → Option (List Char)
  | [] => none
  | '"' :: rest =>
    if marks.isPrefixOf rest then some (afterWord (rest.drop marks.length))
    else afterRawText? kind marks rest
  | '\r' :: '\n' :: rest => afterRawText? kind marks rest
  | '\r' :: _ => none
  | c :: rest => if kind.holds c then afterRawText? kind marks rest else none

/-- What follows raw text, of which the letter that announces it has been read. -/
def afterRaw? (kind : QuotedKind) (text : List Char) : Option (List Char) :=
  let marks := text.takeWhile (· == '#')
  match text.dropWhile (· == '#') with
  | '"' :: rest => if marks.length ≤ 255 then afterRawText? kind marks rest else none
  | _ => none

/-- What follows a quote that ends a single character. -/
def afterApostrophe? : List Char → Option (List Char)
  | '\'' :: rest => some (afterWord rest)
  | _ => none

/-- What follows a single character whose opening quote has been read. -/
def afterCharacter? (kind : QuotedKind) : List Char → Option (List Char)
  | '\\' :: rest => (afterEscape? kind rest).bind afterApostrophe?
  | c :: rest => if kind.holds c then afterApostrophe? rest else none
  | [] => none

def afterQuotation? : List Char → Option (List Char)
  | '"' :: rest => afterQuoted? .text rest
  | 'r' :: rest => afterRaw? .text rest
  | 'b' :: '"' :: rest => afterQuoted? .bytes rest
  | 'b' :: 'r' :: rest => afterRaw? .bytes rest
  | 'c' :: '"' :: rest => afterQuoted? .terminated rest
  | 'c' :: 'r' :: rest => afterRaw? .terminated rest
  | 'b' :: '\'' :: rest => afterCharacter? .bytes rest
  | '\'' :: rest => afterCharacter? .text rest
  | _ => none

/-- The value of text whose opening quote has been read, in at most `rounds` rounds. -/
def quotedValueWithin : (rounds : Nat) → List Char → List Char
  | 0, _ => []
  | _ + 1, [] => []
  | _ + 1, '"' :: _ => []
  | rounds + 1, '\r' :: '\n' :: rest => '\n' :: quotedValueWithin rounds rest
  | rounds + 1, '\\' :: '\n' :: rest => quotedValueWithin rounds (afterBlanks rest)
  | rounds + 1, '\\' :: '\r' :: rest => quotedValueWithin rounds (afterBlanks rest)
  | rounds + 1, '\\' :: 'n' :: rest => '\n' :: quotedValueWithin rounds rest
  | rounds + 1, '\\' :: 'r' :: rest => '\r' :: quotedValueWithin rounds rest
  | rounds + 1, '\\' :: 't' :: rest => '\t' :: quotedValueWithin rounds rest
  | rounds + 1, '\\' :: '0' :: rest => '\x00' :: quotedValueWithin rounds rest
  | rounds + 1, '\\' :: 'x' :: high :: low :: rest =>
    Char.ofNat ((digitValue? high).getD 0 * 16 + (digitValue? low).getD 0) ::
      quotedValueWithin rounds rest
  | rounds + 1, '\\' :: 'u' :: '\x7b' :: rest =>
    match codePoint? 0 0 rest with
    | some (value, behind) => Char.ofNat value :: quotedValueWithin rounds behind
    | none => []
  | rounds + 1, '\\' :: c :: rest => c :: quotedValueWithin rounds rest
  | rounds + 1, c :: rest => c :: quotedValueWithin rounds rest
where
  /-- What follows the blanks behind an escaped line break. -/
  afterBlanks (text : List Char) : List Char :=
    text.dropWhile fun c ↦ c == ' ' || c == '\t' || c == '\n' || c == '\r'

def rawValue (text : List Char) : List Char :=
  let quoted := (text.dropWhile (· != '"')).drop 1
  (quoted.reverse.dropWhile (· != '"')).drop 1 |>.reverse

def textValue? (literal : String) : Option (List Char) :=
  match literal.toList with
  | '"' :: rest => some (quotedValueWithin (rest.length + 1) rest)
  | 'r' :: rest => some (rawValue rest)
  | _ => none

/-- What follows a number and its suffix; no further character of a word may stand there. -/
def afterSuffix? (text : List Char) : Option (List Char) :=
  let behind := afterWord text
  if behind.head?.any Text.isIdentifierContinue then none else some behind

/-- Whether a fraction has been met, and what follows the digits and the point of a number. -/
def afterPlaces? : (fraction : Bool) → List Char → Option (Bool × List Char)
  | fraction, [] => some (fraction, [])
  | fraction, c :: rest =>
    if c.isDigit || c == '_' then afterPlaces? fraction rest
    else if c == '.' && !fraction then
      if rest.head?.any (fun next ↦ next == '.' || isWord [next]) then none
      else afterPlaces? true rest
    else some (fraction, c :: rest)

/-- What follows an exponent: a sign at most and at least one digit. -/
def afterExponent? : (signed digit : Bool) → List Char → Option (List Char)
  | _, digit, [] => if digit then some [] else none
  | signed, digit, c :: rest =>
    if c == '+' || c == '-' then
      if digit then some (c :: rest) else if signed then none else afterExponent? true digit rest
    else if c.isDigit then afterExponent? signed true rest
    else if c == '_' then afterExponent? signed digit rest
    else if digit then some (c :: rest)
    else none

/-- What follows the number with a fraction or an exponent at the beginning of a text. -/
def afterFraction? (text : List Char) : Option (List Char) :=
  if text.head?.any Char.isDigit then
    match afterPlaces? false text with
    | some (fraction, rest) =>
      let plain := if fraction then some rest else none
      let behind := match rest with
        | 'e' :: power => (afterExponent? false false power).or plain
        | 'E' :: power => (afterExponent? false false power).or plain
        | _ => plain
      behind.bind afterSuffix?
    | none => none
  else none

/-- What follows the digits of a whole number; an underscore may part them. -/
def afterDigits? (base : Nat) : (empty : Bool) → List Char → Option (List Char)
  | empty, [] => if empty then none else some []
  | empty, c :: rest =>
    if c == '_' then if empty && base == 10 then none else afterDigits? base empty rest
    else
      match digitValue? c with
      | some digit =>
        if digit < base then afterDigits? base false rest
        else if c.isDigit || empty then none
        else some (c :: rest)
      | none => if empty then none else some (c :: rest)

/-- The base that a number announces, and what follows the announcement. -/
def numberBase : List Char → Nat × List Char
  | '0' :: 'x' :: rest => (16, rest)
  | '0' :: 'o' :: rest => (8, rest)
  | '0' :: 'b' :: rest => (2, rest)
  | text => (10, text)

/-- What follows the whole number at the beginning of a text. -/
def afterWhole? (text : List Char) : Option (List Char) :=
  let (base, digits) := numberBase text
  (afterDigits? base true digits).bind afterSuffix?

def afterLiteral? (text : List Char) : Option (List Char) :=
  ((afterQuotation? text).or (afterFraction? text)).or (afterWhole? text)

/-- The whole number below `2^32` that a literal without suffix spells. -/
def placeValue? (text : List Char) : Option Nat :=
  let (base, digits) := numberBase text
  let values := (digits.filter (· != '_')).map digitValue?
  let value := values.foldl (fun value? digit? ↦ do
    let value ← value?
    let digit ← digit?
    if digit < base then some (value * base + digit) else none) (some 0)
  if values.isEmpty then none else value.filter (· < 4294967296)

end ProtoCrud.Code
