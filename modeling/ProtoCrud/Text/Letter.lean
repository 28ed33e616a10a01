import ProtoCrud.Text.Table.Alphanumeric
import ProtoCrud.Text.Table.CaseIgnorable
import ProtoCrud.Text.Table.CaseMapping
import ProtoCrud.Text.Table.Identifier
import ProtoCrud.Text.Table.LetterCase
import ProtoCrud.Text.Table.Visible

/-!
# Letters: classes and case forms of single characters

Every property is answered by a short rule on ASCII and by a table beyond it. An upper-case or
lower-case form is a list of characters, since some characters have a form of several (`ß`).
-/

namespace ProtoCrud.Text

/-- Whether a code point is an ASCII one; the tables start where ASCII ends. -/
def isAscii (c : Char) : Bool :=
  c.toNat < 0x80

/-- Letters and numbers of every script. -/
def isAlphanumeric (c : Char) : Bool :=
  if isAscii c then c.isAlphanum else inRanges Table.alphanumeric c.toNat

/-- Letters with the upper-case property. Title-case letters are neither upper nor lower. -/
def isUppercase (c : Char) : Bool :=
  if isAscii c then c.isUpper else inRuns Table.uppercase c.toNat

/-- Letters with the lower-case property. -/
def isLowercase (c : Char) : Bool :=
  if isAscii c then c.isLower else inRuns Table.lowercase c.toNat

/-- Letters that have case: upper, lower or title. -/
def isCased (c : Char) : Bool :=
  isUppercase c || isLowercase c || inRanges Table.titlecase c.toNat

/-- Characters that case conversion looks past, such as apostrophes and combining accents. -/
def isCaseIgnorable (c : Char) : Bool :=
  inRanges Table.caseIgnorable c.toNat

/-- Characters that may begin an identifier; the underscore is not one of them. -/
def isIdentifierStart (c : Char) : Bool :=
  if isAscii c then c.isAlpha else inRanges Table.identifierStart c.toNat

/-- Characters that may continue an identifier, the underscore included. -/
def isIdentifierContinue (c : Char) : Bool :=
  if isAscii c then c.isAlphanum || c == '_' else inRanges Table.identifierContinue c.toNat

/-- Characters that quoted text shows as they are. -/
def isVisible (c : Char) : Bool :=
  if isAscii c then 0x20 ≤ c.toNat && c.toNat < 0x7F else inRanges Table.visible c.toNat

/-- White space, of every script. -/
def isBlank (c : Char) : Bool :=
  inRanges [(0x09, 0x0D), (0x20, 0x20), (0x85, 0x85), (0xA0, 0xA0), (0x1680, 0x1680),
    (0x2000, 0x200A), (0x2028, 0x2029), (0x202F, 0x202F), (0x205F, 0x205F), (0x3000, 0x3000)]
    c.toNat

/-- The other-case form of a character beyond ASCII: an expansion, a shift, or the character. -/
def caseForm (expansions : List (Nat × List Nat)) (shifts : List CodeShift) (c : Char) :
    List Char :=
  match expansions.lookup c.toNat with
  | some codes => codes.map Char.ofNat
  | none => [(shifted? shifts c.toNat).elim c Char.ofNat]

def upperForm (c : Char) : List Char :=
  if isAscii c then [c.toUpper] else caseForm Table.upperExpansion Table.upperShift c

/-- The lower-case form of a character, wherever it stands. -/
def lowerForm (c : Char) : List Char :=
  if isAscii c then [c.toLower] else caseForm Table.lowerExpansion Table.lowerShift c

end ProtoCrud.Text
