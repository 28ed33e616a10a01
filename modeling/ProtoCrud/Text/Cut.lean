import ProtoCrud.Text.Letter

/-!
# Cutting text

Splitting at a separator, taking off a known beginning or end, and replacing one text by another,
on lists of characters. Each function says what it does when the text sought for is not there.
-/

namespace ProtoCrud.Text

/-- The parts between the separators; a text without separator is one part. -/
def splitAll (separator : Char) : List Char → List (List Char)
  | [] => [[]]
  | c :: rest =>
    if c = separator then [] :: splitAll separator rest
    else match splitAll separator rest with
      | [] => [[c]]
      | part :: parts => (c :: part) :: parts

def splitFirst? (separator : Char) : List Char → Option (List Char × List Char)
  | [] => none
  | c :: rest =>
    if c = separator then some ([], rest)
    else (splitFirst? separator rest).map fun (before, after) ↦ (c :: before, after)

def splitLast? (separator : Char) : List Char → Option (List Char × List Char)
  | [] => none
  | c :: rest =>
    match splitLast? separator rest with
    | some (before, after) => some (c :: before, after)
    | none => if c = separator then some ([], rest) else none

/-- What precedes the first pair of colons in a text, or the whole text if there is none. -/
def beforeColons : List Char → List Char
  | ':' :: ':' :: _ => []
  | c :: rest => c :: beforeColons rest
  | [] => []

/-- What follows the last `::` in a text, or the whole text if there is none. -/
def afterLastColons (text : List Char) : List Char :=
  (beforeColons text.reverse).reverse

/-- What follows `start` in a text that begins with it. -/
def afterStart? : (start text : List Char) → Option (List Char)
  | [], text => some text
  | _ :: _, [] => none
  | s :: start, c :: text => if s = c then afterStart? start text else none

/-- What precedes `ending` in a text that ends with it. -/
def beforeEnd? (ending text : List Char) : Option (List Char) :=
  (afterStart? ending.reverse text.reverse).map List.reverse

theorem length_afterStart? {start text rest : List Char} (h : afterStart? start text = some rest) :
    text.length = start.length + rest.length := by
  induction start generalizing text with
  | nil => simp_all [afterStart?]
  | cons s start ih =>
    cases text with
    | nil => simp [afterStart?] at h
    | cons c text =>
      simp only [afterStart?] at h
      split at h
      · have := ih h
        simp only [List.length_cons]
        omega
      · simp at h

/--
The text with every occurrence of the non-empty text `head :: tail` replaced, from left to right;
occurrences do not overlap.
-/
def replaceAll (head : Char) (tail replacement text : List Char) : List Char :=
  match text with
  | [] => []
  | c :: rest =>
    match _found : afterStart? (head :: tail) (c :: rest) with
    | some behind => replacement ++ replaceAll head tail replacement behind
    | none => c :: replaceAll head tail replacement rest
  termination_by text.length
  decreasing_by
  · have := length_afterStart? _found
    simp only [List.length_cons] at this ⊢
    omega
  · simp

/-- The text without the copies of `::` at its end. -/
def dropColonsEnd (text : List Char) : List Char :=
  (dropPairs text.reverse).reverse
where
  /-- The text without the pairs of colons at its beginning. -/
  dropPairs : List Char → List Char
    | ':' :: ':' :: rest => dropPairs rest
    | text => text

/-- The text without white space at its two ends. -/
def trimBlank (text : List Char) : List Char :=
  ((text.dropWhile isBlank).reverse.dropWhile isBlank).reverse

end ProtoCrud.Text
