/-!
# Steps of a layout

Code is laid out by steps: texts, gaps between them, and boxes around them. A box whose content fits
on the line has all its gaps on that line; of one that does not fit, either all gaps become ends of
lines or just those behind which the line would become too long. A gap may leave a sign behind at
the end of a line, or put one in front of the next, that is not there when the line goes on.
-/

namespace ProtoCrud.Code.Layout

/-- More than any line is long. -/
def endless : Nat := 0xffff

/-- How far the content of a box is moved to the right. -/
def indentation : Int := 4

/-- A gap: where a line may end. -/
structure Gap where
  /-- How many blanks it has on a line. -/
  blanks : Nat := 0
  /-- How much the next line is moved, compared with its box. -/
  offset : Int := 0
  /-- What stands at the end of a line. -/
  atEnd : String := ""
  /-- What stands at the beginning of the next line. -/
  atStart : String := ""
  /-- What stands on a line that goes on. -/
  between : String := ""
  /-- Whether it is left out at the end of a box. -/
  onlyInside : Bool := false
  /-- Whether a line never ends here. -/
  never : Bool := false
  deriving DecidableEq, Repr

inductive Step where
  | text (text : String)
  | gap (gap : Gap)
  /-- The beginning of a box, of which all gaps end lines if one does, or only those that must. -/
  | opening (offset : Int) (consistent : Bool)
  | closing
  /-- The end of a box that is not to be wider than that on one line. -/
  | closingWithin (width : Nat)
  /-- Something that cannot be laid out. -/
  | impossible
  deriving DecidableEq, Repr

abbrev Steps := List Step

def text (text : String) : Steps :=
  [.text text]

def textIf (given : Bool) (content : String) : Steps :=
  if given then text content else []

/-- A gap without blanks. -/
def zeroGap : Steps :=
  [.gap {}]

/-- A gap of one blank. -/
def space : Steps :=
  [.gap { blanks := 1 }]

def lineEnd : Steps :=
  [.gap { blanks := endless }]

/-- A gap where a line ends unless nothing follows. -/
def lineEndInside : Steps :=
  [.gap { blanks := endless, onlyInside := true }]

/-- A gap of one blank unless nothing follows. -/
def spaceInside : Steps :=
  [.gap { blanks := 1, onlyInside := true }]

def neverGap : Steps :=
  [.gap { never := true }]

/-- The comma behind an item; behind the last one it stands only at the end of a line. -/
def comma (isLast : Bool) : Steps :=
  if isLast then [.gap { atEnd := "," }] else text "," ++ space

/-- The comma behind an item; behind the last one it stands only at the end of a line. -/
def commaOrSpace (isLast : Bool) : Steps :=
  if isLast then [.gap { blanks := 1, atEnd := "," }] else text "," ++ space

/-- A box of which only those gaps end lines that must. -/
def filled (offset : Int) (content : Steps) : Steps :=
  .opening offset false :: content ++ [.closing]

/-- A box of which all gaps end lines if one does. -/
def boxed (offset : Int) (content : Steps) : Steps :=
  .opening offset true :: content ++ [.closing]

/-- Steps of which the last gap moves the next line back. -/
def outdented : Steps → Steps
  | [] => []
  | [.gap gap] => [.gap { gap with offset := gap.offset - indentation }]
  | [step] => [step]
  | step :: next :: rest => step :: outdented (next :: rest)

def withLast {α : Type} : List α → List (α × Bool)
  | [] => []
  | [item] => [(item, true)]
  | item :: next :: rest => (item, false) :: withLast (next :: rest)

def joined (between : Steps) : List Steps → Steps
  | [] => []
  | [item] => item
  | item :: next :: rest => item ++ between ++ joined between (next :: rest)

/-- Items with a comma behind each; behind the last one only at the end of a line. -/
def listed (items : List Steps) : Steps :=
  (withLast items).flatMap fun (item, isLast) ↦ item ++ comma isLast

/-- A box of items between two signs. -/
def enclosed (opening : String) (content : Steps) (closing : String) : Steps :=
  text opening ++ boxed indentation (outdented (zeroGap ++ content)) ++ text closing

end ProtoCrud.Code.Layout
