import ProtoCrud.Code.Layout.Step

/-!
# Breaking lines

Steps are put into a queue until it is known whether what they begin fits on the line. An entry of
the queue is open as long as it is not known how far it is from there to the next place where the
line may end; the queue is written from its front for as long as the front is not open, and the
front is settled as too wide as soon as the queue is wider than the line has room.
-/

namespace ProtoCrud.Code.Layout

/-- How wide a line may be. -/
def margin : Int := 89

/-- How much room a line has in any case. -/
def leastRoom : Int := 60

structure Entry where
  step : Step
  /-- How far it reaches; below zero as long as it is open. -/
  size : Int

structure Box where
  /-- The indentation around the box, if the box does not fit on the line. -/
  outer : Option Nat
  consistent : Bool
  deriving DecidableEq, Repr

/-- What has been written, and what is still in the queue. -/
structure Writer where
  output : String := ""
  /-- The room that is left on the line. -/
  room : Int := margin
  /-- All entries; those in front of the place `front` have been written. -/
  queue : Array Entry := #[]
  front : Nat := 0
  /-- The width of what has been written from the queue. -/
  written : Int := 0
  /-- The width of what has been put into the queue. -/
  queued : Int := 0
  /-- The places of the open entries, the last one first. -/
  openPlaces : List Nat := []
  /-- The boxes that are being written, the innermost first. -/
  boxes : List Box := []
  indent : Nat := 0
  /-- Blanks that are written only if a text follows. -/
  pending : Nat := 0

namespace Writer

def writePending (writer : Writer) : Writer :=
  { writer with
    output := writer.output ++ String.ofList (List.replicate writer.pending ' '), pending := 0 }

def writeText (text : String) (writer : Writer) : Writer :=
  let writer := writer.writePending
  { writer with output := writer.output ++ text, room := writer.room - text.utf8ByteSize }

def writeOpening (offset : Int) (consistent : Bool) (size : Int) (writer : Writer) : Writer :=
  if size > writer.room then
    { writer with
      boxes := ⟨some writer.indent, consistent⟩ :: writer.boxes,
      indent := (writer.indent + offset).toNat }
  else { writer with boxes := ⟨none, consistent⟩ :: writer.boxes }

def writeClosing (writer : Writer) : Writer :=
  match writer.boxes with
  | [] => writer
  | box :: boxes => { writer with boxes := boxes, indent := box.outer.getD writer.indent }

def goesOn (gap : Gap) (size : Int) (writer : Writer) : Bool :=
  gap.never ||
    match writer.boxes with
    | ⟨none, _⟩ :: _ => true
    | ⟨some _, true⟩ :: _ => false
    | _ => size ≤ writer.room

def writeGap (gap : Gap) (size : Int) (writer : Writer) : Writer :=
  if writer.goesOn gap size then
    { writer with
      pending := writer.pending + gap.blanks,
      room := writer.room - gap.blanks - gap.between.utf8ByteSize,
      output := writer.output ++ gap.between }
  else
    let ended := if gap.atEnd.isEmpty then writer else
      { writer.writePending with output := writer.writePending.output ++ gap.atEnd }
    let indent := ended.indent + gap.offset
    let next := { ended with
      output := ended.output ++ "\n", pending := indent.toNat,
      room := max (margin - indent) leastRoom }
    if gap.atStart.isEmpty then next else next.writeText gap.atStart

/-- Whether nothing is in the queue. -/
def isEmpty (writer : Writer) : Bool :=
  writer.queue.size ≤ writer.front

def writeEntry (entry : Entry) (writer : Writer) : Writer :=
  match entry.step with
  | .text text => { writer with written := writer.written + entry.size }.writeText text
  | .gap gap => { writer with written := writer.written + gap.blanks }.writeGap gap entry.size
  | .opening offset consistent => writer.writeOpening offset consistent entry.size
  | .closing => writer.writeClosing
  | .closingWithin _ => writer.writeClosing
  | .impossible => writer

/-- Writes the queue up to the first open entry, at most `rounds` entries. -/
def advanceWithin : (rounds : Nat) → Writer → Writer
  | 0, writer => writer
  | rounds + 1, writer =>
    match writer.queue[writer.front]? with
    | none => writer
    | some entry =>
      if entry.size < 0 then writer
      else advanceWithin rounds
        ({ writer with front := writer.front + 1 }.writeEntry entry)

/-- Writes the queue up to the first open entry. -/
def advance (writer : Writer) : Writer :=
  advanceWithin (writer.queue.size - writer.front) writer

/-- An entry of the queue with another size. -/
def resize (place : Nat) (change : Int → Int) (writer : Writer) : Writer :=
  { writer with
    queue := writer.queue.modify place fun entry ↦ { entry with size := change entry.size } }

/-- The front settled as too wide if it is open. -/
def settleFront (writer : Writer) : Writer :=
  if writer.openPlaces.getLast? = some writer.front then
    { writer with openPlaces := writer.openPlaces.dropLast }.resize writer.front
      fun _ ↦ endless
  else writer

/-- Writes from the queue while it is wider than the room on the line, at most `rounds` times. -/
def relieveWithin : (rounds : Nat) → Writer → Writer
  | 0, writer => writer
  | rounds + 1, writer =>
    if writer.isEmpty || writer.queued - writer.written ≤ writer.room then writer
    else relieveWithin rounds writer.settleFront.advance

/-- Writes from the queue while it is wider than the room on the line. -/
def relieve (writer : Writer) : Writer :=
  relieveWithin (writer.queue.size - writer.front + 1) writer

/-- Closes the open entries from the last one, with `depth` boxes to be closed as well. -/
def settle : List Nat → (depth : Nat) → Writer → Writer
  | [], _, writer => { writer with openPlaces := [] }
  | place :: others, depth, writer =>
    match writer.queue[place]? with
    | none => { writer with openPlaces := place :: others }
    | some entry =>
      match entry.step, depth with
      | .opening _ _, 0 => { writer with openPlaces := place :: others }
      | .opening _ _, depth + 1 =>
        settle others depth (writer.resize place (· + writer.queued))
      | .gap _, 0 =>
        { writer.resize place (· + writer.queued) with openPlaces := others }
      | .gap _, depth + 1 =>
        settle others (depth + 1) (writer.resize place (· + writer.queued))
      | _, depth => settle others (depth + 1) (writer.resize place fun _ ↦ 1)

/-- Closes the open entries that a gap or the end of all closes. -/
def settled (writer : Writer) : Writer :=
  settle writer.openPlaces 0 writer

/-- Puts an entry into the queue that is open. -/
def push (step : Step) (size : Int) (writer : Writer) : Writer :=
  { writer with
    queue := writer.queue.push ⟨step, size⟩,
    openPlaces := writer.queue.size :: writer.openPlaces }

/-- A writer whose widths begin anew if nothing is open. -/
def anew (writer : Writer) : Writer :=
  if writer.openPlaces.isEmpty then { writer with written := 1, queued := 1 } else writer

def putText (text : String) (size : Int) (writer : Writer) : Writer :=
  { writer with
    queue := writer.queue.push ⟨.text text, size⟩, queued := writer.queued + size }

def lastSteps (writer : Writer) : Option Step × Option Step :=
  let size := writer.queue.size - writer.front
  (if size < 1 then none else (writer.queue.back?).map (·.step),
    if size < 2 then none else (writer.queue[writer.queue.size - 2]?).map (·.step))

/-- Takes the last entry from the queue, which is open and a gap or the beginning of a box. -/
def pop (writer : Writer) : Writer :=
  { writer with queue := writer.queue.pop, openPlaces := writer.openPlaces.drop 1 }

/-- The end of a box; a box of a single gap is left out, and so are some gaps in front of it. -/
def close (writer : Writer) : Writer :=
  if writer.openPlaces.isEmpty then writer.writeClosing
  else
    match writer.lastSteps with
    | (some (.gap gap), some (.opening _ _)) =>
      { writer.pop.pop with queued := writer.queued - gap.blanks }
    | (some (.gap gap), _) =>
      if gap.onlyInside then
        { writer.pop with queued := writer.queued - gap.blanks }.push .closing (-1)
      else writer.push .closing (-1)
    | _ => writer.push .closing (-1)

/-- The width of the innermost box that is not closed, if its beginning is open. -/
def innermostWidth? (writer : Writer) : List Nat → (depth : Nat) → Option Int
  | [], _ => none
  | place :: others, depth =>
    match writer.queue[place]? with
    | none => none
    | some entry =>
      match entry.step, depth with
      | .opening _ _, 0 => some (entry.size + writer.queued)
      | .opening _ _, depth + 1 => innermostWidth? writer others depth
      | .gap _, depth => innermostWidth? writer others depth
      | _, depth => innermostWidth? writer others (depth + 1)

def take (writer : Writer) : Step → Writer
  | .text text =>
    if writer.openPlaces.isEmpty then writer.writeText text
    else (writer.putText text text.utf8ByteSize).relieve
  | .gap gap =>
    let ready := if writer.openPlaces.isEmpty then writer.anew else writer.settled
    let pushed := ready.push (.gap gap) (-ready.queued)
    { pushed with queued := pushed.queued + gap.blanks }
  | .opening offset consistent =>
    let ready := writer.anew
    ready.push (.opening offset consistent) (-ready.queued)
  | .closing => writer.close
  | .closingWithin width =>
    match innermostWidth? writer writer.openPlaces 0 with
    | some actual =>
      if actual > width then (writer.putText "" endless).close else writer.close
    | none => writer.close
  | .impossible => writer

def finish (writer : Writer) : Writer :=
  if writer.openPlaces.isEmpty then writer else writer.settled.advance

end Writer

/-- The text of a layout. -/
def render (steps : Steps) : String :=
  (steps.foldl Writer.take {}).finish.output

end ProtoCrud.Code.Layout
