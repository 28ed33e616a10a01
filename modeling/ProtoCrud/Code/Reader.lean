import ProtoCrud.Code.Syntax

/-!
# Readers of bracketed code

A reader takes trees from the front of a list and gives back what it has read. It looks ahead to
decide what to read, and once it has begun it never turns back: code that does not go on as it began
is refused.
-/

namespace ProtoCrud.Code

/-- A reader: what it has read and the trees that are left, unless it refuses. -/
abbrev Reader (α : Type) := StateT (List Tree) Option α

namespace Reader

variable {α : Type}

/-- Whether a look holds of the code that follows. -/
def sees (look : Look) : Reader Bool :=
  return look (← get)

/-- More than the trees that follow, those in groups included. -/
def room : Reader Nat :=
  return treeCount (← get) + 1

def canRead (reader : Reader α) : Look :=
  fun trees ↦ (reader trees).isSome

/-- Reads the trees that `take?` takes from the front. -/
def taking (take? : List Tree → Option (α × List Tree)) : Reader α :=
  fun trees ↦ take? trees

def sign (text : String) : Reader Unit :=
  taking fun trees ↦
    if Look.sign text trees then some ((), trees.drop text.length) else none

def wordThat (look : Look) : Reader String :=
  taking fun trees ↦
    match trees with
    | .word text :: rest => if look trees then some (text, rest) else none
    | _ => none

def word (text : String) : Reader Unit := do
  let _ ← wordThat (Look.word text)

def identifier : Reader String :=
  wordThat Look.name

def anyWord : Reader String :=
  wordThat Look.anyWord

def lifetime : Reader String :=
  taking fun trees ↦
    match trees with
    | .lifetime name :: rest => some (name, rest)
    | _ => none

/-- Reads a literal; a number and its minus are one. -/
def literal : Reader String :=
  taking fun trees ↦
    if Look.literal trees then
      match trees with
      | .sign _ _ :: .literal text :: rest => some ("-" ++ text, rest)
      | .literal text :: rest => some (text, rest)
      | .word text :: rest => some (text, rest)
      | _ => none
    else none

def anyGroup : Reader (Bracket × List Tree) :=
  taking fun trees ↦
    match trees with
    | .group bracket content :: rest => some ((bracket, content), rest)
    | _ => none

/-- Reads the whole content of a group. -/
def within (bracket : Bracket) (inner : Reader α) : Reader α :=
  taking fun trees ↦
    match trees with
    | .group other content :: rest =>
      if other = bracket then
        match inner content with
        | some (result, []) => some (result, rest)
        | _ => none
      else none
    | _ => none

/-- Reads something, and gives back the trees that it took as well. -/
def spanned (reader : Reader α) : Reader (α × List Tree) := do
  let before ← get
  let result ← reader
  let after ← get
  pure (result, before.take (before.length - after.length))

def optional (look : Look) (reader : Reader α) : Reader (Option α) := do
  if ← sees look then return some (← reader) else pure none

/-- Reads a certain sign if it follows, and says whether it did. -/
def signIf (text : String) : Reader Bool :=
  return (← optional (Look.sign text) (sign text)).isSome

/-- Reads a certain word if it follows, and says whether it did. -/
def wordIf (text : String) : Reader Bool :=
  return (← optional (Look.word text) (word text)).isSome

/-- Reads the first alternative whose look holds. -/
def choose : List (Look × Reader α) → Reader α
  | [] => failure
  | (look, reader) :: others => do
    if ← sees look then reader else choose others

/-- Reads items as long as a look holds, at most `rounds` of them. -/
def whileWithin (look : Look) (item : Reader α) : (rounds : Nat) → Reader (List α)
  | 0 => pure []
  | rounds + 1 => do
    if ← sees look then
      let first ← item
      let rest ← whileWithin look item rounds
      pure (first :: rest)
    else pure []

/-- Reads items as long as a look holds; every item has at least one tree. -/
def whileSeen (look : Look) (item : Reader α) : Reader (List α) := do
  whileWithin look item (← room)

/-- A row with one more item in front, which a separator follows if something else does. -/
def rowFrom (first : α) (rest : Option (Row α)) : Row α :=
  match rest with
  | none => ⟨[first], false⟩
  | some row => ⟨first :: row.items, row.isEmpty || row.trailing⟩

/-- Reads items up to a stop, with separators between them, at most `rounds` of them. -/
def rowWithin (stop : Look) (separator : String) (item : Reader α) :
    (rounds : Nat) → Reader (Row α)
  | 0 => failure
  | rounds + 1 => do
    if ← sees stop then pure .empty
    else
      let first ← item
      if ← sees stop then pure (rowFrom first none)
      else
        sign separator
        let rest ← rowWithin stop separator item rounds
        pure (rowFrom first (some rest))

/-- Reads items up to a stop, with separators between them and perhaps one behind the last. -/
def rowUntil (stop : Look) (separator : String) (item : Reader α) : Reader (Row α) := do
  rowWithin stop separator item (← room)

/-- Reads items with separators between them, which go on where a look says so. -/
def chainWithin (goesOn : Look) (separator : String) (item : Reader α) :
    (rounds : Nat) → Reader (Row α)
  | 0 => failure
  | rounds + 1 => do
    if ← sees goesOn then
      let first ← item
      if ← sees (Look.sign separator) then
        sign separator
        let rest ← chainWithin goesOn separator item rounds
        pure (rowFrom first (some rest))
      else pure (rowFrom first none)
    else pure .empty

/-- Reads items for as long as there is a separator behind them; a stop may follow the last one. -/
def chainUntil (stop : Look) (separator : String) (item : Reader α) : Reader (Row α) := do
  chainWithin (Look.not stop) separator item (← room)

/-- Reads the items of a whole group, with separators between them and perhaps one at the end. -/
def rowIn (bracket : Bracket) (item : Reader α) : Reader (Row α) :=
  within bracket (rowUntil Look.finished "," item)

end Reader

end ProtoCrud.Code
