import ProtoCrud.Code.Grammar.Type
import ProtoCrud.Code.Literal

/-!
# Patterns

What a value is matched against: names, constants and ranges of them, and the parts of a structure,
tuple or slice. A closed range needs its end, and a range that is open on one side stands in
parentheses where a slice could take it for the rest of its items.
-/

namespace ProtoCrud.Code.Grammar

open Reader

variable (read : Rule → Reader Node)

/-- A pattern without alternatives. -/
def pattern : Reader Node :=
  read .pattern

/-- Whether a bar follows that parts two patterns. -/
def partsPatterns : Look :=
  Look.and (Look.sign "|") (Look.not (Look.or (Look.sign "||") (Look.sign "|=")))

/-- A pattern, of which there may be alternatives. -/
def alternatives : Reader Node := do
  let leading ← signIf "|"
  let first ← pattern read
  let rest ← whileSeen partsPatterns (do
    sign "|"
    pattern read)
  pure (if leading || !rest.isEmpty then .alternatives leading (first :: rest) else first)

/-- The sign of a range; whether it includes its end. -/
def rangeSign : Reader Bool :=
  choose [
    (Look.sign "..=", do
      sign "..="
      pure true),
    (Look.sign "...", failure),
    (Look.sign "..", do
      sign ".."
      pure false)]

/-- The sign of a range, of which there is an old one with three points. -/
def oldRangeSign : Reader Bool := do
  if ← signIf "..." then pure true else rangeSign

def endsRange : Look :=
  Look.oneOf [Look.finished, Look.sign "|", Look.sign "=",
    Look.and (Look.sign ":") (Look.not (Look.sign "::")), Look.sign ",", Look.sign ";",
    Look.word "if"]

def rangeBound : Reader Node :=
  choose [
    (Look.literal, return .literal (← literal)),
    (startsPath, qualifiedPath read true),
    (Look.word "const", do
      word "const"
      return .constBlock (← attributedBlock read))]

def rangeRest (first : Node) : Reader Node := do
  let closed ← oldRangeSign
  let last ← optional (Look.not endsRange) (rangeBound read)
  if closed && last.isNone then failure else pure (.range (some first) closed last)

/-- A range without beginning, or the rest of the items. -/
def rangeWithoutStart : Reader Node := do
  let closed ← rangeSign
  let last ← optional (Look.not endsRange) (rangeBound read)
  if last.isSome then pure (.range none closed last)
  else if closed then failure
  else pure .rest

/-- The name or the place of a field, and whether it is a name. -/
def member : Reader (Bool × String) :=
  choose [
    (Look.name, return (true, ← identifier)),
    (Look.literal, do
      match placeValue? (← literal).toList with
      | some value => pure (false, toString value)
      | none => failure)]

def fieldPattern : Reader Node := do
  let ((isBoxed, isReference, isMutable, isNamed, name), trees) ← spanned (do
    let isBoxed ← wordIf "box"
    let isReference ← wordIf "ref"
    let isMutable ← wordIf "mut"
    let (isNamed, name) ←
      if isBoxed || isReference || isMutable then pure (true, ← identifier) else member
    pure (isBoxed, isReference, isMutable, isNamed, name))
  if !isNamed || !isBoxed && !isReference && !isMutable && (← sees (Look.sign ":")) then
    sign ":"
    return .namedValue name true (← alternatives read)
  else if isBoxed then pure (.namedValue name false (.verbatim trees))
  else pure (.namedValue name false (.binding isReference isMutable name none))

/-- The fields of a structure and the rest of them, which comes last. -/
def fieldPatternsWithin : (rounds : Nat) → Reader (Row Node × Option Node)
  | 0 => failure
  | rounds + 1 => do
    if ← sees Look.finished then pure (.empty, none)
    else
      let attributes ← attributes read
      if ← signIf ".." then pure (.empty, some (attributed attributes .rest))
      else
        let field := attributed attributes (← fieldPattern read)
        if ← sees Look.finished then pure (rowFrom field none, none)
        else
          sign ","
          let (fields, rest) ← fieldPatternsWithin rounds
          pure (rowFrom field (some fields), rest)

def structPattern (path : Node) : Reader Node := do
  let (fields, rest) ← within .curly (do fieldPatternsWithin read (← room))
  pure (.structPattern path fields rest)

def pathPattern : Reader Node := do
  let path ← qualifiedPath read true
  match plainPath? path with
  | some plain =>
    choose [
      (startsInvocation, return .invocation (← invocationOf plain)),
      (otherwise, afterPath path)]
  | none => afterPath path
where
  /-- What goes on behind a path. -/
  afterPath (path : Node) : Reader Node :=
    choose [
      (Look.group .curly, structPattern read path),
      (Look.group .round, return .call path (← rowIn .round (alternatives read))),
      (Look.sign "..", rangeRest read path),
      (otherwise, pure path)]

def constantPattern : Reader Node := do
  let first ← if ← sees endsRange then failure else rangeBound read
  if ← sees (Look.sign "..") then rangeRest read first else pure first

/-- An item of a slice, which is no range with an open side. -/
def slicePattern : Reader Node := do
  match ← alternatives read with
  | .range (some first) closed (some last) => pure (.range (some first) closed (some last))
  | .range _ _ _ => failure
  | item => pure item

/-- Whether a path follows that a pattern begins with, and not just a name that it binds. -/
def startsPathPattern : Look :=
  Look.oneOf [
    Look.and Look.name (Look.behind 1 (Look.oneOf [Look.sign "::", Look.sign "!",
      Look.group .curly, Look.group .round, Look.sign ".."])),
    Look.and (Look.word "self") (Look.behind 1 (Look.sign "::")),
    Look.sign "::", Look.sign "<", Look.word "Self", Look.word "super", Look.word "crate"]

/-- A name that is bound, perhaps to what a pattern matches. -/
def nameBinding : Reader Node := do
  let isReference ← wordIf "ref"
  let isMutable ← wordIf "mut"
  let name ← wordThat (Look.or (Look.word "self") Look.name)
  let pattern ← optional (Look.sign "@") (do
    sign "@"
    pattern read)
  pure (.binding isReference isMutable name pattern)

def roundPattern : Reader Node := do
  match ← rowIn .round (alternatives read) with
  | ⟨[.rest], false⟩ => pure (.tuple ⟨[.rest], false⟩)
  | ⟨[pattern], false⟩ => pure (.parenthesised pattern)
  | items => pure (.tuple items)

def patternRule : Reader Node :=
  choose [
    (startsPathPattern, pathPattern read),
    (Look.word "_", do
      word "_"
      pure .underscore),
    (Look.word "box", do
      let (_, trees) ← spanned (do
        word "box"
        pattern read)
      pure (.verbatim trees)),
    (Look.oneOf [Look.sign "-", Look.literal, Look.word "const"], constantPattern read),
    (Look.oneOf [Look.word "ref", Look.word "mut", Look.word "self", Look.name],
      nameBinding read),
    (Look.sign "&", do
      sign "&"
      let isMutable ← wordIf "mut"
      return .reference isMutable (← pattern read)),
    (Look.group .round, roundPattern read),
    (Look.group .square, return .list (← rowIn .square (slicePattern read))),
    (Look.signOnly ".." "...", rangeWithoutStart read)]

end ProtoCrud.Code.Grammar
