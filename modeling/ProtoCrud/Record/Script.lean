import ProtoCrud.Record.Session

/-!
# A store that replays a script

A scripted store answers each call with the next reply of a list, whatever the call asks for, and
notes the calls. A reply of the wrong kind and the end of the script are failures of the store.
-/

namespace ProtoCrud.Record

open Sql

inductive Reply where
  | affected (rows : UInt64)
  | optionalRow (row : Option Row)
  | rows (rows : List Row)
  | failure (error : StoreError)

inductive Event where
  | execute (call : Call)
  | fetchOptional (call : Call) (shape : List ColumnKind)
  | fetchAll (call : Call) (shape : List ColumnKind)

/-- The ids and replies that are left, and the calls made so far. -/
structure Script where
  ids : List String
  replies : List Reply
  events : List Event

namespace Script

/-- The next reply, as far as `read` accepts it, after the call has been noted. -/
def reply {α : Type} (script : Script) (event : Event) (read : Reply → Option α) :
    Answer α × Script :=
  let noted := { script with events := script.events ++ [event] }
  match script.replies with
  | [] => (.error (.backend "script exhausted"), noted)
  | .failure error :: rest => (.error error, { noted with replies := rest })
  | entry :: rest =>
    let answer := match read entry with
      | some a => .ok a
      | none => .error (.backend "wrong reply")
    (answer, { noted with replies := rest })

/-- Scripts as a backend. When the ids are used up, the empty id is drawn. -/
def backend : Backend Script where
  freshId script := (script.ids.headD "", { script with ids := script.ids.tail })
  execute call script := script.reply (.execute call) fun
    | .affected n => some n
    | _ => none
  fetchOptional call shape script := script.reply (.fetchOptional call shape) fun
    | .optionalRow row => some row
    | _ => none
  fetchAll call shape script := script.reply (.fetchAll call shape) fun
    | .rows rows => some rows
    | _ => none

end Script

end ProtoCrud.Record
