import ProtoCrud.Record.Error
import ProtoCrud.Sql.Statement

/-!
# Sessions: what an operation does with a store

A session is a tree of steps. Each step asks for something, an id or the answer of the store to
one call, and continues with what it gets; nothing else about the store is known to it. Running a
session against a backend threads the state of the backend through the steps, in order.
-/

namespace ProtoCrud.Record

open Sql

abbrev Answer (α : Type) := Except StoreError α

/-- The steps of an operation and its result. -/
inductive Session (α : Type) where
  /-- The operation is over. -/
  | done (result : α)
  /-- Draws an id that was never drawn before. -/
  | freshId (next : String → Session α)
  /-- Runs a statement and learns how many rows it affected. -/
  | execute (call : Call) (next : Answer UInt64 → Session α)
  /-- Fetches at most one row of the given shape. -/
  | fetchOptional (call : Call) (shape : List ColumnKind) (next : Answer (Option Row) → Session α)
  /-- Fetches all rows, of the given shape. -/
  | fetchAll (call : Call) (shape : List ColumnKind) (next : Answer (List Row) → Session α)

def Session.map {α β : Type} (f : α → β) : Session α → Session β
  | .done result => .done (f result)
  | .freshId next => .freshId fun id ↦ (next id).map f
  | .execute call next => .execute call fun answer ↦ (next answer).map f
  | .fetchOptional call shape next => .fetchOptional call shape fun answer ↦ (next answer).map f
  | .fetchAll call shape next => .fetchAll call shape fun answer ↦ (next answer).map f

/-- What answers the steps of sessions, with a state of its own. -/
structure Backend (σ : Type) where
  freshId : σ → String × σ
  execute : Call → σ → Answer UInt64 × σ
  fetchOptional : Call → List ColumnKind → σ → Answer (Option Row) × σ
  fetchAll : Call → List ColumnKind → σ → Answer (List Row) × σ

def Session.run {α σ : Type} (backend : Backend σ) : Session α → σ → α × σ
  | .done result, state => (result, state)
  | .freshId next, state =>
    let (id, state) := backend.freshId state
    (next id).run backend state
  | .execute call next, state =>
    let (answer, state) := backend.execute call state
    (next answer).run backend state
  | .fetchOptional call shape next, state =>
    let (answer, state) := backend.fetchOptional call shape state
    (next answer).run backend state
  | .fetchAll call shape next, state =>
    let (answer, state) := backend.fetchAll call shape state
    (next answer).run backend state

end ProtoCrud.Record
