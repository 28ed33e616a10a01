import ProtoCrud.Proofs.Record.Trace

/-!
# Exchanges: calls with their answers

An exchange is a call together with what the store answered. The exchanges of an operation follow
its script: as long as an answer lets the operation go on, the next call of the script is made, and
the first answer that does not ends the operation with the status that this answer is given. Which
answers end an operation, and how, is one table for all five operations.
-/

namespace ProtoCrud.Record

open Sql Query

/-! ## Exchanges of sessions -/

/-- A call with the answer of the store. -/
inductive Exchange where
  | executed (call : Call) (answer : Answer UInt64)
  | fetchedOptional (call : Call) (shape : List ColumnKind) (answer : Answer (Option Row))
  | fetchedAll (call : Call) (shape : List ColumnKind) (answer : Answer (List Row))

namespace Exchange

def event : Exchange → Event
  | .executed call _ => .execute call
  | .fetchedOptional call shape _ => .fetchOptional call shape
  | .fetchedAll call shape _ => .fetchAll call shape

def failure? : Exchange → Option StoreError
  | .executed _ (.error e) => some e
  | .fetchedOptional _ _ (.error e) => some e
  | .fetchedAll _ _ (.error e) => some e
  | _ => none

end Exchange

def Session.exchanges {α σ : Type} (backend : Backend σ) : Session α → σ → List Exchange
  | .done _, _ => []
  | .freshId next, state =>
    (next (backend.freshId state).1).exchanges backend (backend.freshId state).2
  | .execute call next, state =>
    .executed call (backend.execute call state).1 ::
      (next (backend.execute call state).1).exchanges backend (backend.execute call state).2
  | .fetchOptional call shape next, state =>
    .fetchedOptional call shape (backend.fetchOptional call shape state).1 ::
      (next (backend.fetchOptional call shape state).1).exchanges backend
        (backend.fetchOptional call shape state).2
  | .fetchAll call shape next, state =>
    .fetchedAll call shape (backend.fetchAll call shape state).1 ::
      (next (backend.fetchAll call shape state).1).exchanges backend
        (backend.fetchAll call shape state).2

section Sessions

variable {α σ : Type} (backend : Backend σ) (state : σ)

@[simp]
theorem exchanges_map {β : Type} (f : α → β) (session : Session α) :
    (session.map f).exchanges backend state = session.exchanges backend state := by
  induction session generalizing state with
  | done result => rfl
  | freshId next ih => exact ih _ _
  | execute call next ih => exact congrArg _ (ih _ _)
  | fetchOptional call shape next ih => exact congrArg _ (ih _ _)
  | fetchAll call shape next ih => exact congrArg _ (ih _ _)

/-- Without their answers, the exchanges are the calls of the trace. -/
theorem map_event_exchanges (session : Session α) :
    (session.exchanges backend state).map Exchange.event = session.events backend state := by
  induction session generalizing state with
  | done result => rfl
  | freshId next ih => exact ih _ _
  | execute call next ih => exact congrArg _ (ih _ _)
  | fetchOptional call shape next ih => exact congrArg _ (ih _ _)
  | fetchAll call shape next ih => exact congrArg _ (ih _ _)

end Sessions

/-! ## The five operations -/

inductive Operation where
  | create (row : NewRow)
  | get (id : String)
  | update (id : String) (changes : Changes)
  | delete (id : String)
  | list (query : ListQuery)

/-- What an operation gives back when it succeeds. -/
inductive Result (α : Type) where
  | record (record : α)
  | removed
  | page (page : Page α)

/-- The status under which a result is reported, if it is a failure. -/
def status? {β : Type} : Except OperationError β → Option Status
  | .ok _ => none
  | .error e => some e.status

@[simp]
theorem status?_map {β γ : Type} (f : β → γ) (result : Except OperationError β) :
    status? (result.map f) = status? result := by
  cases result <;> rfl

namespace Operation

variable {α : Type}

def session (mapping : Mapping α) : Operation → Session (Except OperationError (Result α))
  | .create row => (Record.create mapping row).map (Except.map .record)
  | .get id => (Record.get mapping id).map (Except.map .record)
  | .update id changes => (Record.update mapping id changes).map (Except.map .record)
  | .delete id => (Record.delete mapping id).map (Except.map fun _ ↦ .removed)
  | .list query => (Record.list mapping query).map (Except.map .page)

/-- The calls of an operation that nothing stops, when the given id is drawn for a new row. -/
def script (table : Table) (drawn : String) : Operation → List Event
  | .create row => [.execute (table.insertCall drawn row), table.selectEvent drawn]
  | .get id => [table.selectEvent id]
  | .update id changes => [.execute (table.updateCall id changes), table.selectEvent id]
  | .delete id => [table.deleteEvent id]
  | .list query =>
    [.fetchOptional (table.countCall query) [.int], .fetchAll (table.pageCall query) table.shape]

/-- Whether the input passes the checks and the id, given or drawn, is not empty. -/
def IsValid (drawn : String) : Operation → Prop
  | .create row => require row.required = .ok () ∧ drawn ≠ ""
  | .get id => id ≠ ""
  | .update id changes => id ≠ "" ∧ changes.assignments ≠ []
  | .delete id => id ≠ ""
  | .list _ => True

/-- Whether a fetched row can be read: as a total in a list, and else as a record. -/
def canRead (mapping : Mapping α) (operation : Operation) (row : Row) : Bool :=
  match operation with
  | .list _ => (row.cursor.take .int64).1.isOk
  | _ => (mapping.fromRow row).isOk

/--
The status with which an exchange ends an operation, if it does. A unique violation is that of the
new row in a create, and an internal failure elsewhere; a row that is not there is not found in a
get and in an update, was lost by the store in a create, and leaves the total of a list at nothing.
-/
def verdict? (mapping : Mapping α) (operation : Operation) : Exchange → Option Status
  | .executed _ (.error (.uniqueViolation _)) =>
    match operation with
    | .create _ => some .alreadyExists
    | _ => some .internal
  | .executed _ (.error (.backend _)) => some .internal
  | .executed _ (.ok affected) =>
    match operation with
    | .delete _ => if affected = 0 then some .notFound else none
    | _ => none
  | .fetchedOptional _ _ (.error _) => some .internal
  | .fetchedOptional _ _ (.ok none) =>
    match operation with
    | .create _ => some .internal
    | .list _ => none
    | _ => some .notFound
  | .fetchedOptional _ _ (.ok (some row)) =>
    if operation.canRead mapping row then none else some .internal
  | .fetchedAll _ _ (.error _) => some .internal
  | .fetchedAll _ _ (.ok rows) =>
    if rows.all fun row ↦ (mapping.fromRow row).isOk then none else some .internal

end Operation

/-! ## Following a script -/

/--
Exchanges that follow a script, with the result that they lead to: every exchange but the last goes
without a verdict, and the verdict of the last one, if there is one, is the status of the result.
-/
inductive Follows {β : Type} (verdict? : Exchange → Option Status) :
    List Event → List Exchange → Except OperationError β → Prop
  | finished (value : β) : Follows verdict? [] [] (.ok value)
  | ended {event : Event} {exchange : Exchange} {e : OperationError} (script : List Event)
      (hevent : exchange.event = event) (hverdict : verdict? exchange = some e.status) :
      Follows verdict? (event :: script) [exchange] (.error e)
  | proceeded {event : Event} {exchange : Exchange} {script : List Event}
      {exchanges : List Exchange} {result : Except OperationError β}
      (hevent : exchange.event = event) (hverdict : verdict? exchange = none)
      (hrest : Follows verdict? script exchanges result) :
      Follows verdict? (event :: script) (exchange :: exchanges) result

namespace Follows

variable {β : Type} {verdict? : Exchange → Option Status} {script : List Event}
  {exchanges : List Exchange} {result : Except OperationError β}

theorem map {γ : Type} (f : β → γ) (h : Follows verdict? script exchanges result) :
    Follows verdict? script exchanges (result.map f) := by
  induction h with
  | finished value => exact finished (f value)
  | ended script hevent hverdict => exact ended script hevent hverdict
  | proceeded hevent hverdict _ ih => exact proceeded hevent hverdict ih

theorem events_prefix (h : Follows verdict? script exchanges result) :
    exchanges.map Exchange.event <+: script := by
  induction h with
  | finished value => exact List.prefix_rfl
  | ended script hevent _ =>
    rw [List.map_cons, hevent]
    apply (List.prefix_cons_inj _).mpr
    exact List.nil_prefix
  | proceeded hevent _ _ ih =>
    rw [List.map_cons, hevent]
    apply (List.prefix_cons_inj _).mpr
    exact ih

theorem verdict_dropLast (h : Follows verdict? script exchanges result) :
    ∀ exchange ∈ exchanges.dropLast, verdict? exchange = none := by
  induction h with
  | finished value => exact List.forall_mem_nil _
  | ended script _ _ => exact List.forall_mem_nil _
  | @proceeded _ exchange _ exchanges _ _ hverdict _ ih =>
    cases exchanges with
    | nil => exact List.forall_mem_nil _
    | cons next rest =>
      rw [List.dropLast_cons_cons]
      exact List.forall_mem_cons.mpr ⟨hverdict, ih⟩

/-- A failure has the status that some exchange was given. -/
theorem status?_eq_some_iff (h : Follows verdict? script exchanges result) (status : Status) :
    status? result = some status ↔ ∃ exchange ∈ exchanges, verdict? exchange = some status := by
  induction h with
  | finished value => simp [status?]
  | ended script _ hverdict => simp [status?, hverdict]
  | proceeded _ hverdict _ ih => simp [ih, hverdict]

/-- An operation succeeds if it makes all its calls and no answer ends it. -/
theorem status?_eq_none_iff (h : Follows verdict? script exchanges result) :
    status? result = none ↔
      exchanges.map Exchange.event = script ∧ ∀ exchange ∈ exchanges, verdict? exchange = none := by
  induction h with
  | finished value => simp [status?]
  | ended script _ hverdict => simp [status?, hverdict]
  | proceeded hevent hverdict _ ih => simp [ih, hevent, hverdict]

end Follows

/-! ## Each operation follows its script -/

section Scripts

variable {α σ : Type} (mapping : Mapping α) (backend : Backend σ) (state : σ)

/-- What becomes of the answer to the read of a row, if a missing row is reported as given. -/
def Mapping.readAs (missing : OperationError) : Answer (Option Row) → Except OperationError α
  | .error e => .error (.storage mapping.table.entity .get e)
  | .ok none => .error missing
  | .ok (some row) => mapping.decode row

def Table.selectExchange (table : Table) (id : String) (answer : Answer (Option Row)) : Exchange :=
  .fetchedOptional ⟨table.selection, [.text id]⟩ table.shape answer

/-- A get is one exchange, and its result is read off the answer. -/
theorem exists_exchange_get {id : String} (hid : id ≠ "") :
    ∃ answer, (get mapping id).exchanges backend state = [mapping.table.selectExchange id answer] ∧
      ((get mapping id).run backend state).1 =
        mapping.readAs (.notFound mapping.table.entity) answer := by
  refine ⟨(backend.fetchOptional ⟨mapping.table.selection, [.text id]⟩ mapping.table.shape
    state).1, ?_, ?_⟩
  · unfold get
    rw [if_neg hid, Session.exchanges]
    unfold Table.selectExchange Table.selection
    split <;> rfl
  · unfold get
    rw [if_neg hid, Session.run_fetchOptional]
    unfold Table.selection
    split <;> next h => rw [h]; rfl

/-- In a create, a row that is missing when it is read back is a failure of the store. -/
theorem afterInsert_readAs (answer : Answer (Option Row)) :
    afterInsert mapping.table (mapping.readAs (.notFound mapping.table.entity) answer) =
      mapping.readAs (.storage mapping.table.entity .readBack
        (.backend "row missing after insert")) answer := by
  match answer with
  | .error e => rfl
  | .ok none => rfl
  | .ok (some row) => exact afterInsert_decode mapping row

/-- The read of a row ends an operation as the verdict on its answer says. -/
theorem follows_readAs {operation : Operation} {missing : OperationError} {id : String}
    (hmissing : operation.verdict? mapping (mapping.table.selectExchange id (.ok none)) =
      some missing.status)
    (hcanRead : ∀ row, operation.canRead mapping row = (mapping.fromRow row).isOk)
    (answer : Answer (Option Row)) :
    Follows (operation.verdict? mapping) [mapping.table.selectEvent id]
      [mapping.table.selectExchange id answer] (mapping.readAs missing answer) := by
  match answer with
  | .error e => exact .ended [] rfl rfl
  | .ok none => exact .ended [] rfl hmissing
  | .ok (some row) =>
    have hverdict := hcanRead row
    rw [Mapping.readAs, Mapping.decode]
    cases hrow : mapping.fromRow row with
    | error e =>
      rw [hrow] at hverdict
      exact .ended [] rfl (if_neg (by rw [hverdict]; exact Bool.false_ne_true))
    | ok record =>
      rw [hrow] at hverdict
      exact .proceeded rfl (if_pos hverdict) (.finished record)

theorem follows_get {id : String} (hid : id ≠ "") :
    Follows ((Operation.get id).verdict? mapping) [mapping.table.selectEvent id]
      ((get mapping id).exchanges backend state) ((get mapping id).run backend state).1 := by
  obtain ⟨answer, hexchanges, hresult⟩ := exists_exchange_get mapping backend state hid
  rw [hexchanges, hresult]
  exact follows_readAs mapping rfl (fun _ ↦ rfl) answer

theorem follows_create {row : NewRow} (hrequired : require row.required = .ok ())
    (hid : (backend.freshId state).1 ≠ "") :
    Follows ((Operation.create row).verdict? mapping)
      ((Operation.create row).script mapping.table (backend.freshId state).1)
      ((create mapping row).exchanges backend state)
      ((create mapping row).run backend state).1 := by
  let id := (backend.freshId state).1
  unfold create
  simp only [hrequired]
  rw [Session.exchanges, Session.exchanges, Session.run_freshId, Session.run_execute]
  change Follows _ (.execute (mapping.table.insertCall id row) :: _) _ _
  match backend.execute ⟨mapping.table.insertion, .text id :: row.values ++ [row.createdBy]⟩
    (backend.freshId state).2 with
  | (.error (.uniqueViolation detail), _) => exact .ended _ rfl rfl
  | (.error (.backend detail), _) => exact .ended _ rfl rfl
  | (.ok affected, written) =>
    refine .proceeded rfl rfl ?_
    obtain ⟨answer, hexchanges, hresult⟩ := exists_exchange_get mapping backend written hid
    simp only
    rw [exchanges_map, Session.run_map, hexchanges, hresult, afterInsert_readAs]
    exact follows_readAs mapping rfl (fun _ ↦ rfl) answer

theorem follows_update {id : String} (hid : id ≠ "") {changes : Changes}
    (hne : changes.assignments ≠ []) :
    Follows ((Operation.update id changes).verdict? mapping)
      ((Operation.update id changes).script mapping.table (backend.freshId state).1)
      ((update mapping id changes).exchanges backend state)
      ((update mapping id changes).run backend state).1 := by
  unfold update
  rw [if_neg hid, if_neg (by simpa using hne), Session.exchanges, Session.run_execute]
  change Follows _ (.execute (mapping.table.updateCall id changes) :: _) _ _
  match backend.execute ⟨mapping.table.alteration (changes.assignments.map Prod.fst),
    changes.assignments.map Prod.snd ++ [changes.updatedBy, .text id]⟩ state with
  | (.error (.uniqueViolation detail), _) => exact .ended _ rfl rfl
  | (.error (.backend detail), _) => exact .ended _ rfl rfl
  | (.ok affected, written) =>
    refine .proceeded rfl rfl ?_
    obtain ⟨answer, hexchanges, hresult⟩ := exists_exchange_get mapping backend written hid
    simp only
    rw [hexchanges, hresult]
    exact follows_readAs mapping rfl (fun _ ↦ rfl) answer

theorem follows_delete {id : String} (hid : id ≠ "") :
    Follows ((Operation.delete id).verdict? mapping) [mapping.table.deleteEvent id]
      ((delete mapping id).exchanges backend state) ((delete mapping id).run backend state).1 := by
  unfold delete
  rw [if_neg hid, Session.exchanges, Session.run_execute]
  match backend.execute ⟨.delete mapping.table.name, [.text id]⟩ state with
  | (.error (.uniqueViolation detail), _) => exact .ended _ rfl rfl
  | (.error (.backend detail), _) => exact .ended _ rfl rfl
  | (.ok affected, _) =>
    by_cases haffected : affected = 0
    · simp only [haffected, if_true]
      exact .ended _ rfl rfl
    · simp only [haffected, if_false]
      exact .proceeded rfl (if_neg haffected) (.finished ())

/-- The answer to a count ends a list if it has no total to read. -/
theorem verdict?_count (query : ListQuery) (call : Call) (shape : List ColumnKind)
    (row : Option Row) :
    (Operation.list query).verdict? mapping (.fetchedOptional call shape (.ok row)) =
      status? (readTotal mapping.table row) := by
  cases row with
  | none => rfl
  | some row =>
    rw [readTotal, Operation.verdict?, Operation.canRead]
    cases (row.cursor.take .int64).1 <;> rfl

/-- The rows of a page end a list if one of them does not decode. -/
theorem verdict?_page (query : ListQuery) (call : Call) (shape : List ColumnKind)
    (rows : List Row) :
    (Operation.list query).verdict? mapping (.fetchedAll call shape (.ok rows)) =
      status? (mapping.decodeAll rows) := by
  change (if rows.all fun row ↦ (mapping.fromRow row).isOk then none else some .internal) =
    status? (mapping.decodeAll rows)
  induction rows with
  | nil => rfl
  | cons row rows ih =>
    rw [Mapping.decodeAll, Mapping.decode, List.all_cons]
    cases mapping.fromRow row with
    | error e => rfl
    | ok record =>
      dsimp only [Except.mapError]
      rw [status?_map, ← ih]
      rfl

def Mapping.readPage (query : ListQuery) (total : Int64) :
    Answer (List Row) → Except OperationError (Page α)
  | .error e => .error (.storage mapping.table.entity .list e)
  | .ok rows => (mapping.decodeAll rows).map fun items ↦
      ⟨items, total, query.pagination.page, query.pagination.pageSize⟩

/--
What a list can do: the count fails, or its answer has no total to read, or the page is read. The
result is read off the last answer.
-/
theorem list_cases (query : ListQuery) :
    (∃ e, (list mapping query).exchanges backend state =
          [.fetchedOptional (mapping.table.countCall query) [.int] (.error e)] ∧
        ((list mapping query).run backend state).1 =
          .error (.storage mapping.table.entity .count e)) ∨
      (∃ row e, readTotal mapping.table row = .error e ∧
        (list mapping query).exchanges backend state =
          [.fetchedOptional (mapping.table.countCall query) [.int] (.ok row)] ∧
        ((list mapping query).run backend state).1 = .error e) ∨
      ∃ row total answer, readTotal mapping.table row = .ok total ∧
        (list mapping query).exchanges backend state =
          [.fetchedOptional (mapping.table.countCall query) [.int] (.ok row),
            .fetchedAll (mapping.table.pageCall query) mapping.table.shape answer] ∧
        ((list mapping query).run backend state).1 = mapping.readPage query total answer := by
  unfold list
  rw [Session.exchanges, Session.run_fetchOptional]
  change (∃ e, Exchange.fetchedOptional (mapping.table.countCall query) [.int] _ :: _ = _ ∧ _) ∨ _
  generalize backend.fetchOptional _ _ state = counted
  obtain ⟨answer, counted⟩ := counted
  cases answer with
  | error e => exact .inl ⟨e, rfl, rfl⟩
  | ok row =>
    dsimp only
    cases htotal : readTotal mapping.table row with
    | error e => exact .inr (.inl ⟨row, e, htotal, rfl, rfl⟩)
    | ok total =>
      dsimp only
      rw [Session.exchanges, Session.run_fetchAll]
      generalize backend.fetchAll _ _ counted = fetched
      obtain ⟨answer, fetched⟩ := fetched
      refine .inr (.inr ⟨row, total, answer, htotal, ?_, ?_⟩) <;> cases answer <;> rfl

theorem follows_list (query : ListQuery) :
    Follows ((Operation.list query).verdict? mapping)
      ((Operation.list query).script mapping.table (backend.freshId state).1)
      ((list mapping query).exchanges backend state)
      ((list mapping query).run backend state).1 := by
  have hcount := verdict?_count mapping query (mapping.table.countCall query) [.int]
  rcases list_cases mapping backend state query with
    ⟨e, hexchanges, hresult⟩ | ⟨row, e, htotal, hexchanges, hresult⟩ |
      ⟨row, total, answer, htotal, hexchanges, hresult⟩
  · rw [hexchanges, hresult]
    exact .ended _ rfl rfl
  · rw [hexchanges, hresult]
    refine .ended _ rfl ?_
    rw [hcount, htotal]
    rfl
  · rw [hexchanges, hresult]
    refine .proceeded rfl (by rw [hcount, htotal]; rfl) ?_
    cases answer with
    | error e => exact .ended _ rfl rfl
    | ok rows =>
      have hpage := verdict?_page mapping query (mapping.table.pageCall query)
        mapping.table.shape rows
      rw [Mapping.readPage]
      cases hrows : mapping.decodeAll rows with
      | error e =>
        rw [hrows] at hpage
        exact .ended _ rfl hpage
      | ok records =>
        rw [hrows] at hpage
        exact .proceeded rfl hpage (.finished _)

/-- Whatever the input is, an operation makes no calls but the first ones of its script. -/
theorem events_session_within (operation : Operation) :
    (operation.session mapping).events backend state <+:
      operation.script mapping.table (backend.freshId state).1 := by
  cases operation with
  | create row =>
    rw [Operation.session, events_map]
    exact events_create_within mapping backend state row
  | get id =>
    rw [Operation.session, events_map]
    exact events_get_within mapping backend state id
  | update id changes =>
    rw [Operation.session, events_map]
    exact events_update_within mapping backend state id changes
  | delete id =>
    rw [Operation.session, events_map]
    exact events_delete_within mapping backend state id
  | list query =>
    rw [Operation.session, events_map]
    exact events_list_within mapping backend state query

/-- With valid input, an operation follows its script. -/
theorem follows_session {operation : Operation}
    (hvalid : operation.IsValid (backend.freshId state).1) :
    Follows (operation.verdict? mapping) (operation.script mapping.table (backend.freshId state).1)
      ((operation.session mapping).exchanges backend state)
      ((operation.session mapping).run backend state).1 := by
  cases operation with
  | create row =>
    rw [Operation.session, exchanges_map, Session.run_map]
    exact (follows_create mapping backend state hvalid.1 hvalid.2).map _
  | get id =>
    rw [Operation.session, exchanges_map, Session.run_map]
    exact (follows_get mapping backend state hvalid).map _
  | update id changes =>
    rw [Operation.session, exchanges_map, Session.run_map]
    exact (follows_update mapping backend state hvalid.1 hvalid.2).map _
  | delete id =>
    rw [Operation.session, exchanges_map, Session.run_map]
    exact (follows_delete mapping backend state hvalid).map _
  | list query =>
    rw [Operation.session, exchanges_map, Session.run_map]
    exact (follows_list mapping backend state query).map _

end Scripts

end ProtoCrud.Record
