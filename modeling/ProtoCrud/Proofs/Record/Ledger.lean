import Mathlib.Logic.Function.Basic
import ProtoCrud.Proofs.Record.Engine

/-!
# Record operations on an engine, as operations on a ledger

A ledger gives every id its entry, and says what each request does to the entries without a word
about statements. On the table of an entity, whose names are words and whose select list is the id,
the writable columns and the columns that the table keeps by itself, the operations on an engine
answer what the ledger answers and leave the rows of the ledger.
-/

namespace ProtoCrud.Record

open Sql

/-- What is recorded under one id. -/
structure Entry where
  /-- The value of each writable column. -/
  values : Cells
  createdAt : Timestamp
  updatedAt : Timestamp
  createdBy : Value
  updatedBy : Value

/-- The entries of a table by their ids. -/
abbrev Ledger := String → Option Entry

/-- A request on records; a create carries the id that is drawn for it. -/
inductive Request where
  | create (id : String) (row : NewRow)
  | get (id : String)
  | update (id : String) (changes : Changes)
  | delete (id : String)

/-- The answer to a request; a delete that succeeds gives no record. -/
abbrev Outcome (α : Type) := Except OperationError (Option α)

namespace Entry

def ofRow (columns : List String) (now : Timestamp) (row : NewRow) : Entry where
  values := Cells.assign (fun _ ↦ .null) (columns.zip row.values)
  createdAt := now
  updatedAt := now
  createdBy := row.createdBy
  updatedBy := .null

def revise (entry : Entry) (now : Timestamp) (changes : Changes) : Entry :=
  { entry with
    values := entry.values.assign changes.assignments
    updatedAt := now
    updatedBy := changes.updatedBy }

def row (columns : List String) (id : String) (entry : Entry) : Row :=
  ⟨.text id :: columns.map entry.values ++
    [.timestamp entry.createdAt, .timestamp entry.updatedAt, entry.createdBy, entry.updatedBy]⟩

def cells (columns : List String) (id : String) (entry : Entry) : Cells := fun column ↦
  if column ∈ columns then entry.values column
  else (Cells.assign (fun _ ↦ .null) ((Schema.idColumn :: Schema.auditTail).zip
    [.text id, .timestamp entry.createdAt, .timestamp entry.updatedAt, entry.createdBy,
      entry.updatedBy])) column

end Entry

namespace Ledger

variable {α : Type} (mapping : Mapping α)

def rows (columns : List String) (ledger : Ledger) : Rows := fun id ↦
  (ledger id).map (Entry.cells columns id)

def record (id : String) (entry : Entry) : Outcome α :=
  (mapping.decode (entry.row mapping.table.columns id)).map some

def serve (now : Timestamp) (ledger : Ledger) : Request → Outcome α × Ledger
  | .create id row =>
    match ledger id with
    | some _ => (.error (.alreadyExists mapping.table.entity), ledger)
    | none =>
      let entry := Entry.ofRow mapping.table.columns now row
      (record mapping id entry, Function.update ledger id (some entry))
  | .get id =>
    match ledger id with
    | some entry => (record mapping id entry, ledger)
    | none => (.error (.notFound mapping.table.entity), ledger)
  | .update id changes =>
    match ledger id with
    | some entry =>
      (record mapping id (entry.revise now changes),
        Function.update ledger id (some (entry.revise now changes)))
    | none => (.error (.notFound mapping.table.entity), ledger)
  | .delete id =>
    match ledger id with
    | some _ => (.ok none, Function.update ledger id none)
    | none => (.error (.notFound mapping.table.entity), ledger)

/-- What requests are answered, each at its time, and the ledger behind the last one. -/
def serveAll (ledger : Ledger) : List (Timestamp × Request) → List (Outcome α) × Ledger
  | [] => ([], ledger)
  | (now, request) :: requests =>
    let (outcome, next) := serve mapping now ledger request
    let (outcomes, last) := serveAll next requests
    (outcome :: outcomes, last)

end Ledger

namespace Request

variable {α : Type} (mapping : Mapping α)

def session : Request → Session (Outcome α)
  | .create _ row => (Record.create mapping row).map (Except.map some)
  | .get id => (Record.get mapping id).map (Except.map some)
  | .update id changes => (Record.update mapping id changes).map (Except.map some)
  | .delete id => (Record.delete mapping id).map (Except.map fun _ ↦ none)

def id : Request → String
  | .create id _ => id
  | .get id => id
  | .update id _ => id
  | .delete id => id

/-- Whether a create carries what the table needs, and an update changes only what it may. -/
def IsValid (table : Table) : Request → Prop
  | .create id row =>
    id ≠ "" ∧ require row.required = .ok () ∧ row.values.length = table.columns.length
  | .get id => id ≠ ""
  | .update id changes =>
    id ≠ "" ∧ changes.assignments ≠ [] ∧ (changes.assignments.map Prod.fst).Nodup ∧
      changes.assignments.map Prod.fst ⊆ table.columns
  | .delete id => id ≠ ""

/-- What requests are answered on an engine, each at its time, and the rows behind the last one. -/
def runAll (rows : Rows) : List (Timestamp × Request) → List (Outcome α) × Rows
  | [] => ([], rows)
  | (now, request) :: requests =>
    let backend := mapping.table.engine.backend now request.id
    let (outcome, next) := (request.session mapping).run backend rows
    let (outcomes, last) := runAll next requests
    (outcome :: outcomes, last)

end Request

namespace Ledger

theorem rows_eq_some {columns : List String} {ledger : Ledger} {id : String} {entry : Entry}
    (h : ledger id = some entry) : rows columns ledger id = some (entry.cells columns id) := by
  rw [rows, h, Option.map_some]

theorem rows_eq_none {columns : List String} {ledger : Ledger} {id : String}
    (h : ledger id = none) : rows columns ledger id = none := by
  rw [rows, h, Option.map_none]

theorem rows_update (columns : List String) (ledger : Ledger) (id : String)
    (stored : Option Entry) :
    rows columns (Function.update ledger id stored) =
      Function.update (rows columns ledger) id (stored.map (Entry.cells columns id)) := by
  funext other
  by_cases hother : other = id
  · subst hother
    rw [rows, Function.update_self, Function.update_self]
  · rw [rows, Function.update_of_ne hother, Function.update_of_ne hother, rows]

end Ledger

namespace Entry

theorem cells_of_mem {columns : List String} {column : String} (hcolumn : column ∈ columns)
    (id : String) (entry : Entry) : entry.cells columns id column = entry.values column :=
  if_pos hcolumn

theorem cells_of_notMem {columns : List String} {column : String} (hcolumn : column ∉ columns)
    (id : String) (entry : Entry) :
    entry.cells columns id column =
      Cells.assign (fun _ ↦ .null) ((Schema.idColumn :: Schema.auditTail).zip
        [.text id, .timestamp entry.createdAt, .timestamp entry.updatedAt, entry.createdBy,
          entry.updatedBy]) column :=
  if_neg hcolumn

end Entry

namespace Table.IsRegular

variable {table : Table} (h : table.IsRegular) (id : String) (entry : Entry)

include h

/-- A selection reads the row of an entry. -/
theorem map_cells_selected :
    ⟨table.selected.map (entry.cells table.columns id)⟩ = entry.row table.columns id := by
  have hvalues : table.columns.map (entry.cells table.columns id) =
      table.columns.map entry.values :=
    List.map_congr_left fun column hcolumn ↦ Entry.cells_of_mem hcolumn id entry
  have hid : entry.cells table.columns id Schema.idColumn = .text id := by
    rw [Entry.cells_of_notMem (h.notMem_columns rfl)]
    rfl
  have htail : Schema.auditTail.map (entry.cells table.columns id) =
      [.timestamp entry.createdAt, .timestamp entry.updatedAt, entry.createdBy,
        entry.updatedBy] := by
    have hown : ∀ column ∈ Schema.auditTail, column ∉ table.columns := by
      intro column hcolumn
      refine h.notMem_columns ?_
      rw [Schema.isAuditColumn, List.contains_iff_mem.mpr hcolumn, Bool.or_true]
    rw [List.map_congr_left fun column hcolumn ↦
      Entry.cells_of_notMem (hown column hcolumn) id entry]
    rfl
  rw [h.selected, List.map_append, List.map_cons, hid, hvalues, htail, Entry.row]

/-- An insertion leaves the values of a new entry. -/
theorem assign_insertion (now : Timestamp) {row : NewRow}
    (hvalues : row.values.length = table.columns.length) :
    Cells.assign (fun _ ↦ .null) (("id", .text id) :: table.columns.zip row.values ++
        [("created_by", row.createdBy), ("created_at", .timestamp now),
          ("updated_at", .timestamp now)]) =
      (Entry.ofRow table.columns now row).cells table.columns id := by
  let entry := Entry.ofRow table.columns now row
  let given := table.columns.zip row.values
  let stamps := [("created_by", row.createdBy), ("created_at", .timestamp now),
    ("updated_at", .timestamp now)]
  let stamped : Cells := Cells.assign (fun _ ↦ .null) stamps
  have hnames : given.map Prod.fst = table.columns := List.map_fst_zip (Nat.le_of_eq hvalues.symm)
  have hown : stamped.assign [("id", .text id)] =
      Cells.assign (fun _ ↦ .null) ((Schema.idColumn :: Schema.auditTail).zip
        [.text id, .timestamp now, .timestamp now, row.createdBy, .null]) := by
    rw [← Cells.assign_append]
    exact Cells.assign_eq_assign
      (show ["id", "created_by", "created_at", "updated_at"] ⊆ Schema.idColumn :: Schema.auditTail
        by decide)
      (List.Subset.refl _) rfl
  change Cells.assign _ ([("id", .text id)] ++ given ++ stamps) = entry.cells table.columns id
  rw [Cells.assign_append, Cells.assign_append]
  funext column
  by_cases hcolumn : column ∈ table.columns
  · have hid : column ∉ [("id", Value.text id)].map Prod.fst := by
      intro hid
      rw [List.mem_singleton.mp hid] at hcolumn
      exact h.notMem_columns rfl hcolumn
    have hmem : column ∈ given.map Prod.fst := by
      rwa [hnames]
    calc
      _ = stamped.assign given column := Cells.assign_of_notMem hid
      _ = entry.values column := Cells.assign_of_mem stamped (fun _ ↦ .null) hmem
      _ = _ := (Entry.cells_of_mem hcolumn id entry).symm
  · have hmem : column ∉ given.map Prod.fst := by
      rwa [hnames]
    calc
      _ = stamped.assign [("id", .text id)] column :=
        Cells.assign_congr (Cells.assign_of_notMem hmem)
      _ = _ := congrFun hown column
      _ = _ := (Entry.cells_of_notMem hcolumn id entry).symm

/-- An update leaves the values of the revised entry. -/
theorem assign_update (now : Timestamp) {changes : Changes}
    (hsubset : changes.assignments.map Prod.fst ⊆ table.columns) :
    (entry.cells table.columns id).assign (changes.assignments ++
        [("updated_by", changes.updatedBy), ("updated_at", .timestamp now)]) =
      (entry.revise now changes).cells table.columns id := by
  let stamps := [("updated_by", changes.updatedBy), ("updated_at", .timestamp now)]
  let own : Cells := Cells.assign (fun _ ↦ .null) ((Schema.idColumn :: Schema.auditTail).zip
    [.text id, .timestamp entry.createdAt, .timestamp entry.updatedAt, entry.createdBy,
      entry.updatedBy])
  have hown : own.assign stamps =
      Cells.assign (fun _ ↦ .null) ((Schema.idColumn :: Schema.auditTail).zip
        [.text id, .timestamp entry.createdAt, .timestamp now, entry.createdBy,
          changes.updatedBy]) := by
    rw [← Cells.assign_append]
    exact Cells.assign_eq_assign
      (show ["updated_by", "updated_at", "id", "created_at", "updated_at", "created_by",
        "updated_by"] ⊆ Schema.idColumn :: Schema.auditTail by decide)
      (List.Subset.refl _) rfl
  rw [Cells.assign_append]
  funext column
  by_cases hcolumn : column ∈ table.columns
  · have hstamps : column ∉ stamps.map Prod.fst := by
      intro hmem
      simp only [stamps, List.map_cons, List.map_nil, List.mem_cons, List.not_mem_nil, or_false]
        at hmem
      rcases hmem with rfl | rfl <;> exact h.notMem_columns rfl hcolumn
    have hstamped : (entry.cells table.columns id).assign stamps column = entry.values column :=
      (Cells.assign_of_notMem hstamps).trans (Entry.cells_of_mem hcolumn id entry)
    calc
      _ = entry.values.assign changes.assignments column := Cells.assign_congr hstamped
      _ = _ := (Entry.cells_of_mem hcolumn id (entry.revise now changes)).symm
  · have hmem : column ∉ changes.assignments.map Prod.fst := fun hmem ↦ hcolumn (hsubset hmem)
    calc
      _ = (entry.cells table.columns id).assign stamps column := Cells.assign_of_notMem hmem
      _ = own.assign stamps column := Cells.assign_congr (Entry.cells_of_notMem hcolumn id entry)
      _ = _ := congrFun hown column
      _ = _ := (Entry.cells_of_notMem hcolumn id (entry.revise now changes)).symm

end Table.IsRegular

section Requests

variable {α : Type} {mapping : Mapping α} (h : mapping.table.IsRegular) (now : Timestamp)
  (nextId : String) (ledger : Ledger)

include h

theorem run_get {id : String} (hid : id ≠ "") :
    (get mapping id).run (mapping.table.engine.backend now nextId)
        (ledger.rows mapping.table.columns) =
      (match ledger id with
        | some entry => mapping.decode (entry.row mapping.table.columns id)
        | none => .error (.notFound mapping.table.entity),
        ledger.rows mapping.table.columns) := by
  have hfetch := h.fetchOptional_selection now nextId id (ledger.rows mapping.table.columns)
    mapping.table.shape
  rw [Table.selection] at hfetch
  unfold get
  rw [if_neg hid]
  rw [Session.run_fetchOptional, hfetch, Ledger.rows]
  cases ledger id with
  | none => rfl
  | some entry =>
    rw [Option.map_some, Option.map_some, h.map_cells_selected]
    rfl

/-- A row is read back as it was written. -/
theorem run_get_update {id : String} (hid : id ≠ "") (entry : Entry) :
    (get mapping id).run (mapping.table.engine.backend now nextId)
        (Ledger.rows mapping.table.columns (Function.update ledger id (some entry))) =
      (mapping.decode (entry.row mapping.table.columns id),
        Ledger.rows mapping.table.columns (Function.update ledger id (some entry))) := by
  rw [run_get h now nextId _ hid, Function.update_self]

theorem run_create {id : String} (hid : id ≠ "") {row : NewRow}
    (hrequired : require row.required = .ok ())
    (hvalues : row.values.length = mapping.table.columns.length) :
    (create mapping row).run (mapping.table.engine.backend now id)
        (ledger.rows mapping.table.columns) =
      match ledger id with
      | some _ =>
        (.error (.alreadyExists mapping.table.entity), ledger.rows mapping.table.columns)
      | none =>
        let entry := Entry.ofRow mapping.table.columns now row
        (mapping.decode (entry.row mapping.table.columns id),
          Ledger.rows mapping.table.columns (Function.update ledger id (some entry))) := by
  have hexecute := h.execute_insertCall now id id (ledger.rows mapping.table.columns) hvalues
  rw [h.assign_insertion id now hvalues, Table.insertCall, Engine.insertRow] at hexecute
  have hfresh : (mapping.table.engine.backend now id).freshId
      (ledger.rows mapping.table.columns) = (id, ledger.rows mapping.table.columns) := rfl
  unfold create
  simp only [hrequired]
  rw [Session.run_freshId, hfresh, Session.run_execute]
  cases hentry : ledger id with
  | some entry =>
    simp only [Ledger.rows_eq_some hentry] at hexecute
    rw [hexecute]
    rfl
  | none =>
    let entry := Entry.ofRow mapping.table.columns now row
    have hrows := Ledger.rows_update mapping.table.columns ledger id (some entry)
    rw [Option.map_some] at hrows
    simp only [Ledger.rows_eq_none hentry] at hexecute
    rw [hexecute, ← hrows]
    change ((get mapping id).map (afterInsert mapping.table)).run _ _ = _
    rw [Session.run_map, run_get_update h now id ledger hid entry, afterInsert_decode]

theorem run_update {id : String} (hid : id ≠ "") {changes : Changes}
    (hne : changes.assignments ≠ []) (hnodup : (changes.assignments.map Prod.fst).Nodup)
    (hsubset : changes.assignments.map Prod.fst ⊆ mapping.table.columns) :
    (update mapping id changes).run (mapping.table.engine.backend now nextId)
        (ledger.rows mapping.table.columns) =
      match ledger id with
      | some entry =>
        (mapping.decode ((entry.revise now changes).row mapping.table.columns id),
          Ledger.rows mapping.table.columns
            (Function.update ledger id (some (entry.revise now changes))))
      | none => (.error (.notFound mapping.table.entity), ledger.rows mapping.table.columns) := by
  have hexecute := h.execute_updateCall now nextId id (ledger.rows mapping.table.columns) hnodup
    hsubset
  rw [Table.updateCall, Engine.changeRow] at hexecute
  unfold update
  rw [if_neg hid, if_neg (by simpa using hne), Session.run_execute]
  cases hentry : ledger id with
  | some entry =>
    have hrows := Ledger.rows_update mapping.table.columns ledger id
      (some (entry.revise now changes))
    rw [Option.map_some] at hrows
    simp only [Ledger.rows_eq_some hentry, h.assign_update id entry now hsubset] at hexecute
    rw [hexecute, ← hrows]
    exact run_get_update h now nextId ledger hid (entry.revise now changes)
  | none =>
    simp only [Ledger.rows_eq_none hentry] at hexecute
    rw [hexecute]
    have hget := run_get h now nextId ledger hid
    rw [hentry] at hget
    exact hget

theorem run_delete {id : String} (hid : id ≠ "") :
    (delete mapping id).run (mapping.table.engine.backend now nextId)
        (ledger.rows mapping.table.columns) =
      match ledger id with
      | some _ => (.ok (), Ledger.rows mapping.table.columns (Function.update ledger id none))
      | none => (.error (.notFound mapping.table.entity), ledger.rows mapping.table.columns) := by
  have hexecute := h.execute_removal now nextId id (ledger.rows mapping.table.columns)
  rw [Table.removal, Engine.changeRow] at hexecute
  unfold delete
  rw [if_neg hid, Session.run_execute]
  cases hentry : ledger id with
  | some entry =>
    have hrows := Ledger.rows_update mapping.table.columns ledger id none
    rw [Option.map_none] at hrows
    simp only [Ledger.rows_eq_some hentry] at hexecute
    rw [hexecute, ← hrows]
    rfl
  | none =>
    simp only [Ledger.rows_eq_none hentry] at hexecute
    rw [hexecute]
    rfl

/-- One request on the engine is one request on the ledger. -/
theorem run_session {request : Request} (hvalid : request.IsValid mapping.table) :
    (request.session mapping).run (mapping.table.engine.backend now request.id)
        (ledger.rows mapping.table.columns) =
      ((ledger.serve mapping now request).1,
        (ledger.serve mapping now request).2.rows mapping.table.columns) := by
  cases request with
  | create id row =>
    obtain ⟨hid, hrequired, hvalues⟩ := hvalid
    rw [Request.session, Session.run_map, Request.id, run_create h now ledger hid hrequired hvalues,
      Ledger.serve]
    cases ledger id <;> rfl
  | get id =>
    rw [Request.session, Session.run_map, run_get h now _ ledger hvalid, Ledger.serve]
    cases ledger id <;> rfl
  | update id changes =>
    obtain ⟨hid, hne, hnodup, hsubset⟩ := hvalid
    rw [Request.session, Session.run_map, run_update h now _ ledger hid hne hnodup hsubset,
      Ledger.serve]
    cases ledger id <;> rfl
  | delete id =>
    rw [Request.session, Session.run_map, run_delete h now _ ledger hvalid, Ledger.serve]
    cases ledger id <;> rfl

end Requests

/--
Any number of requests, each at its own time, are answered on an engine as they are on a ledger,
and the rows of the table are those of the ledger afterwards.
-/
theorem runAll_eq_serveAll {α : Type} (mapping : Mapping α) (h : mapping.table.IsRegular)
    (requests : List (Timestamp × Request))
    (hvalid : ∀ request ∈ requests, request.2.IsValid mapping.table) (ledger : Ledger) :
    Request.runAll mapping (ledger.rows mapping.table.columns) requests =
      ((ledger.serveAll mapping requests).1,
        (ledger.serveAll mapping requests).2.rows mapping.table.columns) := by
  induction requests generalizing ledger with
  | nil => rfl
  | cons request requests ih =>
    obtain ⟨now, request⟩ := request
    have hrequest : request.IsValid mapping.table := hvalid (now, request) List.mem_cons_self
    have hstep := run_session h now ledger hrequest
    have hrest := ih (fun other hother ↦ hvalid other (List.mem_cons_of_mem _ hother))
      (ledger.serve mapping now request).2
    simp only [Request.runAll, Ledger.serveAll, hstep, hrest]

/-- Two creates under one id, an update, a delete and a get. -/
def widgetRequests : List (Timestamp × Request) :=
  [(⟨1, 0⟩, .create "w" ⟨[("name", true)], [.text "gear"], .null⟩),
    (⟨2, 0⟩, .create "w" ⟨[], [.text "nut"], .null⟩),
    (⟨3, 0⟩, .update "w" ⟨[("name", .text "bolt")], .text "ann"⟩),
    (⟨4, 0⟩, .delete "w"),
    (⟨5, 0⟩, .get "w")]

theorem runAll_widgetRequests :
    (Request.runAll ⟨widgets, .ok⟩ (fun _ ↦ none) widgetRequests).1 =
      [.ok (some ⟨[.text "w", .text "gear", .timestamp ⟨1, 0⟩, .timestamp ⟨1, 0⟩, .null, .null]⟩),
        .error (.alreadyExists "Widget"),
        .ok (some ⟨[.text "w", .text "bolt", .timestamp ⟨1, 0⟩, .timestamp ⟨3, 0⟩, .null,
          .text "ann"]⟩),
        .ok none,
        .error (.notFound "Widget")] := by
  have hname : IsWord "name" := .of_all (by decide) (by decide)
  have hregular : widgets.IsRegular :=
    { name := .of_all (by decide) (by decide)
      words := List.forall_mem_singleton.mpr hname
      nodup := by decide
      writable := by decide
      selected := by decide }
  have hvalid : ∀ request ∈ widgetRequests, request.2.IsValid widgets := by
    simp [widgetRequests, Request.IsValid, widgets, require]
  have hrun := runAll_eq_serveAll ⟨widgets, Except.ok⟩ hregular widgetRequests hvalid fun _ ↦ none
  exact congrArg Prod.fst hrun

end ProtoCrud.Record
