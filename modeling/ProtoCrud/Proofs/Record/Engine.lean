import ProtoCrud.Proofs.Record.Trace
import ProtoCrud.Proofs.Sql.Command
import ProtoCrud.Schema.Naming

/-!
# An engine that runs statements by their texts

The engine keeps one table whose rows are found by their ids. It knows a statement by its text
alone: it reads the command from the text, binds the arguments to the placeholders from left to
right, and refuses commands on other tables, unknown or repeated columns, columns without terms,
and arguments that are too few or too many. A column that an insertion does not name is null, and
an insertion of an id that exists is a unique violation.
-/

namespace ProtoCrud.Record

open Sql

/-- A value for every column. -/
abbrev Cells := String → Value

abbrev Rows := String → Option Cells

/-- Cells after values were assigned to some columns. -/
def Cells.assign (cells : Cells) (assignments : List (String × Value)) : Cells :=
  fun column ↦ (assignments.lookup column).getD (cells column)

/-- The values of terms, with arguments bound from left to right, and the arguments left over. -/
def bindTerms (now : Timestamp) : List Term → List Value → Option (List Value × List Value)
  | [], args => some ([], args)
  | .bound :: _, [] => none
  | .bound :: terms, value :: args =>
    (bindTerms now terms args).map fun (values, left) ↦ (value :: values, left)
  | .now :: terms, args =>
    (bindTerms now terms args).map fun (values, left) ↦ (.timestamp now :: values, left)

structure Engine where
  table : String
  columns : List String

namespace Engine

def Accepts (engine : Engine) : Command → Prop
  | .insert table columns terms =>
    table = engine.table ∧ columns ⊆ engine.columns ∧ columns.Nodup ∧
      columns.length = terms.length
  | .select table columns => table = engine.table ∧ columns ⊆ engine.columns
  | .update table assignments =>
    table = engine.table ∧ assignments.map Prod.fst ⊆ engine.columns ∧
      (assignments.map Prod.fst).Nodup ∧ "id" ∉ assignments.map Prod.fst
  | .delete table => table = engine.table

instance (engine : Engine) : DecidablePred engine.Accepts := fun command ↦ by
  cases command <;> unfold Accepts <;> infer_instance

/-- The command that a text says, if the engine runs it. -/
def command? (engine : Engine) (text : String) : Option Command :=
  (Command.ofText? text).filter (engine.Accepts ·)

/-- Adds a row, unless its id exists. -/
def insertRow (id : String) (cells : Cells) (rows : Rows) : Answer UInt64 × Rows :=
  match rows id with
  | some _ => (.error (.uniqueViolation id), rows)
  | none => (.ok 1, Function.update rows id (some cells))

def changeRow (id : String) (change : Cells → Option Cells) (rows : Rows) :
    Answer UInt64 × Rows :=
  match rows id with
  | some cells => (.ok 1, Function.update rows id (change cells))
  | none => (.ok 0, rows)

/-- The effect of a command on the rows, if its arguments fit. -/
def effect? (now : Timestamp) (args : List Value) :
    Command → Option (Rows → Answer UInt64 × Rows)
  | .insert _ columns terms =>
    match bindTerms now terms args with
    | some (values, []) =>
      let cells := Cells.assign (fun _ ↦ .null) (columns.zip values)
      match cells "id" with
      | .text id => some (insertRow id cells)
      | _ => none
    | _ => none
  | .update _ assignments =>
    match bindTerms now (assignments.map Prod.snd) args with
    | some (values, [.text id]) =>
      some (changeRow id fun cells ↦ some (cells.assign ((assignments.map Prod.fst).zip values)))
    | _ => none
  | .delete _ =>
    match args with
    | [.text id] => some (changeRow id fun _ ↦ none)
    | _ => none
  | .select _ _ => none

/-- The answer of a command that reads, if its arguments fit. -/
def answer? (args : List Value) : Command → Option (Rows → Option Row)
  | .select _ columns =>
    match args with
    | [.text id] => some fun rows ↦ (rows id).map fun cells ↦ ⟨columns.map cells⟩
    | _ => none
  | _ => none

/-- What the engine answers to everything that it does not run. -/
def refusal : StoreError :=
  .backend "not a statement for this table"

def backend (engine : Engine) (now : Timestamp) (nextId : String) : Backend Rows where
  freshId rows := (nextId, rows)
  execute call rows :=
    match (engine.command? call.statement.text).bind (effect? now call.args) with
    | some effect => effect rows
    | none => (.error refusal, rows)
  fetchOptional call _ rows :=
    match (engine.command? call.statement.text).bind (answer? call.args) with
    | some answer => (.ok (answer rows), rows)
    | none => (.error refusal, rows)
  fetchAll _ _ rows := (.error refusal, rows)

theorem command?_eq_some {engine : Engine} {text : String} {command : Command}
    (htext : Command.ofText? text = some command) (haccepts : engine.Accepts command) :
    engine.command? text = some command := by
  rw [command?, htext, Option.filter_some, if_pos (decide_eq_true haccepts)]

theorem execute_eq {engine : Engine} (call : Call) {command : Command}
    {effect : Rows → Answer UInt64 × Rows} (now : Timestamp) (nextId : String) (rows : Rows)
    (hcommand : engine.command? call.statement.text = some command)
    (heffect : effect? now call.args command = some effect) :
    (engine.backend now nextId).execute call rows = effect rows := by
  have hrun : (engine.command? call.statement.text).bind (effect? now call.args) = some effect := by
    rw [hcommand, Option.bind_some, heffect]
  simp only [backend, hrun]

theorem fetchOptional_eq {engine : Engine} (call : Call) {command : Command}
    {answer : Rows → Option Row} (now : Timestamp) (nextId : String) (shape : List ColumnKind)
    (rows : Rows) (hcommand : engine.command? call.statement.text = some command)
    (hanswer : answer? call.args command = some answer) :
    (engine.backend now nextId).fetchOptional call shape rows = (.ok (answer rows), rows) := by
  have hrun : (engine.command? call.statement.text).bind (answer? call.args) = some answer := by
    rw [hcommand, Option.bind_some, hanswer]
  simp only [backend, hrun]

end Engine

theorem Cells.assign_append (cells : Cells) (first second : List (String × Value)) :
    cells.assign (first ++ second) = Cells.assign (cells.assign second) first := by
  funext column
  unfold Cells.assign
  rw [List.lookup_append]
  cases first.lookup column <;> rfl

theorem Cells.assign_congr {cells cells' : Cells} {assignments : List (String × Value)}
    {column : String} (h : cells column = cells' column) :
    cells.assign assignments column = cells'.assign assignments column := by
  rw [Cells.assign, Cells.assign, h]

theorem Cells.assign_of_notMem {cells : Cells} {assignments : List (String × Value)}
    {column : String} (h : column ∉ assignments.map Prod.fst) :
    cells.assign assignments column = cells column := by
  have hlookup : assignments.lookup column = none := by
    rw [List.lookup_eq_none_iff]
    intro entry hentry
    have hne : column ≠ entry.1 := fun heq ↦ h (heq ▸ List.mem_map_of_mem hentry)
    simpa using hne
  rw [Cells.assign, hlookup, Option.getD_none]

theorem Cells.assign_of_mem (cells cells' : Cells) {assignments : List (String × Value)}
    {column : String} (h : column ∈ assignments.map Prod.fst) :
    cells.assign assignments column = cells'.assign assignments column := by
  obtain ⟨entry, hentry, rfl⟩ := List.mem_map.mp h
  have hlookup : (assignments.lookup entry.1).isSome = true :=
    List.lookup_isSome_iff.mpr ⟨entry, hentry, by simp⟩
  obtain ⟨value, hvalue⟩ := Option.isSome_iff_exists.mp hlookup
  rw [Cells.assign, Cells.assign, hvalue, Option.getD_some, Option.getD_some]

/-- Assignments to some columns are equal if they agree on these. -/
theorem Cells.assign_eq_assign {cells : Cells} {first second : List (String × Value)}
    {columns : List String} (hfirst : first.map Prod.fst ⊆ columns)
    (hsecond : second.map Prod.fst ⊆ columns)
    (h : columns.map (cells.assign first) = columns.map (cells.assign second)) :
    cells.assign first = cells.assign second := by
  funext column
  by_cases hcolumn : column ∈ columns
  · exact List.map_inj_left.mp h column hcolumn
  · calc
      _ = cells column := Cells.assign_of_notMem fun hmem ↦ hcolumn (hfirst hmem)
      _ = _ := (Cells.assign_of_notMem fun hmem ↦ hcolumn (hsecond hmem)).symm

/-- Placeholders take one argument each. -/
theorem bindTerms_bound (now : Timestamp) (terms : List Term) (values args : List Value) :
    bindTerms now (values.map (fun _ ↦ Term.bound) ++ terms) (values ++ args) =
      (bindTerms now terms args).map fun (others, left) ↦ (values ++ others, left) := by
  induction values with
  | nil =>
    change bindTerms now terms args = _
    cases bindTerms now terms args <;> rfl
  | cons value values ih =>
    change (bindTerms now (values.map (fun _ ↦ Term.bound) ++ terms) (values ++ args)).map _ = _
    rw [ih, Option.map_map]
    rfl

/-- A table whose names fit into statements and whose select list names every column once. -/
structure Table.IsRegular (table : Table) : Prop where
  name : IsWord table.name
  words : ∀ column ∈ table.columns, IsWord column
  nodup : table.columns.Nodup
  writable : ∀ column ∈ table.columns, Schema.isAuditColumn column = false
  selected : table.selected = Schema.idColumn :: table.columns ++ Schema.auditTail

def Table.engine (table : Table) : Engine :=
  ⟨table.name, table.selected⟩

namespace Table.IsRegular

variable {table : Table} (h : table.IsRegular)

include h

/-- Every selected column is a word. -/
theorem selected_words : ∀ column ∈ table.selected, IsWord column := by
  have hown : ∀ column ∈ Schema.idColumn :: Schema.auditTail, IsWord column := by
    intro column hcolumn
    simp only [Schema.idColumn, Schema.auditTail, List.mem_cons, List.not_mem_nil, or_false]
      at hcolumn
    rcases hcolumn with rfl | rfl | rfl | rfl | rfl <;> exact .of_all (by decide) (by decide)
  intro column hcolumn
  rw [h.selected, List.mem_append, List.mem_cons] at hcolumn
  rcases hcolumn with (hcolumn | hcolumn) | hcolumn
  · exact hown column (hcolumn ▸ List.mem_cons_self)
  · exact h.words column hcolumn
  · exact hown column (List.mem_cons_of_mem _ hcolumn)

theorem notMem_columns {column : String} (hcolumn : Schema.isAuditColumn column = true) :
    column ∉ table.columns := by
  intro hmem
  rw [h.writable column hmem] at hcolumn
  cases hcolumn

theorem mem_selected_of_isAuditColumn {column : String}
    (hcolumn : Schema.isAuditColumn column = true) : column ∈ table.selected := by
  rw [Schema.isAuditColumn, Bool.or_eq_true, beq_iff_eq, List.contains_iff_mem] at hcolumn
  rw [h.selected]
  rcases hcolumn with rfl | hcolumn
  · exact List.mem_cons_self
  · exact List.mem_append_right _ hcolumn

theorem columns_subset_selected : table.columns ⊆ table.selected := by
  rw [h.selected]
  exact fun column hcolumn ↦ List.mem_append_left _ (List.mem_cons_of_mem _ hcolumn)

/-- Writable columns and some that the table keeps by itself, together. -/
theorem accepts_columns {columns own : List String} (hnodup : columns.Nodup)
    (hsubset : columns ⊆ table.columns) (hownNodup : own.Nodup)
    (hown : ∀ column ∈ own, Schema.isAuditColumn column = true) :
    columns ++ own ⊆ table.selected ∧ (columns ++ own).Nodup := by
  refine ⟨List.append_subset.mpr ⟨?_, ?_⟩, List.nodup_append.mpr ⟨hnodup, hownNodup, ?_⟩⟩
  · exact fun column hcolumn ↦ h.columns_subset_selected (hsubset hcolumn)
  · exact fun column hcolumn ↦ h.mem_selected_of_isAuditColumn (hown column hcolumn)
  · rintro column hcolumn _ hother rfl
    exact h.notMem_columns (hown column hother) (hsubset hcolumn)

theorem command?_insertion :
    table.engine.command? table.insertion.text =
      some (.insert table.name
        ("id" :: table.columns ++ ["created_by", "created_at", "updated_at"])
        (Term.bound :: table.columns.map (fun _ ↦ Term.bound) ++ [Term.bound, .now, .now])) := by
  let names := "id" :: table.columns ++ ["created_by", "created_at", "updated_at"]
  let assignments : List (String × Term) :=
    ("id", Term.bound) :: table.columns.map (·, Term.bound) ++
      [("created_by", Term.bound), ("created_at", .now), ("updated_at", .now)]
  have hnames : assignments.map Prod.fst = names := by
    simp [assignments, names, Function.comp_def]
  have hterms : assignments.map Prod.snd =
      Term.bound :: table.columns.map (fun _ ↦ Term.bound) ++ [Term.bound, .now, .now] := by
    simp [assignments, Function.comp_def]
  -- The id stands in front of the writable columns, the others behind them.
  have hperm : (table.columns ++ ["id", "created_by", "created_at", "updated_at"]).Perm names :=
    List.perm_middle
  obtain ⟨hsubset, hnodup⟩ : names ⊆ table.selected ∧ names.Nodup := by
    have haccepts := h.accepts_columns h.nodup (List.Subset.refl _)
      (show ["id", "created_by", "created_at", "updated_at"].Nodup by decide) (by decide)
    exact ⟨fun name hname ↦ haccepts.1 (hperm.mem_iff.mpr hname), hperm.nodup_iff.mp haccepts.2⟩
  have hwords : ∀ assignment ∈ assignments, IsWord assignment.1 := by
    intro assignment hassignment
    refine h.selected_words _ (hsubset ?_)
    rw [← hnames]
    exact List.mem_map_of_mem hassignment
  have htext := ofText?_insert h.name hwords (List.cons_ne_nil _ _)
  rw [hnames, hterms] at htext
  exact Engine.command?_eq_some htext ⟨rfl, hsubset, hnodup, by simp⟩

theorem command?_selection :
    table.engine.command? table.selection.text = some (.select table.name table.selected) := by
  have hne : table.selected ≠ [] := by
    rw [h.selected]
    exact List.cons_ne_nil _ _
  exact Engine.command?_eq_some (ofText?_select h.name h.selected_words hne)
    ⟨rfl, List.Subset.refl _⟩

theorem command?_alteration {columns : List String} (hnodup : columns.Nodup)
    (hsubset : columns ⊆ table.columns) :
    table.engine.command? (table.alteration columns).text =
      some (.update table.name
        (columns.map (·, Term.bound) ++ [("updated_by", Term.bound), ("updated_at", .now)])) := by
  let assignments : List (String × Term) :=
    columns.map (·, Term.bound) ++ [("updated_by", Term.bound), ("updated_at", .now)]
  have hnames : assignments.map Prod.fst = columns ++ ["updated_by", "updated_at"] := by
    simp [assignments, Function.comp_def]
  have haccepts := h.accepts_columns hnodup hsubset
    (show ["updated_by", "updated_at"].Nodup by decide) (by decide)
  rw [← hnames] at haccepts
  have hwords : ∀ assignment ∈ assignments, IsWord assignment.1 := by
    intro assignment hassignment
    exact h.selected_words _ (haccepts.1 (List.mem_map_of_mem hassignment))
  have hid : "id" ∉ assignments.map Prod.fst := by
    have hcolumns : "id" ∉ columns := fun hmem ↦ h.notMem_columns rfl (hsubset hmem)
    rw [hnames, List.mem_append, not_or]
    exact ⟨hcolumns, by decide⟩
  have hne : assignments ≠ [] := List.append_ne_nil_of_right_ne_nil _ (List.cons_ne_nil _ _)
  exact Engine.command?_eq_some (ofText?_update h.name hwords hne)
    ⟨rfl, haccepts.1, haccepts.2, hid⟩

theorem command?_removal :
    table.engine.command? table.removal.text = some (.delete table.name) :=
  Engine.command?_eq_some (ofText?_delete h.name) rfl

variable (now : Timestamp) (nextId id : String) (rows : Rows)

/-- The arguments of an insertion meet their columns. -/
theorem execute_insertCall {row : NewRow} (hvalues : row.values.length = table.columns.length) :
    (table.engine.backend now nextId).execute (table.insertCall id row) rows =
      Engine.insertRow id (Cells.assign (fun _ ↦ .null)
        (("id", .text id) :: table.columns.zip row.values ++ [("created_by", row.createdBy),
          ("created_at", .timestamp now), ("updated_at", .timestamp now)])) rows := by
  have hmarks : table.columns.map (fun _ ↦ Term.bound) = row.values.map fun _ ↦ Term.bound := by
    rw [List.map_const', List.map_const', hvalues]
  have hbind : bindTerms now
      (Term.bound :: table.columns.map (fun _ ↦ Term.bound) ++ [Term.bound, .now, .now])
      (.text id :: row.values ++ [row.createdBy]) =
        some (.text id :: row.values ++ [row.createdBy, .timestamp now, .timestamp now], []) := by
    rw [hmarks]
    exact bindTerms_bound now [.bound, .now, .now] (.text id :: row.values) [row.createdBy]
  have hzip : ("id" :: table.columns ++ ["created_by", "created_at", "updated_at"]).zip
      (.text id :: row.values ++ [row.createdBy, .timestamp now, .timestamp now]) =
        ("id", .text id) :: table.columns.zip row.values ++ [("created_by", row.createdBy),
          ("created_at", .timestamp now), ("updated_at", .timestamp now)] := by
    rw [List.cons_append, List.cons_append, List.zip_cons_cons, List.zip_append hvalues.symm]
    rfl
  refine Engine.execute_eq (table.insertCall id row) now nextId rows h.command?_insertion ?_
  rw [Table.insertCall, Engine.effect?, hbind]
  simp only [hzip]
  rfl

/-- The arguments of an update meet their columns, and the id its row. -/
theorem execute_updateCall {changes : Changes}
    (hnodup : (changes.assignments.map Prod.fst).Nodup)
    (hsubset : changes.assignments.map Prod.fst ⊆ table.columns) :
    (table.engine.backend now nextId).execute (table.updateCall id changes) rows =
      Engine.changeRow id (fun cells ↦ some (cells.assign (changes.assignments ++
        [("updated_by", changes.updatedBy), ("updated_at", .timestamp now)]))) rows := by
  let names := changes.assignments.map Prod.fst
  let values := changes.assignments.map Prod.snd
  let assigned : List (String × Term) :=
    names.map (·, Term.bound) ++ [("updated_by", Term.bound), ("updated_at", .now)]
  have hterms : assigned.map Prod.snd = values.map (fun _ ↦ Term.bound) ++ [Term.bound, .now] := by
    simp [assigned, names, values, Function.comp_def]
  have hnames : assigned.map Prod.fst = names ++ ["updated_by", "updated_at"] := by
    simp [assigned, Function.comp_def]
  have hbind : bindTerms now (values.map (fun _ ↦ Term.bound) ++ [Term.bound, .now])
      (values ++ [changes.updatedBy, .text id]) =
        some (values ++ [changes.updatedBy, .timestamp now], [.text id]) :=
    bindTerms_bound now [.bound, .now] values [changes.updatedBy, .text id]
  have hzip : (names ++ ["updated_by", "updated_at"]).zip
      (values ++ [changes.updatedBy, .timestamp now]) =
        changes.assignments ++
          [("updated_by", changes.updatedBy), ("updated_at", .timestamp now)] := by
    have hassignments : names.zip values = changes.assignments :=
      (List.zip_of_prod rfl rfl).symm
    rw [List.zip_append (by simp [names, values]), hassignments]
    rfl
  refine Engine.execute_eq (table.updateCall id changes) now nextId rows
    (h.command?_alteration hnodup hsubset) ?_
  rw [Table.updateCall, Engine.effect?, hterms, hbind]
  change some (Engine.changeRow id fun cells ↦ some (cells.assign ((assigned.map Prod.fst).zip
    (values ++ [changes.updatedBy, .timestamp now])))) = _
  rw [hnames, hzip]

theorem execute_removal :
    (table.engine.backend now nextId).execute ⟨table.removal, [.text id]⟩ rows =
      Engine.changeRow id (fun _ ↦ none) rows := by
  refine Engine.execute_eq ⟨table.removal, [.text id]⟩ now nextId rows h.command?_removal ?_
  rw [Engine.effect?]

theorem fetchOptional_selection (shape : List ColumnKind) :
    (table.engine.backend now nextId).fetchOptional ⟨table.selection, [.text id]⟩ shape rows =
      (.ok ((rows id).map fun cells ↦ ⟨table.selected.map cells⟩), rows) := by
  have hanswer : Engine.answer? [.text id] (.select table.name table.selected) =
      some fun rows ↦ (rows id).map fun cells ↦ ⟨table.selected.map cells⟩ := by
    rw [Engine.answer?]
  exact Engine.fetchOptional_eq ⟨table.selection, [.text id]⟩ now nextId shape rows
    h.command?_selection hanswer

end Table.IsRegular

end ProtoCrud.Record
