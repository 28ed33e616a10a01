import Mathlib.Data.List.Basic
import ProtoCrud.Proofs.Sql.Token
import ProtoCrud.Sql.Statement

/-!
# Commands: statements on one row, read from their texts

A store knows a statement by its text. A command is what the text of a statement on one row says:
the table, the columns and the terms, in the order in which they stand. Columns and terms of an
insertion are two lists in the text and two lists here; nothing but their order relates them.
-/

namespace ProtoCrud.Sql

/-- A statement on one row. -/
inductive Command where
  | insert (table : String) (columns : List String) (terms : List Term)
  | select (table : String) (columns : List String)
  | update (table : String) (assignments : List (String × Term))
  | delete (table : String)
  deriving DecidableEq

namespace Command

/-- The condition that an id is the next argument. -/
def rowCondition : List Token :=
  [.word "WHERE", .word "id", .sign "=", .placeholder]

/-- Reads names separated by commas, up to the first name that no comma follows. -/
def names? : List Token → Option (List String × List Token)
  | .word name :: .comma :: rest =>
    (names? rest).map fun (names, rest) ↦ (name :: names, rest)
  | .word name :: rest => some ([name], rest)
  | _ => none

def nameTokens (name : String) : List Token :=
  [.word name]

def termTokens : Term → List Token
  | .bound => [.placeholder]
  | .now => [.word "NOW", .opening, .closing]

def term? (tokens : List Token) : Option Term :=
  [Term.bound, Term.now].find? (termTokens · = tokens)

def assignmentTokens : String × Term → List Token
  | (column, term) => .word column :: .sign "=" :: termTokens term

def assignment? : List Token → Option (String × Term)
  | .word column :: .sign sign :: rest => if sign = "=" then (term? rest).map (column, ·) else none
  | _ => none

def listTokens {α : Type} (write : α → List Token) (entries : List α) : List Token :=
  [Token.comma].intercalate (entries.map write)

def entries? {α : Type} (read : List Token → Option α) (tokens : List Token) :
    Option (List α) :=
  (tokens.splitOn .comma).mapM read

/-- Reads what stands behind the opening parenthesis of the columns of an insertion. -/
def insertion? (table : String) (tokens : List Token) : Option Command :=
  match names? tokens with
  | some (columns, .closing :: .word "VALUES" :: .opening :: rest) =>
    ([Token.closing].isSuffixOf? rest).bind fun terms ↦
      (entries? term? terms).map (.insert table columns)
  | _ => none

/-- Reads what stands behind the first word of a selection. -/
def selection? (tokens : List Token) : Option Command :=
  match names? tokens with
  | some (columns, .word "FROM" :: .word table :: rest) =>
    if rest = rowCondition then some (.select table columns) else none
  | _ => none

def read? : List Token → Option Command
  | .word "INSERT" :: .word "INTO" :: .word table :: .opening :: rest => insertion? table rest
  | .word "SELECT" :: rest => selection? rest
  | .word "UPDATE" :: .word table :: .word "SET" :: rest =>
    (rowCondition.isSuffixOf? rest).bind fun assignments ↦
      (entries? assignment? assignments).map (.update table)
  | .word "DELETE" :: .word "FROM" :: .word table :: rest =>
    if rest = rowCondition then some (.delete table) else none
  | _ => none

def ofText? (text : String) : Option Command :=
  read? (tokens text.toList)

theorem listTokens_singleton {α : Type} (write : α → List Token) (entry : α) :
    listTokens write [entry] = write entry := by
  rw [listTokens, List.map_singleton, List.intercalate_singleton]

theorem listTokens_cons_cons {α : Type} (write : α → List Token) (first second : α)
    (others : List α) :
    listTokens write (first :: second :: others) =
      write first ++ .comma :: listTokens write (second :: others) := by
  rw [listTokens, listTokens, List.map_cons, List.map_cons, List.intercalate_cons_cons,
    List.append_assoc, List.singleton_append]

theorem names?_listTokens {names : List String} (hne : names ≠ []) (rest : List Token)
    (hrest : rest.head? ≠ some .comma) :
    names? (listTokens nameTokens names ++ rest) = some (names, rest) := by
  induction names with
  | nil => exact absurd rfl hne
  | cons name names ih =>
    cases names with
    | nil =>
      cases rest with
      | nil => rfl
      | cons token rest =>
        have htoken : token ≠ .comma := fun h ↦ hrest (congrArg some h)
        cases token with
        | comma => exact absurd rfl htoken
        | _ => rfl
    | cons second names =>
      have hnames := ih (by simp)
      rw [listTokens_cons_cons]
      change (names? (listTokens nameTokens (second :: names) ++ rest)).map _ = _
      rw [hnames]
      rfl

theorem comma_notMem_termTokens (term : Term) : Token.comma ∉ termTokens term := by
  cases term <;> decide

theorem comma_notMem_assignmentTokens (assignment : String × Term) :
    Token.comma ∉ assignmentTokens assignment := by
  have hterm := comma_notMem_termTokens assignment.2
  intro hmem
  rcases List.mem_cons.mp hmem with h | hmem
  · cases h
  · rcases List.mem_cons.mp hmem with h | hmem
    · cases h
    · exact hterm hmem

theorem term?_tokens (term : Term) : term? (termTokens term) = some term := by
  cases term <;> rfl

theorem assignment?_tokens (assignment : String × Term) :
    assignment? (assignmentTokens assignment) = some assignment := by
  obtain ⟨column, term⟩ := assignment
  change (term? (termTokens term)).map (column, ·) = some (column, term)
  rw [term?_tokens]
  rfl

theorem entries?_listTokens {α : Type} {read : List Token → Option α} {write : α → List Token}
    (hread : ∀ entry, read (write entry) = some entry)
    (hcomma : ∀ entry, Token.comma ∉ write entry) {entries : List α} (hne : entries ≠ []) :
    entries? read (listTokens write entries) = some entries := by
  have hsplit : (listTokens write entries).splitOn .comma = entries.map write := by
    refine List.splitOn_intercalate _ ?_ (by simpa using hne)
    intro part hpart
    obtain ⟨entry, -, rfl⟩ := List.mem_map.mp hpart
    exact hcomma entry
  rw [entries?, hsplit]
  clear hne hsplit
  induction entries with
  | nil => rfl
  | cons entry entries ih =>
    rw [List.map_cons, List.mapM_cons, hread entry, ih]
    rfl

end Command

/-- A text has the same tokens in front of everything that no word runs into. -/
def Lexes (text : String) (parts : List Token) : Prop :=
  ∀ rest, EndsWord rest → tokens (text.toList ++ rest) = parts ++ tokens rest

theorem lexes_name {name : String} (h : IsWord name) : Lexes name (Command.nameTokens name) :=
  fun _ hrest ↦ tokens_word h hrest

theorem lexes_term (term : Term) : Lexes term.text (Command.termTokens term) := by
  intro rest _
  cases term <;> rfl

theorem lexes_assignment {column : String} (h : IsWord column) (term : Term) :
    Lexes (column ++ " = " ++ term.text) (Command.assignmentTokens (column, term)) := by
  intro rest hrest
  have htext : (column ++ " = " ++ term.text).toList ++ rest =
      column.toList ++ (' ' :: '=' :: ' ' :: (term.text.toList ++ rest)) := by
    simp
  rw [htext, tokens_word h (endsWord_blank _)]
  change _ :: .sign "=" :: tokens (term.text.toList ++ rest) = _
  rw [lexes_term term rest hrest]
  rfl

/-- The tokens of a list are those of its entries, with commas between them. -/
theorem lexes_commaList {α : Type} {text : α → String} {parts : α → List Token}
    {entries : List α} (h : ∀ entry ∈ entries, Lexes (text entry) (parts entry)) :
    Lexes (commaList (entries.map text)) (Command.listTokens parts entries) := by
  intro rest hrest
  induction entries with
  | nil => rfl
  | cons entry entries ih =>
    have hentry := h entry List.mem_cons_self
    have hentries := ih fun other hother ↦ h other (List.mem_cons_of_mem _ hother)
    cases entries with
    | nil =>
      rw [List.map_singleton, commaList, String.intercalate_singleton,
        Command.listTokens_singleton]
      exact hentry rest hrest
    | cons second entries =>
      have htext : (commaList ((entry :: second :: entries).map text)).toList ++ rest =
          (text entry).toList ++
            (',' :: ' ' :: ((commaList ((second :: entries).map text)).toList ++ rest)) := by
        simp only [commaList, List.map_cons, String.intercalate_cons_cons, String.toList_append,
          List.append_assoc]
        rfl
      rw [htext, hentry _ (endsWord_comma _), tokens_comma, tokens_blank, hentries,
        Command.listTokens_cons_cons, List.append_assoc, List.cons_append]

theorem lexes_names {names : List String} (h : ∀ name ∈ names, IsWord name) :
    Lexes (commaList names) (Command.listTokens Command.nameTokens names) := by
  have hnames : Lexes (commaList (names.map id)) (Command.listTokens Command.nameTokens names) :=
    lexes_commaList fun name hname ↦ lexes_name (h name hname)
  rwa [List.map_id] at hnames

theorem tokens_insertInto (rest : List Char) :
    tokens ("INSERT INTO ".toList ++ rest) = .word "INSERT" :: .word "INTO" :: tokens rest := by
  rfl

theorem tokens_values (rest : List Char) :
    tokens (" VALUES (".toList ++ rest) = .word "VALUES" :: .opening :: tokens rest := by
  rfl

theorem tokens_select (rest : List Char) :
    tokens ("SELECT ".toList ++ rest) = .word "SELECT" :: tokens rest := by
  rfl

theorem tokens_from (rest : List Char) :
    tokens ("FROM ".toList ++ rest) = .word "FROM" :: tokens rest := by
  rfl

theorem tokens_update (rest : List Char) :
    tokens ("UPDATE ".toList ++ rest) = .word "UPDATE" :: tokens rest := by
  rfl

theorem tokens_set (rest : List Char) :
    tokens ("SET ".toList ++ rest) = .word "SET" :: tokens rest := by
  rfl

theorem tokens_deleteFrom (rest : List Char) :
    tokens ("DELETE FROM ".toList ++ rest) = .word "DELETE" :: .word "FROM" :: tokens rest := by
  rfl

theorem tokens_rowCondition : tokens "WHERE id = ?".toList = Command.rowCondition := by
  rfl

section Statements

variable {table : String} (htable : IsWord table)

include htable

theorem tokens_insert {assignments : List (String × Term)}
    (hcolumns : ∀ assignment ∈ assignments, IsWord assignment.1) :
    tokens (Statement.insert table assignments).text.toList =
      .word "INSERT" :: .word "INTO" :: .word table :: .opening ::
        (Command.listTokens Command.nameTokens (assignments.map Prod.fst) ++
          Token.closing :: .word "VALUES" :: .opening ::
            (Command.listTokens Command.termTokens (assignments.map Prod.snd) ++
              [Token.closing])) := by
  let names := assignments.map Prod.fst
  let terms := assignments.map Prod.snd
  have hnames := lexes_names (List.forall_mem_map.mpr hcolumns)
  have hterms : Lexes (commaList (terms.map Term.text))
      (Command.listTokens Command.termTokens terms) :=
    lexes_commaList fun term _ ↦ lexes_term term
  have htext : (Statement.insert table assignments).text.toList =
      "INSERT INTO ".toList ++ (table.toList ++ ' ' :: '(' :: ((commaList names).toList ++
        ')' :: (" VALUES (".toList ++ ((commaList (terms.map Term.text)).toList ++ [')'])))) := by
    change ("INSERT INTO " ++ table ++ " (" ++ commaList names ++ ") VALUES (" ++
      commaList (assignments.map (·.2.text)) ++ ")").toList = _
    simp [terms, Function.comp_def]
  rw [htext, tokens_insertInto, tokens_word htable (endsWord_blank _), tokens_blank,
    tokens_opening, hnames _ (endsWord_closing _), tokens_closing, tokens_values,
    hterms _ (endsWord_closing _)]
  rfl

theorem ofText?_insert {assignments : List (String × Term)}
    (hcolumns : ∀ assignment ∈ assignments, IsWord assignment.1) (hne : assignments ≠ []) :
    Command.ofText? (Statement.insert table assignments).text =
      some (.insert table (assignments.map Prod.fst) (assignments.map Prod.snd)) := by
  let termTokens := Command.listTokens Command.termTokens (assignments.map Prod.snd)
  have hnamesNe : assignments.map Prod.fst ≠ [] := mt List.map_eq_nil_iff.mp hne
  have hnames := Command.names?_listTokens hnamesNe
    (Token.closing :: .word "VALUES" :: .opening :: (termTokens ++ [Token.closing])) (by simp)
  have hterms : Command.entries? Command.term? termTokens = some (assignments.map Prod.snd) :=
    Command.entries?_listTokens Command.term?_tokens Command.comma_notMem_termTokens
      (mt List.map_eq_nil_iff.mp hne)
  have hsuffix : [Token.closing].isSuffixOf? (termTokens ++ [Token.closing]) = some termTokens :=
    List.isSuffixOf?_eq_some_iff_append_eq.mpr rfl
  rw [Command.ofText?, tokens_insert htable hcolumns]
  change Command.insertion? table _ = _
  rw [Command.insertion?, hnames]
  simp only [hsuffix, hterms, Option.bind_some, Option.map_some]

theorem ofText?_select {columns : List String} (hcolumns : ∀ column ∈ columns, IsWord column)
    (hne : columns ≠ []) :
    Command.ofText? (Statement.select table columns).text = some (.select table columns) := by
  have hnames := lexes_names hcolumns
  have htext : (Statement.select table columns).text.toList =
      "SELECT ".toList ++ ((commaList columns).toList ++ ' ' :: ("FROM ".toList ++
        (table.toList ++ ' ' :: "WHERE id = ?".toList))) := by
    change ("SELECT " ++ commaList columns ++ " FROM " ++ table ++ " WHERE id = ?").toList = _
    simp
  have htokens : tokens (Statement.select table columns).text.toList =
      .word "SELECT" :: (Command.listTokens Command.nameTokens columns ++
        .word "FROM" :: .word table :: Command.rowCondition) := by
    rw [htext, tokens_select, hnames _ (endsWord_blank _), tokens_blank, tokens_from,
      tokens_word htable (endsWord_blank _), tokens_blank, tokens_rowCondition]
  have hread := Command.names?_listTokens hne
    (.word "FROM" :: .word table :: Command.rowCondition) (by simp)
  rw [Command.ofText?, htokens]
  change Command.selection? _ = _
  rw [Command.selection?, hread]
  rfl

theorem ofText?_update {assignments : List (String × Term)}
    (hcolumns : ∀ assignment ∈ assignments, IsWord assignment.1) (hne : assignments ≠ []) :
    Command.ofText? (Statement.update table assignments).text =
      some (.update table assignments) := by
  let text := commaList (assignments.map fun (column, term) ↦ column ++ " = " ++ term.text)
  let parts := Command.listTokens Command.assignmentTokens assignments
  have hassignments : Lexes text parts :=
    lexes_commaList fun assignment hmem ↦ lexes_assignment (hcolumns assignment hmem) assignment.2
  have htext : (Statement.update table assignments).text.toList =
      "UPDATE ".toList ++ (table.toList ++ ' ' :: ("SET ".toList ++ (text.toList ++
        ' ' :: "WHERE id = ?".toList))) := by
    change ("UPDATE " ++ table ++ " SET " ++ text ++ " WHERE id = ?").toList = _
    simp
  have htokens : tokens (Statement.update table assignments).text.toList =
      .word "UPDATE" :: .word table :: .word "SET" :: (parts ++ Command.rowCondition) := by
    rw [htext, tokens_update, tokens_word htable (endsWord_blank _), tokens_blank, tokens_set,
      hassignments _ (endsWord_blank _), tokens_blank, tokens_rowCondition]
  have hread : Command.entries? Command.assignment? parts = some assignments :=
    Command.entries?_listTokens Command.assignment?_tokens Command.comma_notMem_assignmentTokens
      hne
  have hsuffix : Command.rowCondition.isSuffixOf? (parts ++ Command.rowCondition) = some parts :=
    List.isSuffixOf?_eq_some_iff_append_eq.mpr rfl
  rw [Command.ofText?, htokens]
  change (Command.rowCondition.isSuffixOf? (parts ++ Command.rowCondition)).bind _ = _
  rw [hsuffix, Option.bind_some, hread]
  rfl

theorem ofText?_delete :
    Command.ofText? (Statement.delete table).text = some (.delete table) := by
  have htext : (Statement.delete table).text.toList =
      "DELETE FROM ".toList ++ (table.toList ++ ' ' :: "WHERE id = ?".toList) := by
    change ("DELETE FROM " ++ table ++ " WHERE id = ?").toList = _
    simp
  have htokens : tokens (Statement.delete table).text.toList =
      .word "DELETE" :: .word "FROM" :: .word table :: Command.rowCondition := by
    rw [htext, tokens_deleteFrom, tokens_word htable (endsWord_blank _), tokens_blank,
      tokens_rowCondition]
  rw [Command.ofText?, htokens]
  rfl

end Statements

end ProtoCrud.Sql
