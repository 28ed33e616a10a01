import Mathlib.Data.List.Induction
import ProtoCrud.Proofs.Record.Ledger
import ProtoCrud.Proofs.Schema.Resolution

/-!
# Clients that take turns

Any number of clients run one request each against one engine, which answers one call at a time. At
every turn some client takes the next step of its session, so that the calls of the clients come in
any order. What a client changes the rows with is known from its request: nothing that it reads goes
into a later call. The rows are therefore those that the changes of the clients leave when they are
made alone, in the order in which they arrived.
-/

namespace ProtoCrud.Record

open Sql

/-! ## Sessions, step by step -/

namespace Session

variable {α β σ : Type}

def step (backend : Backend σ) : Session α → σ → Session α × σ
  | .done result, state => (.done result, state)
  | .freshId next, state =>
    let (id, state) := backend.freshId state
    (next id, state)
  | .execute call next, state =>
    let (answer, state) := backend.execute call state
    (next answer, state)
  | .fetchOptional call shape next, state =>
    let (answer, state) := backend.fetchOptional call shape state
    (next answer, state)
  | .fetchAll call shape next, state =>
    let (answer, state) := backend.fetchAll call shape state
    (next answer, state)

/-- The call of the next step, if it can change the store. -/
def mutation? : Session α → Option Call
  | .execute call _ => some call
  | _ => none

/--
Whatever the store answers, a session that draws an id can change the store with the given calls
only, makes all of them, and ends within a number of steps.
-/
inductive Mutates (id : String) : Session α → List Call → ℕ → Prop where
  | done {result : α} {steps : ℕ} : Mutates id (.done result) [] steps
  | freshId {next : String → Session α} {calls : List Call} {steps : ℕ}
      (h : Mutates id (next id) calls steps) : Mutates id (.freshId next) calls (steps + 1)
  | execute {call : Call} {next : Answer UInt64 → Session α} {calls : List Call} {steps : ℕ}
      (h : ∀ answer, Mutates id (next answer) calls steps) :
      Mutates id (.execute call next) (call :: calls) (steps + 1)
  | fetchOptional {call : Call} {shape : List ColumnKind}
      {next : Answer (Option Row) → Session α} {calls : List Call} {steps : ℕ}
      (h : ∀ answer, Mutates id (next answer) calls steps) :
      Mutates id (.fetchOptional call shape next) calls (steps + 1)
  | fetchAll {call : Call} {shape : List ColumnKind} {next : Answer (List Row) → Session α}
      {calls : List Call} {steps : ℕ} (h : ∀ answer, Mutates id (next answer) calls steps) :
      Mutates id (.fetchAll call shape next) calls (steps + 1)

variable {id : String} {session : Session α} {calls : List Call} {steps : ℕ}

theorem Mutates.map (f : α → β) (h : session.Mutates id calls steps) :
    (session.map f).Mutates id calls steps := by
  induction h with
  | done => exact .done
  | freshId _ ih => exact .freshId ih
  | execute _ ih => exact .execute ih
  | fetchOptional _ ih => exact .fetchOptional ih
  | fetchAll _ ih => exact .fetchAll ih

/-- One step makes the first of the calls, if any, and leaves the others. -/
theorem Mutates.step (h : session.Mutates id calls steps) (backend : Backend σ) (state : σ)
    (hid : (backend.freshId state).1 = id) :
    ∃ rest, calls = session.mutation?.toList ++ rest ∧
      (session.step backend state).1.Mutates id rest (steps - 1) := by
  cases h with
  | done => exact ⟨[], rfl, .done⟩
  | freshId h => exact ⟨calls, rfl, hid ▸ h⟩
  | execute h => exact ⟨_, rfl, h _⟩
  | fetchOptional h => exact ⟨calls, rfl, h _⟩
  | fetchAll h => exact ⟨calls, rfl, h _⟩

theorem Mutates.eq_nil {result : α} (h : (Session.done result).Mutates id calls steps) :
    calls = [] := by
  cases h
  rfl

theorem Mutates.exists_done (h : session.Mutates id calls 0) :
    ∃ result, session = .done result := by
  cases h
  exact ⟨_, rfl⟩

end Session

/-! ## What requests change the store with -/

def Request.mutation? (table : Table) : Request → Option Call
  | .create id row =>
    match require row.required with
    | .error _ => none
    | .ok () => some (table.insertCall id row)
  | .get _ => none
  | .update id changes =>
    if id = "" ∨ changes.assignments = [] then none else some (table.updateCall id changes)
  | .delete id => if id = "" then none else some ⟨table.removal, [.text id]⟩

section Requests

variable {α : Type} (mapping : Mapping α)

/-- A get changes nothing. -/
theorem mutates_get (fresh id : String) (steps : ℕ) :
    (get mapping id).Mutates fresh [] (steps + 1) := by
  unfold get
  split
  · exact .done
  · refine .fetchOptional fun answer ↦ ?_
    rcases answer with _ | _ | _ <;> exact .done

/-- The only calls that change the store are known from the request, and three steps are enough. -/
theorem mutates_session (request : Request) :
    (request.session mapping).Mutates request.id (request.mutation? mapping.table).toList 3 := by
  cases request with
  | create id row =>
    refine Session.Mutates.map _ ?_
    rw [Request.mutation?, create]
    cases hrequired : require row.required with
    | error e => exact .done
    | ok checked =>
      refine .freshId (.execute fun answer ↦ ?_)
      match answer with
      | .error (.uniqueViolation _) => exact .done
      | .error (.backend _) => exact .done
      | .ok _ => exact (mutates_get mapping id id 0).map _
  | get id => exact (mutates_get mapping id id 2).map _
  | update id changes =>
    refine Session.Mutates.map _ ?_
    rw [Request.mutation?, update]
    by_cases hid : id = ""
    · rw [if_pos hid, if_pos (.inl hid)]
      exact .done
    by_cases hchanges : changes.assignments = []
    · rw [if_neg hid, if_pos (List.isEmpty_iff.mpr hchanges), if_pos (.inr hchanges)]
      exact .done
    · rw [if_neg hid, if_neg (by simpa using hchanges), if_neg (by simp [hid, hchanges])]
      refine .execute fun answer ↦ ?_
      cases answer with
      | error e => exact .done
      | ok affected => exact mutates_get mapping id id 1
  | delete id =>
    refine Session.Mutates.map _ ?_
    rw [Request.mutation?, delete]
    by_cases hid : id = ""
    · rw [if_pos hid, if_pos hid]
      exact .done
    · rw [if_neg hid, if_neg hid]
      refine .execute fun answer ↦ ?_
      cases answer <;> exact .done

end Requests

/-! ## Turns -/

/-- A call that changes the rows, from the client that made it, at the time when it arrived. -/
structure Arrival (Client : Type) where
  now : Timestamp
  client : Client
  call : Call

def Engine.apply (engine : Engine) (now : Timestamp) (call : Call) (rows : Rows) : Rows :=
  ((engine.backend now "").execute call rows).2

/-- The rows behind calls that are made alone, one after the other. -/
def Engine.replay {Client : Type} (engine : Engine) (rows : Rows) (log : List (Arrival Client)) :
    Rows :=
  log.foldl (fun rows arrival ↦ engine.apply arrival.now arrival.call rows) rows

theorem replay_append {Client : Type} (engine : Engine) (rows : Rows)
    (log more : List (Arrival Client)) :
    engine.replay rows (log ++ more) = engine.replay (engine.replay rows log) more :=
  List.foldl_append

/-- Clients with what is left of their sessions, the rows, and the changes in order of arrival. -/
structure Crowd (Client β : Type) where
  sessions : Client → Session β
  rows : Rows
  log : List (Arrival Client)

/-- Only a mutation changes the rows. -/
theorem step_snd {β : Type} (engine : Engine) (now : Timestamp) (id : String)
    (session : Session β) (rows : Rows) :
    (session.step (engine.backend now id) rows).2 =
      session.mutation?.elim rows (engine.apply now · rows) := by
  cases session with
  | fetchOptional call shape next =>
    change ((engine.backend now id).fetchOptional call shape rows).2 = rows
    unfold Engine.backend
    dsimp only
    split <;> rfl
  | _ => rfl

section Crowds

variable {α Client : Type} [DecidableEq Client] (mapping : Mapping α)
  (requests : Client → Request) (rows : Rows)

namespace Crowd

/-- No client has taken a step. -/
def start : Crowd Client (Outcome α) :=
  ⟨fun client ↦ (requests client).session mapping, rows, []⟩

/-- A client takes a step at some time; what it draws, it draws as the id of its request. -/
def turn (crowd : Crowd Client (Outcome α)) (turn : Timestamp × Client) :
    Crowd Client (Outcome α) :=
  let (now, client) := turn
  let session := crowd.sessions client
  let (next, rows) :=
    session.step (mapping.table.engine.backend now (requests client).id) crowd.rows
  { sessions := Function.update crowd.sessions client next
    rows
    log := crowd.log ++ session.mutation?.toList.map (⟨now, client, ·⟩) }

/-- The clients take their turns, in the order of a schedule. -/
def run (schedule : List (Timestamp × Client)) : Crowd Client (Outcome α) :=
  schedule.foldl (turn mapping requests) (start mapping requests rows)

def mutations (crowd : Crowd Client (Outcome α)) (client : Client) : List Call :=
  (crowd.log.filter (·.client = client)).map (·.call)

def HasFinished (crowd : Crowd Client (Outcome α)) (client : Client) : Prop :=
  ∃ outcome, crowd.sessions client = .done outcome

/-- What holds of clients after they have taken numbers of turns, in whatever order. -/
structure IsOnTrack (crowd : Crowd Client (Outcome α)) (taken : Client → ℕ) : Prop where
  rows_eq : crowd.rows = mapping.table.engine.replay rows crowd.log
  /-- A client has made some of the calls of its request, and has the others left. -/
  remaining : ∀ client, ∃ rest,
    ((requests client).mutation? mapping.table).toList = crowd.mutations client ++ rest ∧
      (crowd.sessions client).Mutates (requests client).id rest (3 - taken client)

theorem isOnTrack_start :
    (start mapping requests rows).IsOnTrack mapping requests rows fun _ ↦ 0 where
  rows_eq := rfl
  remaining client := ⟨_, rfl, mutates_session mapping (requests client)⟩

section Turns

variable {mapping requests} (crowd : Crowd Client (Outcome α)) (now : Timestamp)
  {client other : Client}

theorem log_turn :
    (crowd.turn mapping requests (now, client)).log =
      crowd.log ++ (crowd.sessions client).mutation?.toList.map (⟨now, client, ·⟩) :=
  rfl

theorem rows_turn :
    (crowd.turn mapping requests (now, client)).rows =
      (crowd.sessions client).mutation?.elim crowd.rows
        (mapping.table.engine.apply now · crowd.rows) :=
  step_snd mapping.table.engine now (requests client).id (crowd.sessions client) crowd.rows

theorem mutations_turn_self :
    (crowd.turn mapping requests (now, client)).mutations client =
      crowd.mutations client ++ (crowd.sessions client).mutation?.toList := by
  rw [mutations, log_turn, List.filter_append, List.map_append, mutations]
  cases (crowd.sessions client).mutation? <;> simp

theorem mutations_turn_of_ne (hne : client ≠ other) :
    (crowd.turn mapping requests (now, client)).mutations other = crowd.mutations other := by
  rw [mutations, log_turn, List.filter_append, List.map_append, mutations]
  cases (crowd.sessions client).mutation? <;> simp [hne]

theorem sessions_turn_self :
    (crowd.turn mapping requests (now, client)).sessions client =
      ((crowd.sessions client).step (mapping.table.engine.backend now (requests client).id)
        crowd.rows).1 :=
  Function.update_self client _ crowd.sessions

theorem sessions_turn_of_ne (hne : client ≠ other) :
    (crowd.turn mapping requests (now, client)).sessions other = crowd.sessions other :=
  Function.update_of_ne hne.symm _ crowd.sessions

end Turns

variable {mapping requests rows}

/-- A turn of one client leaves all of them on track. -/
theorem IsOnTrack.turn {crowd : Crowd Client (Outcome α)} {taken : Client → ℕ}
    (h : crowd.IsOnTrack mapping requests rows taken) (now : Timestamp) (client : Client) :
    (crowd.turn mapping requests (now, client)).IsOnTrack mapping requests rows fun other ↦
      taken other + if client = other then 1 else 0 := by
  constructor
  · rw [log_turn, replay_append, ← h.rows_eq, rows_turn]
    cases (crowd.sessions client).mutation? <;> rfl
  · intro other
    obtain ⟨rest, hcalls, hmutates⟩ := h.remaining other
    -- The log grows by what the moving client still had to do; the others do not notice.
    by_cases hother : client = other
    · subst hother
      obtain ⟨left, rfl, hleft⟩ := hmutates.step
        (mapping.table.engine.backend now (requests client).id) crowd.rows rfl
      refine ⟨left, ?_, ?_⟩
      · rw [hcalls, mutations_turn_self, List.append_assoc]
      · rw [if_pos rfl, ← Nat.sub_sub, sessions_turn_self]
        exact hleft
    · refine ⟨rest, ?_, ?_⟩
      · rw [hcalls, mutations_turn_of_ne crowd now hother]
      · rw [if_neg hother, Nat.add_zero, sessions_turn_of_ne crowd now hother]
        exact hmutates

variable (mapping requests rows) in
/-- All clients are on track behind any schedule. -/
theorem isOnTrack_run (schedule : List (Timestamp × Client)) :
    (run mapping requests rows schedule).IsOnTrack mapping requests rows fun client ↦
      (schedule.map Prod.snd).count client := by
  induction schedule using List.reverseRecOn with
  | nil => exact isOnTrack_start mapping requests rows
  | append_singleton schedule last ih =>
    have hcount (client : Client) : ((schedule ++ [last]).map Prod.snd).count client =
        (schedule.map Prod.snd).count client + if last.2 = client then 1 else 0 := by
      simp [List.count_append, List.count_singleton]
    rw [run, List.foldl_append, ← run, funext hcount]
    exact ih.turn last.1 last.2

variable {crowd : Crowd Client (Outcome α)} {taken : Client → ℕ} {client : Client}

/-- A client that has finished has made the calls of its request. -/
theorem IsOnTrack.mutations_eq (h : crowd.IsOnTrack mapping requests rows taken)
    (hfinished : crowd.HasFinished client) :
    crowd.mutations client = ((requests client).mutation? mapping.table).toList := by
  obtain ⟨rest, hcalls, hmutates⟩ := h.remaining client
  obtain ⟨outcome, houtcome⟩ := hfinished
  rw [houtcome] at hmutates
  rw [hcalls, hmutates.eq_nil, List.append_nil]

/-- Whatever arrived is the call of the request of its client. -/
theorem IsOnTrack.mutation?_eq (h : crowd.IsOnTrack mapping requests rows taken) :
    ∀ arrival ∈ crowd.log,
      (requests arrival.client).mutation? mapping.table = some arrival.call := by
  intro arrival harrival
  obtain ⟨rest, hcalls, -⟩ := h.remaining arrival.client
  have hmem : arrival.call ∈ crowd.mutations arrival.client :=
    List.mem_map_of_mem (List.mem_filter.mpr ⟨harrival, decide_eq_true rfl⟩)
  exact Option.mem_toList.mp (hcalls ▸ List.mem_append_left rest hmem)

theorem mem_clients_of_mutations_ne_nil (h : crowd.mutations client ≠ []) :
    client ∈ crowd.log.map (·.client) := by
  obtain ⟨call, hcall⟩ := List.exists_mem_of_ne_nil _ h
  obtain ⟨arrival, harrival, -⟩ := List.mem_map.mp hcall
  obtain ⟨hmem, hclient⟩ := List.mem_filter.mp harrival
  exact List.mem_map.mpr ⟨arrival, hmem, of_decide_eq_true hclient⟩

end Crowd

end Crowds

/-! ## Updates that last -/

namespace Engine

variable {id other : String} {change : Cells → Option Cells} {rows : Rows} {cells : Cells}

theorem insertRow_of_some (hrow : rows id = some cells) (fresh : Cells) :
    (insertRow other fresh rows).2 id = some cells := by
  unfold insertRow
  split
  · exact hrow
  · next hfresh =>
    have hne : id ≠ other := by
      rintro rfl
      cases hrow.symm.trans hfresh
    exact (Function.update_of_ne hne _ rows).trans hrow

theorem changeRow_of_some (hrow : rows id = some cells) :
    (changeRow id change rows).2 id = change cells := by
  simp only [changeRow, hrow, Function.update_self]

theorem changeRow_of_ne (hne : id ≠ other) : (changeRow other change rows).2 id = rows id := by
  unfold changeRow
  split
  · exact Function.update_of_ne hne _ _
  · rfl

end Engine

/-- Whether an update assigns columns that may be written, each of them once. -/
def Request.AssignsWritable (table : Table) : Request → Prop
  | .update _ changes =>
    (changes.assignments.map Prod.fst).Nodup ∧ changes.assignments.map Prod.fst ⊆ table.columns
  | _ => True

/-- Whether a request leaves some columns of the row with an id as they are. -/
def Request.Spares (id : String) (columns : List String) : Request → Prop
  | .update other changes => other = id → columns.Disjoint (changes.assignments.map Prod.fst)
  | .delete other => other ≠ id
  | _ => True

section Updates

variable {table : Table} (h : table.IsRegular) {rows : Rows} {id : String} {cells : Cells}
  (hrow : rows id = some cells) (now : Timestamp)

include h hrow

/-- A row stays as it is when a row is added, under whatever id. -/
theorem apply_insertCall (other : String) (row : NewRow) :
    table.engine.apply now (table.insertCall other row) rows id = some cells := by
  have hcommand := h.command?_insertion
  unfold Engine.apply Engine.backend
  dsimp only
  -- Values that do not meet the columns are refused, and an id that is taken is not added again.
  split
  · next effect heffect =>
    rw [Table.insertCall, hcommand, Option.bind_some, Engine.effect?] at heffect
    split at heffect
    · dsimp only at heffect
      split at heffect <;> cases heffect
      exact Engine.insertRow_of_some hrow _
    · cases heffect
  · exact hrow

/-- Columns that a request spares keep their values. -/
theorem apply_of_spares {request : Request} (hwritable : request.AssignsWritable table)
    {columns : List String} (hcolumns : columns ⊆ table.columns)
    (hspares : request.Spares id columns) {call : Call}
    (hcall : request.mutation? table = some call) :
    ∃ after, table.engine.apply now call rows id = some after ∧
      ∀ column ∈ columns, after column = cells column := by
  cases request with
  | create other row =>
    refine ⟨cells, ?_, fun _ _ ↦ rfl⟩
    rw [Request.mutation?] at hcall
    split at hcall <;> cases hcall
    exact apply_insertCall h hrow now other row
  | get other => cases hcall
  | update other changes =>
    rw [Request.mutation?] at hcall
    split at hcall <;> cases hcall
    rw [Engine.apply, h.execute_updateCall now "" other rows hwritable.1 hwritable.2]
    by_cases hother : other = id
    · subst hother
      refine ⟨_, Engine.changeRow_of_some hrow, fun column hcolumn ↦ ?_⟩
      have hstamps : column ∉ ["updated_by", "updated_at"] := by
        intro hmem
        simp only [List.mem_cons, List.not_mem_nil, or_false] at hmem
        rcases hmem with rfl | rfl <;> exact h.notMem_columns rfl (hcolumns hcolumn)
      refine Cells.assign_of_notMem ?_
      rw [List.map_append, List.mem_append, not_or]
      exact ⟨hspares rfl hcolumn, hstamps⟩
    · exact ⟨cells, (Engine.changeRow_of_ne (Ne.symm hother)).trans hrow, fun _ _ ↦ rfl⟩
  | delete other =>
    rw [Request.mutation?] at hcall
    split at hcall <;> cases hcall
    rw [Engine.apply, h.execute_removal now "" other rows]
    exact ⟨cells, (Engine.changeRow_of_ne (Ne.symm hspares)).trans hrow, fun _ _ ↦ rfl⟩

/-- An update gives its columns their new values. -/
theorem apply_updateCall {changes : Changes} (hnodup : (changes.assignments.map Prod.fst).Nodup)
    (hsubset : changes.assignments.map Prod.fst ⊆ table.columns) :
    ∃ after, table.engine.apply now (table.updateCall id changes) rows id = some after ∧
      ∀ assignment ∈ changes.assignments, after assignment.1 = assignment.2 := by
  rw [Engine.apply, h.execute_updateCall now "" id rows hnodup hsubset]
  refine ⟨_, Engine.changeRow_of_some hrow, fun assignment hassignment ↦ ?_⟩
  rw [Cells.assign_append, Cells.assign, Schema.lookup_of_mem hnodup hassignment, Option.getD_some]

end Updates

/--
A row stays while calls of requests that do not delete it are made, and an update whose call is
among them lasts if the others spare its columns.
-/
theorem replay_of_spares {Client : Type} {table : Table} (h : table.IsRegular)
    {requests : Client → Request} (hwritable : ∀ client, (requests client).AssignsWritable table)
    {client : Client} {id : String} {changes : Changes}
    (hclient : requests client = .update id changes)
    (hspares : ∀ other, other ≠ client →
      (requests other).Spares id (changes.assignments.map Prod.fst))
    {rows : Rows} (hrow : (rows id).isSome = true) (log : List (Arrival Client))
    (hlog : ∀ arrival ∈ log,
      (requests arrival.client).mutation? table = some arrival.call) :
    ∃ cells, table.engine.replay rows log id = some cells ∧
      (client ∈ log.map (·.client) →
        ∀ assignment ∈ changes.assignments, cells assignment.1 = assignment.2) := by
  have hown := hwritable client
  rw [hclient] at hown
  -- From the back: the last call is the update itself, or it spares what the update has assigned.
  induction log using List.reverseRecOn with
  | nil =>
    obtain ⟨cells, hcells⟩ := Option.isSome_iff_exists.mp hrow
    exact ⟨cells, hcells, nofun⟩
  | append_singleton log last ih =>
    obtain ⟨cells, hcells, hkept⟩ :=
      ih fun arrival harrival ↦ hlog arrival (List.mem_append_left _ harrival)
    have hlast := hlog last (List.mem_append_right _ List.mem_cons_self)
    rw [replay_append]
    by_cases hother : last.client = client
    · rw [hother, hclient, Request.mutation?] at hlast
      split at hlast
      · cases hlast
      · obtain ⟨after, hafter, hassigned⟩ :=
          apply_updateCall h hcells last.now hown.1 hown.2
        rw [Option.some.inj hlast] at hafter
        exact ⟨after, hafter, fun _ ↦ hassigned⟩
    · obtain ⟨after, hafter, hspared⟩ := apply_of_spares h hcells last.now
        (hwritable last.client) hown.2 (hspares last.client hother) hlast
      refine ⟨after, hafter, fun hmem assignment hassignment ↦ ?_⟩
      have hearlier : client ∈ log.map (·.client) := by
        simpa [Ne.symm hother] using hmem
      rw [hspared _ (List.mem_map_of_mem hassignment), hkept hearlier assignment hassignment]

/--
Clients that run one request each can take their turns in any order. What a client changes the rows
with is what its own request says, and it ends within three turns. The rows are those that the
changes leave when they are made alone, in the order in which they arrived. An update of a row that
exists lasts if the others neither delete the row nor assign the same columns of it.
-/
theorem run_isSerial {α Client : Type} [DecidableEq Client] (mapping : Mapping α)
    (requests : Client → Request) (rows : Rows) (schedule : List (Timestamp × Client)) :
    let crowd := Crowd.run mapping requests rows schedule
    (∀ client,
      crowd.mutations client <+: ((requests client).mutation? mapping.table).toList ∧
        (crowd.HasFinished client →
          crowd.mutations client = ((requests client).mutation? mapping.table).toList) ∧
        (3 ≤ (schedule.map Prod.snd).count client → crowd.HasFinished client)) ∧
      crowd.rows = mapping.table.engine.replay rows crowd.log ∧
      (mapping.table.IsRegular →
        (∀ client, (requests client).AssignsWritable mapping.table) →
          ∀ client id changes, requests client = .update id changes → id ≠ "" →
            (rows id).isSome = true →
            (∀ other, other ≠ client →
              (requests other).Spares id (changes.assignments.map Prod.fst)) →
            crowd.HasFinished client →
              ∃ cells, crowd.rows id = some cells ∧
                ∀ assignment ∈ changes.assignments, cells assignment.1 = assignment.2) := by
  have htrack := Crowd.isOnTrack_run mapping requests rows schedule
  refine ⟨fun client ↦ ⟨?_, htrack.mutations_eq, fun hturns ↦ ?_⟩, htrack.rows_eq, ?_⟩
  · obtain ⟨rest, hcalls, -⟩ := htrack.remaining client
    exact ⟨rest, hcalls.symm⟩
  · obtain ⟨rest, -, hmutates⟩ := htrack.remaining client
    rw [Nat.sub_eq_zero_of_le hturns] at hmutates
    exact hmutates.exists_done
  · intro h hwritable client id changes hclient hid hrow hspares hfinished
    obtain ⟨cells, hcells, hlasts⟩ := replay_of_spares h hwritable hclient hspares hrow _
      htrack.mutation?_eq
    rw [← htrack.rows_eq] at hcells
    refine ⟨cells, hcells, fun assignment hassignment ↦ ?_⟩
    have hmutations := htrack.mutations_eq hfinished
    rw [hclient, Request.mutation?,
      if_neg (by simp [hid, List.ne_nil_of_mem hassignment])] at hmutations
    exact hlasts (Crowd.mem_clients_of_mutations_ne_nil (by simp [hmutations])) assignment
      hassignment

def parcels : Table where
  entity := "Parcel"
  name := "parcel"
  columns := ["place", "state"]
  selected := ["id", "place", "state", "created_at", "updated_at", "created_by", "updated_by"]
  shape := [.text, .text, .text, .timestamp, .timestamp, .text, .text]
  filterable := ["place", "state"]

/-- Two updates of one parcel, and a client that adds a parcel under the same id. -/
def parcelRequests : Fin 3 → Request
  | 0 => .update "p" ⟨[("place", .text "hall")], .text "ann"⟩
  | 1 => .update "p" ⟨[("state", .text "sent")], .text "bob"⟩
  | 2 => .create "p" ⟨[], [.text "yard", .text "new"], .null⟩

/-- Both updates are made before either parcel is read back, with the new parcel in between. -/
def parcelSchedule : List (Timestamp × Fin 3) :=
  [(⟨1, 0⟩, 2), (⟨2, 0⟩, 0), (⟨3, 0⟩, 2), (⟨4, 0⟩, 1), (⟨5, 0⟩, 1), (⟨6, 0⟩, 0), (⟨7, 0⟩, 1),
    (⟨8, 0⟩, 0), (⟨9, 0⟩, 2)]

/-- A parcel without a place and a state is stored under every id. -/
def storedParcels : Rows := fun _ ↦ some fun _ ↦ .null

/-- Both updates last. -/
theorem both_updates_last :
    ∃ after, (Crowd.run ⟨parcels, .ok⟩ parcelRequests storedParcels parcelSchedule).rows "p" =
        some after ∧
      after "place" = .text "hall" ∧ after "state" = .text "sent" := by
  have hregular : parcels.IsRegular :=
    { name := .of_all (by decide) (by decide)
      words := by
        intro column hcolumn
        simp only [parcels, List.mem_cons, List.not_mem_nil, or_false] at hcolumn
        rcases hcolumn with rfl | rfl <;> exact .of_all (by decide) (by decide)
      nodup := by decide
      writable := by decide
      selected := by decide }
  have hwritable : ∀ client, (parcelRequests client).AssignsWritable parcels := by
    simp [Fin.forall_fin_succ, parcelRequests, Request.AssignsWritable, parcels]
  obtain ⟨hclients, -, hlasts⟩ :=
    run_isSerial ⟨parcels, Except.ok⟩ parcelRequests storedParcels parcelSchedule
  have hfinished (client : Fin 3) := (hclients client).2.2 (by revert client; decide)
  obtain ⟨after, hafter, hplace⟩ := hlasts hregular hwritable 0 "p" _ rfl (by decide) rfl
    (by simp [Fin.forall_fin_succ, parcelRequests, Request.Spares]) (hfinished 0)
  obtain ⟨same, hsame, hstate⟩ := hlasts hregular hwritable 1 "p" _ rfl (by decide) rfl
    (by simp [Fin.forall_fin_succ, parcelRequests, Request.Spares]) (hfinished 1)
  obtain rfl := Option.some.inj (hsame.symm.trans hafter)
  exact ⟨same, hafter, hplace _ List.mem_cons_self, hstate _ List.mem_cons_self⟩

end ProtoCrud.Record
