import ProtoCrud.Proofs.Record.Exchange

/-!
# What an operation answers, from what the store answered

For every store, the calls of an operation with valid input begin its script, stop at the first
answer that is a failure, and decide the result. An invalid argument is reported before the store
is called, with one exception: a create under an empty id is stored before the id is refused.
-/

namespace ProtoCrud.Record

open Sql Query

variable {α σ : Type}

/-- A backend that reports other numbers of affected rows. -/
def Backend.recount (backend : Backend σ) (count : UInt64 → UInt64) : Backend σ :=
  { backend with
    execute := fun call state ↦
      ((backend.execute call state).1.map count, (backend.execute call state).2) }

@[simp]
theorem recount_freshId (backend : Backend σ) (count : UInt64 → UInt64) :
    (backend.recount count).freshId = backend.freshId :=
  rfl

@[simp]
theorem recount_fetchOptional (backend : Backend σ) (count : UInt64 → UInt64) :
    (backend.recount count).fetchOptional = backend.fetchOptional :=
  rfl

@[simp]
theorem recount_execute (backend : Backend σ) (count : UInt64 → UInt64) (call : Call) (state : σ) :
    (backend.recount count).execute call state =
      ((backend.execute call state).1.map count, (backend.execute call state).2) :=
  rfl

def Operation.returnsRow : Operation → Bool
  | .create _ => true
  | .update .. => true
  | _ => false

section Counts

variable (mapping : Mapping α) (backend : Backend σ) (count : UInt64 → UInt64) (state : σ)

theorem run_get_recount (id : String) :
    (get mapping id).run (backend.recount count) state = (get mapping id).run backend state := by
  unfold get
  split
  · rfl
  · rw [Session.run_fetchOptional, Session.run_fetchOptional, recount_fetchOptional]
    generalize backend.fetchOptional _ _ state = fetched
    obtain ⟨answer, fetched⟩ := fetched
    match answer with
    | .error e => rfl
    | .ok none => rfl
    | .ok (some row) => rfl

theorem run_create_recount (row : NewRow) :
    (create mapping row).run (backend.recount count) state =
      (create mapping row).run backend state := by
  unfold create
  split
  · rfl
  · rw [Session.run_freshId, Session.run_freshId, recount_freshId, Session.run_execute,
      Session.run_execute, recount_execute]
    generalize backend.execute _ _ = written
    obtain ⟨answer, written⟩ := written
    match answer with
    | .error (.uniqueViolation _) => rfl
    | .error (.backend _) => rfl
    | .ok affected =>
      dsimp only [Except.map]
      rw [Session.run_map, Session.run_map, run_get_recount]

theorem run_update_recount (id : String) (changes : Changes) :
    (update mapping id changes).run (backend.recount count) state =
      (update mapping id changes).run backend state := by
  unfold update
  split
  · rfl
  split
  · rfl
  · rw [Session.run_execute, Session.run_execute, recount_execute]
    generalize backend.execute _ _ = written
    obtain ⟨answer, written⟩ := written
    cases answer with
    | error e => rfl
    | ok affected => exact run_get_recount mapping backend count written id

/-- How many rows a write affected is nothing to an operation that reads the row back. -/
theorem run_session_recount {operation : Operation} (h : operation.returnsRow = true) :
    (operation.session mapping).run (backend.recount count) state =
      (operation.session mapping).run backend state := by
  cases operation with
  | create row =>
    rw [Operation.session, Session.run_map, Session.run_map, run_create_recount]
  | update id changes =>
    rw [Operation.session, Session.run_map, Session.run_map, run_update_recount]
  | _ => cases h

end Counts

/-- Whether a call may change the table. -/
def Event.mutates : Event → Bool
  | .execute _ => true
  | _ => false

/-- No operation is made to write twice. -/
theorem countP_mutates_script (operation : Operation) (table : Table) (drawn : String) :
    (operation.script table drawn).countP Event.mutates ≤ 1 := by
  cases operation with
  | create row => exact Nat.le_refl 1
  | get id => exact Nat.zero_le 1
  | update id changes => exact Nat.le_refl 1
  | delete id => exact Nat.le_refl 1
  | list query => exact Nat.zero_le 1

/-- A failure of the store ends every operation. -/
theorem failure?_eq_none (mapping : Mapping α) {operation : Operation} {exchange : Exchange}
    (h : operation.verdict? mapping exchange = none) : exchange.failure? = none := by
  match exchange with
  | .executed _ (.ok _) => rfl
  | .executed _ (.error (.uniqueViolation _)) => cases operation <;> cases h
  | .executed _ (.error (.backend _)) => cases h
  | .fetchedOptional _ _ (.ok _) => rfl
  | .fetchedOptional _ _ (.error _) => cases h
  | .fetchedAll _ _ (.ok _) => rfl
  | .fetchedAll _ _ (.error _) => cases h

/-- What an operation with its calls and its result owes to the answers of the store. -/
structure FollowsAnswers (mapping : Mapping α) (backend : Backend σ) (state : σ)
    (operation : Operation) : Prop where
  /-- The calls begin the script of the operation. -/
  events_prefix : (operation.session mapping).events backend state <+:
    operation.script mapping.table (backend.freshId state).1
  /-- Only an answer that is no failure and lets the operation go on is followed by a call. -/
  proceeds : ∀ exchange ∈ ((operation.session mapping).exchanges backend state).dropLast,
    exchange.failure? = none ∧ operation.verdict? mapping exchange = none
  /-- At most one call may change the table. -/
  mutates_once : ((operation.session mapping).events backend state).countP Event.mutates ≤ 1
  /-- The operation fails with a status exactly if an answer is given this status. -/
  fails_iff : ∀ status,
    status? ((operation.session mapping).run backend state).1 = some status ↔
      ∃ exchange ∈ (operation.session mapping).exchanges backend state,
        operation.verdict? mapping exchange = some status
  /-- It succeeds exactly if all calls are made and every answer lets it go on. -/
  succeeds_iff :
    status? ((operation.session mapping).run backend state).1 = none ↔
      (operation.session mapping).events backend state =
          operation.script mapping.table (backend.freshId state).1 ∧
        ∀ exchange ∈ (operation.session mapping).exchanges backend state,
          operation.verdict? mapping exchange = none
  /-- A create and an update do not look at the number of affected rows. -/
  recount : operation.returnsRow = true → ∀ count,
    (operation.session mapping).run (backend.recount count) state =
      (operation.session mapping).run backend state

/-- With valid input, the answers of the store decide the calls and the result of an operation. -/
theorem session_followsAnswers (mapping : Mapping α) (backend : Backend σ) (state : σ)
    (operation : Operation) (hvalid : operation.IsValid (backend.freshId state).1) :
    FollowsAnswers mapping backend state operation := by
  have hfollows := follows_session mapping backend state hvalid
  have hevents := map_event_exchanges backend state (operation.session mapping)
  have hprefix := hfollows.events_prefix
  rw [hevents] at hprefix
  refine
    { events_prefix := hprefix
      proceeds := ?_
      mutates_once := ?_
      fails_iff := hfollows.status?_eq_some_iff
      succeeds_iff := ?_
      recount := fun h count ↦ run_session_recount mapping backend count state h }
  · intro exchange hexchange
    have hverdict := hfollows.verdict_dropLast exchange hexchange
    exact ⟨failure?_eq_none mapping hverdict, hverdict⟩
  · calc ((operation.session mapping).events backend state).countP Event.mutates
      _ ≤ (operation.script mapping.table (backend.freshId state).1).countP Event.mutates :=
        hprefix.sublist.countP_le
      _ ≤ 1 := countP_mutates_script _ _ _
  · rw [← hevents]
    exact hfollows.status?_eq_none_iff

def widgetNames : Mapping String where
  table := widgets
  fromRow row :=
    match row.values with
    | [_, .text name, _, _, _, _] => .ok name
    | _ => .error (.missingColumn row.values.length)

def newWidget : NewRow :=
  ⟨[("name", true)], [.text "gear"], .null⟩

/-- A widget that the store loses after it was written is an internal failure, not a missing row. -/
theorem lost_widget_followsAnswers :
    (Operation.create newWidget).IsValid "w1" ∧
      FollowsAnswers widgetNames Script.backend ⟨["w1"], [.affected 1, .optionalRow none], []⟩
        (.create newWidget) ∧
      status? (((Operation.create newWidget).session widgetNames).run Script.backend
        ⟨["w1"], [.affected 1, .optionalRow none], []⟩).1 = some .internal :=
  ⟨⟨rfl, by decide⟩, session_followsAnswers _ _ _ _ ⟨rfl, by decide⟩, rfl⟩

/--
Whether a create stores a row under an empty id, which happens if an empty id is drawn and the
insertion succeeds.
-/
def Operation.StoresUnnamed (table : Table) (backend : Backend σ) (state : σ) : Operation → Prop
  | .create row =>
    require row.required = .ok () ∧ (backend.freshId state).1 = "" ∧
      ∃ affected, (backend.execute (table.insertCall "" row) (backend.freshId state).2).1 =
        .ok affected
  | _ => False

/-- No answer of the store is an invalid argument. -/
theorem verdict?_ne_invalidArgument (mapping : Mapping α) (operation : Operation)
    (exchange : Exchange) : operation.verdict? mapping exchange ≠ some .invalidArgument := by
  unfold Operation.verdict?
  repeat' split
  all_goals exact nofun

/-- With valid input, no operation reports an invalid argument. -/
theorem status?_ne_invalidArgument (mapping : Mapping α) (backend : Backend σ) (state : σ)
    {operation : Operation} (hvalid : operation.IsValid (backend.freshId state).1) :
    status? ((operation.session mapping).run backend state).1 ≠ some .invalidArgument := by
  intro h
  have hfollows := follows_session mapping backend state hvalid
  obtain ⟨exchange, -, hverdict⟩ := (hfollows.status?_eq_some_iff _).mp h
  exact verdict?_ne_invalidArgument mapping operation exchange hverdict

section Untouched

variable (mapping : Mapping α) (backend : Backend σ) (state : σ)

/-- A create under an empty id makes one call, and it is an invalid argument if that succeeds. -/
theorem untouched_create_iff {row : NewRow} (hrequired : require row.required = .ok ())
    (hid : (backend.freshId state).1 = "") :
    (status? ((create mapping row).run backend state).1 = some .invalidArgument →
        (create mapping row).events backend state = []) ↔
      ¬ ∃ affected, (backend.execute (mapping.table.insertCall "" row)
        (backend.freshId state).2).1 = .ok affected := by
  have hevents : (create mapping row).events backend state ≠ [] := by
    rw [events_create, hrequired]
    exact List.cons_ne_nil _ _
  rw [iff_false_intro hevents, imp_false]
  refine not_congr ?_
  unfold create
  simp only [hrequired]
  rw [Session.run_freshId, Session.run_execute, hid]
  change _ ↔ ∃ affected, (backend.execute ⟨mapping.table.insertion,
    .text "" :: row.values ++ [row.createdBy]⟩ _).1 = .ok affected
  generalize backend.execute _ _ = written
  obtain ⟨answer, written⟩ := written
  match answer with
  | .error (.uniqueViolation _) => exact ⟨nofun, nofun⟩
  | .error (.backend _) => exact ⟨nofun, nofun⟩
  | .ok affected => exact ⟨fun _ ↦ ⟨affected, rfl⟩, fun _ ↦ rfl⟩

/--
An invalid argument means that the store was not called, for every operation but a create that
stores a row under an empty id.
-/
theorem untouched_iff (operation : Operation) :
    (status? ((operation.session mapping).run backend state).1 = some .invalidArgument →
        (operation.session mapping).events backend state = []) ↔
      ¬ operation.StoresUnnamed mapping.table backend state := by
  by_cases hvalid : operation.IsValid (backend.freshId state).1
  · have hstatus := status?_ne_invalidArgument mapping backend state hvalid
    refine iff_of_true (fun h ↦ absurd h hstatus) ?_
    cases operation with
    | create row => exact fun h ↦ hvalid.2 h.2.1
    | _ => exact not_false
  · cases operation with
    | create row =>
      rw [Operation.session, Session.run_map, status?_map, events_map]
      cases hrequired : require row.required with
      | error e =>
        refine iff_of_true (fun _ ↦ ?_) fun h ↦ ?_
        · rw [events_create, hrequired]
        · cases hrequired.symm.trans h.1
      | ok checked =>
        have hid : (backend.freshId state).1 = "" :=
          Decidable.byContradiction fun h ↦ hvalid ⟨hrequired, h⟩
        rw [untouched_create_iff mapping backend state hrequired hid]
        simp only [Operation.StoresUnnamed, hrequired, hid, true_and]
    | get id =>
      rw [Operation.session, events_map, events_get,
        if_pos (Decidable.not_not.mp hvalid)]
      exact iff_of_true (fun _ ↦ rfl) not_false
    | update id changes =>
      rw [Operation.session, events_map, events_update, if_pos]
      · exact iff_of_true (fun _ ↦ rfl) not_false
      · exact Decidable.byContradiction fun h ↦ hvalid (not_or.mp h)
    | delete id =>
      rw [Operation.session, events_map, events_delete,
        if_pos (Decidable.not_not.mp hvalid)]
      exact iff_of_true (fun _ ↦ rfl) not_false
    | list query => exact absurd trivial hvalid

end Untouched

/-- A create under an empty id has its row stored when it reports an invalid argument. -/
theorem not_forall_untouched :
    ¬ ∀ (α σ : Type) (mapping : Mapping α) (backend : Backend σ) (state : σ)
        (operation : Operation),
      status? ((operation.session mapping).run backend state).1 = some .invalidArgument →
        (operation.session mapping).events backend state = [] := by
  intro h
  cases h _ _ widgetNames Script.backend ⟨[], [.affected 1], []⟩ (.create newWidget) rfl

end ProtoCrud.Record
