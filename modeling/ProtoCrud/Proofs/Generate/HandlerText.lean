import ProtoCrud.Proofs.Generate.RecordText

/-!
# What the code of an entity says about its operations

The code of an entity consists of its record and of one function for each operation. The functions
are read back with their names, their types and what their bodies do, and these are the plans of
the operations: which fields a create checks and writes, and which columns an update sets.
-/

namespace ProtoCrud.Generate

open Code Handler Schema

namespace Scanner

open Code.Scanner

def requestField : Scanner String := do
  plain "request."
  name

def author : Scanner (Option String) :=
  pick
    [("SqlValue::Null", pure none),
      ("SqlValue::from(", do
        let field ← requestField
        plain ")"
        return some field)]

def presenceCheck : Scanner PresenceCheck := do
  plain "("
  let shown ← quoted
  plain ", !"
  let field ← requestField
  plain ".is_empty())"
  return ⟨shown, field⟩

def createValue : Scanner CreateValue :=
  pick
    [("SqlValue::Null", pure .null),
      ("SqlValue::from(request.", do
        let field ← name
        plain ")"
        return .requested field),
      ("SqlValue::from(<", do
        let type ← columnType
        plain "as Default>::default())"
        return .typeDefault type),
      ("SqlValue::from(", do
        let codec ← name
        pick
          [(".default_storage())", pure (.codecDefault codec)),
            (".encode_or_default(", do
              let field ← requestField
              plain "))"
              return .encodedOrDefault codec field),
            (".encode(", do
              let field ← requestField
              plain "))"
              return .encoded codec field)])]

theorem takes_requestField (field : String) :
    requestField.Takes (code "request." ++ Code.name field) field :=
  (takes_plain _).bind (takes_name field)

theorem takes_author (field : Option String) : author.Takes (authorCode field) field := by
  cases field with
  | none => exact Takes.pick_pure
  | some field =>
    have hcode : authorCode (some field) =
        code "SqlValue::from(" ++ ((code "request." ++ Code.name field) ++ code ")") := by
      have hrequest : code "SqlValue::from(request." =
          code "SqlValue::from(" ++ code "request." := by
        decide +kernel
      rw [authorCode, hrequest]
      simp only [List.append_assoc]
    rw [hcode]
    refine Takes.pick_there (mismatch_append (by decide +kernel) _) (Takes.pick_here ?_)
    exact (takes_requestField field).bind ((takes_plain _).return _)

theorem takes_presenceCheck (check : PresenceCheck) :
    presenceCheck.Takes (checkCode check) check := by
  have hcode : checkCode check = code "(" ++ (Code.quoted check.name ++ (code ", !" ++
      ((code "request." ++ Code.name check.field) ++ code ".is_empty())"))) := by
    have hopen : code "(" = [.plain "("] := by decide +kernel
    have hrequest : code ", !request." = code ", !" ++ code "request." := by decide +kernel
    have hend : code ".is_empty())" = code ".is_empty()" ++ [.plain ")"] := by decide +kernel
    simp only [checkCode, parenthesised, hopen, hrequest, hend, List.append_assoc,
      List.cons_append, List.nil_append]
  rw [hcode]
  exact (takes_plain _).bind ((takes_quoted _).bind ((takes_plain _).bind
    ((takes_requestField _).bind ((takes_plain _).return _))))

theorem takes_createValue (value : CreateValue) :
    createValue.Takes (createValueCode value) value := by
  have hrequest : code "SqlValue::from(request." =
      code "SqlValue::from(" ++ .plain "request" :: [.plain "."] := by
    decide +kernel
  have hdefault : code "SqlValue::from(<" = code "SqlValue::from(" ++ .plain "<" :: [] := by
    decide +kernel
  have hnull : mismatch (code "SqlValue::Null") (code "SqlValue::from(") = true := by
    decide +kernel
  -- a codec stands where the other values have a sign or the word for the request
  have hcodec {codec : String} {given : List Token} {result : CreateValue}
      (h : (pick [(".default_storage())", pure (.codecDefault codec)),
          (".encode_or_default(", do
            let field ← requestField
            plain "))"
            return .encodedOrDefault codec field),
          (".encode(", do
            let field ← requestField
            plain "))"
            return .encoded codec field)] : Scanner CreateValue).Takes given result) :
      createValue.Takes (code "SqlValue::from(" ++ (Code.name codec ++ given)) result := by
    have hname {text word : String} {expected : List Token}
        (htext : code text = code "SqlValue::from(" ++ .plain word :: expected) :
        mismatch (code text) (code "SqlValue::from(" ++ (Code.name codec ++ given)) = true := by
      rw [htext, ← List.append_assoc]
      exact mismatch_append (mismatch_name _ _ _ codec) given
    refine Takes.pick_there (mismatch_append hnull _) (Takes.pick_there (hname hrequest)
      (Takes.pick_there (hname hdefault) ?_))
    exact Takes.pick_here ((takes_name codec).bind h)
  cases value with
  | null => exact Takes.pick_pure
  | requested field =>
    rw [createValueCode, List.append_assoc]
    refine Takes.pick_there (mismatch_append (by decide +kernel) _) (Takes.pick_here ?_)
    exact (takes_name field).bind ((takes_plain _).return _)
  | typeDefault type =>
    simp only [createValueCode, List.append_assoc]
    refine Takes.pick_there (mismatch_append (by decide +kernel) _)
      (Takes.pick_there (mismatch_append (by decide +kernel) _) ?_)
    exact Takes.pick_here ((takes_columnType type).bind ((takes_plain _).return _))
  | codecDefault codec =>
    simp only [createValueCode, List.append_assoc]
    exact hcodec Takes.pick_pure
  | encodedOrDefault codec field =>
    have hencode : code ".encode_or_default(request." =
        code ".encode_or_default(" ++ code "request." := by
      decide +kernel
    simp only [createValueCode, hencode, List.append_assoc]
    refine hcodec (Takes.pick_there (mismatch_append (by decide +kernel) _) (Takes.pick_here ?_))
    rw [← List.append_assoc]
    exact (takes_requestField field).bind ((takes_plain _).return _)
  | encoded codec field =>
    have hencode : code ".encode(request." = code ".encode(" ++ code "request." := by
      decide +kernel
    simp only [createValueCode, hencode, List.append_assoc]
    refine hcodec (Takes.pick_there (mismatch_append (by decide +kernel) _)
      (Takes.pick_there (mismatch_append (by decide +kernel) _) (Takes.pick_here ?_)))
    rw [← List.append_assoc]
    exact (takes_requestField field).bind ((takes_plain _).return _)

end Scanner

/-- What the body of a function does with its request. -/
inductive HandlerBody where
  | create (plan : CreatePlan)
  | get
  | update (plan : UpdatePlan)
  | delete
  /-- The search is in this field of the request, if there is one. -/
  | list (search : Option String)
  deriving DecidableEq

def HandlerBody.ofOperation (entity : Entity) (kind : MethodKind) (shape : RequestShape) :
    HandlerBody :=
  match kind with
  | .create => .create (createPlan entity shape)
  | .get => .get
  | .update => .update (updatePlan entity shape)
  | .delete => .delete
  | .list => .list (shape.searchField.map fieldIdentifier)

namespace Scanner

open Code.Scanner

/-- Takes the end of a call for the records of the given type. -/
def call (typeName : String) (arguments : String) : Scanner Unit := do
  tokens [.name typeName]
  plain arguments

def assignedValue : Scanner UpdateValue :=
  pick
    [("request.", do
        let field ← name
        return .requested field),
      ("", do
        let codec ← name
        plain ".encode("
        let field ← requestField
        pick
          [(".unwrap_or_default())", pure (.encodedOrZero codec field)),
            (")", pure (.encoded codec field))])]

def assignment : Scanner Assignment :=
  pick
    [("changes.set(", do
        let column ← quoted
        plain ","
        let value ← assignedValue
        plain ");"
        return ⟨column, value⟩),
      ("if let Some(value) =", do
        let field ← requestField
        plain "\x7b changes.set("
        let column ← quoted
        plain ", value);\x7d"
        return ⟨column, .ifPresent field⟩)]

/-- Changes are only set where they are mutable. -/
def assignments (areMutable : Bool) : Scanner (List Assignment) :=
  if areMutable then many assignment else pure []

def create (typeName : String) (usesRequest : Bool) : Scanner HandlerBody := do
  let checks ← many presenceCheck.withComma
  plain "]; let row = NewRow \x7b required, values: vec!["
  let values ← many createValue.withComma
  plain "], created_by:"
  let author ← author
  plain ",\x7d; crud::create::<proto::"
  call typeName ">(&self.store, self.ids.as_ref(), row).await"
  return .create ⟨checks, values, author, usesRequest⟩

def update (typeName : String) (areMutable : Bool) : Scanner HandlerBody := do
  plain "Changes \x7b updated_by:"
  let author ← author
  plain ", ..Default::default()\x7d;"
  let assignments ← assignments areMutable
  plain "crud::update::<proto::"
  call typeName ">(&self.store, &request.id, changes).await"
  return .update ⟨assignments, author⟩

def list (typeName : String) : Scanner HandlerBody := do
  let search ← pick
    [("ListQuery::default();", pure none),
      ("ListQuery::from_search(", do
        let field ← requestField
        plain ");"
        return some field)]
  plain "crud::list::<proto::"
  call typeName ">(&self.store, &query).await"
  return .list search

/-- Takes a body that works on records of the given type. -/
def handlerBody (typeName : String) (usesRequest : Bool) : Scanner HandlerBody :=
  pick
    [("let required = vec![", create typeName usesRequest),
      ("let changes =", update typeName false),
      ("let mut changes =", update typeName true),
      ("let query =", list typeName),
      ("crud::get::<proto::", do
        call typeName ">(&self.store, &request.id).await"
        return .get),
      ("crud::delete::<proto::", do
        call typeName ">(&self.store, &request.id).await"
        return .delete)]

theorem takes_assignedValue (field : String) :
    assignedValue.Takes (code "request." ++ Code.name field) (.requested field) :=
  Takes.pick_here ((takes_name field).return _)

/-- A value that a codec encodes is told by the name of the codec in front. -/
theorem takes_assignedCodec {codec field : String} {given : List Token} {value : UpdateValue}
    (h : (pick [(".unwrap_or_default())", pure (.encodedOrZero codec field)),
      (")", pure (.encoded codec field))] : Scanner UpdateValue).Takes given value) :
    assignedValue.Takes
      (Code.name codec ++ (code ".encode(" ++ ((code "request." ++ Code.name field) ++ given)))
      value := by
  have hrequest : code "request." = [] ++ .plain "request" :: [.plain "."] := by
    decide +kernel
  have hname : mismatch (code "request.") (Code.name codec) = true := by
    rw [hrequest]
    exact mismatch_name [] _ _ codec
  have hnothing : code "" = [] := rfl
  refine Takes.pick_there (mismatch_append hname _) ?_
  rw [← List.nil_append (Code.name codec ++ _), ← hnothing]
  exact Takes.pick_here ((takes_name codec).bind ((takes_plain _).bind
    ((takes_requestField field).bind h)))

/-- Takes what stands between the brackets of a call that sets a column. -/
theorem takes_set {column : String} {given : List Token} {value : UpdateValue}
    (h : assignedValue.Takes given value) :
    assignment.Takes
      (code "changes.set(" ++ (Code.quoted column ++ (code "," ++ (given ++ code ");"))))
      ⟨column, value⟩ :=
  Takes.pick_here ((takes_quoted column).bind ((takes_plain _).bind
    (h.bind ((takes_plain _).return _))))

theorem takes_assignment (assigned : Assignment) :
    assignment.Takes (assignmentCode assigned) assigned := by
  obtain ⟨column, value⟩ := assigned
  have hset : code "changes.set(" = code "changes.set" ++ [.plain "("] := by decide +kernel
  have hend : code ");" = .plain ")" :: code ";" := by decide +kernel
  have hencode : code ".encode(request." = code ".encode(" ++ code "request." := by
    decide +kernel
  have hwrites (given : List Token) : code "changes.set" ++
      parenthesised (Code.quoted column ++ code "," ++ given) ++ code ";" =
        code "changes.set(" ++ (Code.quoted column ++ (code "," ++ (given ++ code ");"))) := by
    simp only [parenthesised, hset, hend, List.append_assoc, List.cons_append, List.nil_append]
  -- what the codec encodes is the request's field with brackets of its own
  have hencoded (codec field : String) (given : List Token) :
      Code.name codec ++ code ".encode(request." ++ Code.name field ++ given =
        Code.name codec ++ (code ".encode(" ++
          ((code "request." ++ Code.name field) ++ given)) := by
    simp only [hencode, List.append_assoc]
  cases value with
  | requested field =>
    rw [show assignmentCode ⟨column, .requested field⟩ = _ from hwrites _]
    exact takes_set (takes_assignedValue field)
  | encoded codec field =>
    rw [show assignmentCode ⟨column, .encoded codec field⟩ = _ from hwrites _, hencoded]
    exact takes_set (takes_assignedCodec (Takes.pick_there (by decide +kernel) Takes.pick_pure))
  | encodedOrZero codec field =>
    rw [show assignmentCode ⟨column, .encodedOrZero codec field⟩ = _ from hwrites _, hencoded]
    exact takes_set (takes_assignedCodec Takes.pick_pure)
  | ifPresent field =>
    have hcode : assignmentCode ⟨column, .ifPresent field⟩ = code "if let Some(value) =" ++
        ((code "request." ++ Code.name field) ++ (code "\x7b changes.set(" ++
          (Code.quoted column ++ code ", value);\x7d"))) := by
      have hif : code "if let Some(value) = request." =
          code "if let Some(value) =" ++ code "request." := by
        decide +kernel
      have hopen : code "\x7b changes.set(" = .plain "\x7b" :: code "changes.set(" := by
        decide +kernel
      have hvalue : code ", value);\x7d" =
          code "," ++ (code "value" ++ (code ");" ++ [.plain "\x7d"])) := by
        decide +kernel
      have hwritten : assignmentCode ⟨column, .ifPresent field⟩ =
          code "if let Some(value) = request." ++ Code.name field ++
            braced (code "changes.set(" ++
              (Code.quoted column ++ (code "," ++ (code "value" ++ code ");")))) := by
        rw [← hwrites]
        rfl
      rw [hwritten]
      simp only [braced, hif, hopen, hvalue, List.append_assoc, List.cons_append]
    rw [hcode]
    refine Takes.pick_there (mismatch_append (by decide +kernel) _) (Takes.pick_here ?_)
    exact (takes_requestField field).bind ((takes_plain _).bind ((takes_quoted column).bind
      ((takes_plain _).return _)))

theorem assignmentCode_ne_nil (assigned : Assignment) : assignmentCode assigned ≠ [] := by
  obtain ⟨column, value⟩ := assigned
  cases value <;> simp [assignmentCode, parenthesised, Code.name]

theorem takes_call (typeName arguments : String) :
    (call typeName arguments).Takes (Code.name typeName ++ code arguments) () :=
  (takes_tokens _).bind (takes_plain _)

/-- Where there are no assignments, the changes are not mutable. -/
theorem takes_assignments_bind {assigned : List Assignment} {rest : List Token}
    (hstop : ∀ behind, assignment (rest ++ behind) = none)
    {β : Type} {next : List Assignment → Scanner β} {result : β}
    (hnext : (next assigned).Takes rest result) :
    (assignments (!assigned.isEmpty) >>= next).Takes
      (assigned.flatMap assignmentCode ++ rest) result := by
  cases assigned with
  | nil => exact hnext
  | cons first others =>
    exact Takes.many_bind_self (fun assigned _ ↦ takes_assignment assigned)
      (fun assigned _ ↦ assignmentCode_ne_nil assigned) hstop hnext

variable (typeName : String)

theorem takes_create (plan : CreatePlan) :
    (handlerBody typeName plan.usesRequest).Takes
      (createCode plan (code "proto::" ++ Code.name typeName)) (.create plan) := by
  have hcode : createCode plan (code "proto::" ++ Code.name typeName) =
      code "let required = vec![" ++ (listed (plan.checks.map checkCode) ++
        (code "]; let row = NewRow \x7b required, values: vec![" ++
          (listed (plan.values.map createValueCode) ++ (code "], created_by:" ++
            (authorCode plan.author ++ (code ",\x7d; crud::create::<proto::" ++
              (Code.name typeName ++
                code ">(&self.store, self.ids.as_ref(), row).await"))))))) := by
    have hchecks : code "let required = vec![" = code "let required = vec!" ++ [.plain "["] := by
      decide +kernel
    have hrow : code "]; let row = NewRow \x7b required, values: vec![" =
        .plain "]" :: (code "; let row = NewRow" ++ (.plain "\x7b" :: (code "required" ++
          (.plain "," :: (code "values: vec!" ++ [.plain "["]))))) := by
      decide +kernel
    have hvalues : code "], created_by:" = .plain "]" :: .plain "," :: code "created_by:" := by
      decide +kernel
    have hcall : code ",\x7d; crud::create::<proto::" = .plain "," :: .plain "\x7d" ::
        (code "; crud::create::" ++ (.plain "<" :: code "proto::")) := by
      decide +kernel
    have hend : code ">(&self.store, self.ids.as_ref(), row).await" =
        .plain ">" :: code "(&self.store, self.ids.as_ref(), row).await" := by
      decide +kernel
    simp only [createCode, listed, squared, braced, angled, List.flatMap_cons, List.flatMap_nil,
      hchecks, hrow, hvalues, hcall, hend, List.append_assoc, List.cons_append, List.nil_append]
  have hchecksEnd (rest behind : List Token) : presenceCheck
      ((code "]; let row = NewRow \x7b required, values: vec![" ++ rest) ++ behind) = none :=
    plain_bind_eq_none (mismatch_append (mismatch_append (by decide +kernel) rest) behind)
  have hvaluesEnd (rest behind : List Token) :
      createValue ((code "], created_by:" ++ rest) ++ behind) = none := by
    rw [List.append_assoc]
    rw [createValue, pick_cons_of_mismatch (mismatch_append (by decide +kernel) _),
      pick_cons_of_mismatch (mismatch_append (by decide +kernel) _),
      pick_cons_of_mismatch (mismatch_append (by decide +kernel) _),
      pick_cons_of_mismatch (mismatch_append (by decide +kernel) _), pick]
  have hbody : (create typeName plan.usesRequest).Takes _ (.create plan) :=
    Takes.listed_bind_self (fun (check : PresenceCheck) (_ : check ∈ plan.checks) ↦
        takes_presenceCheck check) (hchecksEnd _) <| (takes_plain _).bind <|
      Takes.listed_bind_self (fun (value : CreateValue) (_ : value ∈ plan.values) ↦
          takes_createValue value) (hvaluesEnd _) <| (takes_plain _).bind <|
        (takes_author plan.author).bind <| (takes_plain _).bind <|
          (takes_call typeName _).return fun _ ↦ HandlerBody.create plan
  rw [hcode]
  exact Takes.pick_here hbody

theorem takes_update (plan : UpdatePlan) (usesRequest : Bool) :
    (handlerBody typeName usesRequest).Takes
      (updateCode plan (code "proto::" ++ Code.name typeName)) (.update plan) := by
  have hcode : updateCode plan (code "proto::" ++ Code.name typeName) =
      code (if plan.assignments.isEmpty then "let changes =" else "let mut changes =") ++
        (code "Changes \x7b updated_by:" ++ (authorCode plan.author ++
          (code ", ..Default::default()\x7d;" ++ (plan.assignments.flatMap assignmentCode ++
            (code "crud::update::<proto::" ++ (Code.name typeName ++
              code ">(&self.store, &request.id, changes).await")))))) := by
    have hlet : code (if plan.assignments.isEmpty then "let changes =" else "let mut changes =") =
        code (if plan.assignments.isEmpty then "let changes" else "let mut changes") ++
          code "=" := by
      split <;> decide +kernel
    have hchanges : code "= Changes" = code "=" ++ code "Changes" := by decide +kernel
    have hauthor : code "Changes \x7b updated_by:" =
        code "Changes" ++ (.plain "\x7b" :: code "updated_by:") := by
      decide +kernel
    have hdefault : code ", ..Default::default()\x7d;" =
        code ", ..Default::default()" ++ (.plain "\x7d" :: code ";") := by
      decide +kernel
    have hcall : code "crud::update::<proto::" =
        code "crud::update::" ++ (.plain "<" :: code "proto::") := by
      decide +kernel
    have hend : code ">(&self.store, &request.id, changes).await" =
        .plain ">" :: code "(&self.store, &request.id, changes).await" := by
      decide +kernel
    simp only [updateCode, braced, angled, hlet, hchanges, hauthor, hdefault, hcall, hend,
      List.append_assoc, List.cons_append, List.nil_append]
  have hassignmentsEnd (rest behind : List Token) :
      assignment ((code "crud::update::<proto::" ++ rest) ++ behind) = none := by
    rw [List.append_assoc]
    rw [assignment, pick_cons_of_mismatch (mismatch_append (by decide +kernel) _),
      pick_cons_of_mismatch (mismatch_append (by decide +kernel) _), pick]
  have hbody : (update typeName !plan.assignments.isEmpty).Takes _ (.update plan) :=
    (takes_plain _).bind <| (takes_author plan.author).bind <| (takes_plain _).bind <|
      takes_assignments_bind (hassignmentsEnd _) <| (takes_plain _).bind <|
        (takes_call typeName _).return fun _ ↦ HandlerBody.update plan
  rw [hcode]
  cases hempty : plan.assignments.isEmpty with
  | true =>
    rw [hempty] at hbody
    exact Takes.pick_there (mismatch_append (by decide +kernel) _) (Takes.pick_here hbody)
  | false =>
    rw [hempty] at hbody
    exact Takes.pick_there (mismatch_append (by decide +kernel) _)
      (Takes.pick_there (mismatch_append (by decide +kernel) _) (Takes.pick_here hbody))

theorem takes_list (searchField : Option String) (usesRequest : Bool) :
    (handlerBody typeName usesRequest).Takes
      (listCode searchField (code "proto::" ++ Code.name typeName))
      (.list (searchField.map fieldIdentifier)) := by
  have hquery : code "; crud::list::" = .plain ";" :: code "crud::list::" := by decide +kernel
  have hlist : code "crud::list::<proto::" =
      code "crud::list::" ++ (.plain "<" :: code "proto::") := by
    decide +kernel
  have hend : code ">(&self.store, &query).await" =
      .plain ">" :: code "(&self.store, &query).await" := by
    decide +kernel
  have hcode (query : List Token) : code "let query =" ++ query ++ code "; crud::list::" ++
      angled (code "proto::" ++ Code.name typeName) ++ code "(&self.store, &query).await" =
        code "let query =" ++ ((query ++ [.plain ";"]) ++ (code "crud::list::<proto::" ++
          (Code.name typeName ++ code ">(&self.store, &query).await"))) := by
    simp only [angled, hquery, hlist, hend, List.append_assoc, List.cons_append, List.nil_append]
  have hbody {query : List Token}
      (h : (pick [("ListQuery::default();", pure none), ("ListQuery::from_search(", do
          let field ← requestField
          plain ");"
          return some field)] : Scanner (Option String)).Takes (query ++ [.plain ";"])
        (searchField.map fieldIdentifier)) :
      (handlerBody typeName usesRequest).Takes (code "let query =" ++ query ++
        code "; crud::list::" ++ angled (code "proto::" ++ Code.name typeName) ++
          code "(&self.store, &query).await") (.list (searchField.map fieldIdentifier)) := by
    rw [hcode]
    refine Takes.pick_there (mismatch_append (by decide +kernel) _)
      (Takes.pick_there (mismatch_append (by decide +kernel) _)
        (Takes.pick_there (mismatch_append (by decide +kernel) _) (Takes.pick_here ?_)))
    exact h.bind ((takes_plain _).bind ((takes_call typeName _).return _))
  cases searchField with
  | none =>
    have hdefault : code "ListQuery::default()" ++ [.plain ";"] = code "ListQuery::default();" := by
      decide +kernel
    refine hbody ?_
    rw [hdefault]
    exact Takes.pick_pure
  | some field =>
    have hsearch : code "ListQuery::from_search(request." ++ Code.name (fieldIdentifier field) ++
        code ")" ++ [.plain ";"] = code "ListQuery::from_search(" ++
          ((code "request." ++ Code.name (fieldIdentifier field)) ++ code ");") := by
      have hrequest : code "ListQuery::from_search(request." =
          code "ListQuery::from_search(" ++ code "request." := by
        decide +kernel
      have hclose : code ");" = code ")" ++ [.plain ";"] := by decide +kernel
      simp only [hrequest, hclose, List.append_assoc]
    refine hbody ?_
    rw [hsearch]
    refine Takes.pick_there (mismatch_append (by decide +kernel) _) (Takes.pick_here ?_)
    exact (takes_requestField _).bind ((takes_plain _).return _)

/-- What a body does is read back from it. -/
theorem takes_operationBody (entity : Entity) (kind : MethodKind) (shape : RequestShape) :
    (handlerBody (Text.camelCase entity.name) (usesRequest entity kind shape)).Takes
      (operationBody entity kind shape) (.ofOperation entity kind shape) := by
  have hend : code ">(&self.store, &request.id).await" =
      .plain ">" :: code "(&self.store, &request.id).await" := by
    decide +kernel
  have hcode (start : String) (hstart : code (start ++ "<proto::") =
      code start ++ (.plain "<" :: code "proto::")) :
      code start ++ angled (entityType entity) ++ code "(&self.store, &request.id).await" =
        code (start ++ "<proto::") ++ (Code.name (Text.camelCase entity.name) ++
          code ">(&self.store, &request.id).await") := by
    simp only [angled, entityType, hstart, hend, List.append_assoc, List.cons_append,
      List.nil_append]
  have hcall := takes_call (Text.camelCase entity.name) ">(&self.store, &request.id).await"
  cases kind with
  | create => exact takes_create _ _
  | get =>
    rw [show operationBody entity .get shape = _ from hcode "crud::get::" (by decide +kernel)]
    exact Takes.pick_there (mismatch_append (by decide +kernel) _)
      (Takes.pick_there (mismatch_append (by decide +kernel) _)
        (Takes.pick_there (mismatch_append (by decide +kernel) _)
          (Takes.pick_there (mismatch_append (by decide +kernel) _)
            (Takes.pick_here (hcall.return fun _ ↦ HandlerBody.get)))))
  | update => exact takes_update _ _ _
  | delete =>
    rw [show operationBody entity .delete shape = _ from
      hcode "crud::delete::" (by decide +kernel)]
    exact Takes.pick_there (mismatch_append (by decide +kernel) _)
      (Takes.pick_there (mismatch_append (by decide +kernel) _)
        (Takes.pick_there (mismatch_append (by decide +kernel) _)
          (Takes.pick_there (mismatch_append (by decide +kernel) _)
            (Takes.pick_there (mismatch_append (by decide +kernel) _)
              (Takes.pick_here (hcall.return fun _ ↦ HandlerBody.delete))))))
  | list => exact takes_list _ _ _

end Scanner
end ProtoCrud.Generate
