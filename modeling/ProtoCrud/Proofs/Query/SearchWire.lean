import ProtoCrud.Proofs.Wire.Message
import ProtoCrud.Query.Search.Wire

/-!
# Searches that cross the wire

Every search, whatever numbers and texts it holds, is written as a message that conforms to the
schema of searches, and the fields of that message make the same search again. So a search that is
encoded and decoded comes back as it was, unless it lies too deep; and as a search that was decoded
is never too deep, encoding and decoding it once more changes nothing.
-/

namespace ProtoCrud.Query.Search

open Wire

theorem hasLegalNumbers_schema : schema.HasLegalNumbers := by
  intro type number kind h
  cases type
  all_goals
    simp only [schema, fieldTable, List.lookup_cons] at h
    grind

mutual
/-- The number of levels of messages below that of a criterion. -/
def Criterion.depth : Search.Criterion → Nat
  | .unset => 0
  | .condition .. => 1
  | .group _ members => 1 + membersDepth members

/-- The number of levels of messages below a message that holds the criteria. -/
def membersDepth : List Search.Criterion → Nat
  | [] => 0
  | criterion :: rest => max (1 + criterion.depth) (membersDepth rest)
end

/-- The number of levels of messages below a search: how deep its deepest message lies. -/
def depth (search : Search) : Nat :=
  max (membersDepth search.filters) (if search.pagination.isSome then 1 else 0)

theorem ofNat_toNat_int32 (value : Int32) : Int32.ofNat value.toInt64.toUInt64.toNat = value := by
  apply Int32.toBitVec_inj.mp
  have hbits : (value.toBitVec.signExtend 64).setWidth 32 = value.toBitVec := by
    ext i hi
    have hlow : i < 64 := by omega
    simp [hlow, BitVec.getElem_signExtend, hi]
  calc
    _ = BitVec.ofNat 32 (value.toBitVec.signExtend 64).toNat := rfl
    _ = (value.toBitVec.signExtend 64).setWidth 32 := BitVec.ofNat_toNat 32 _
    _ = value.toBitVec := hbits

theorem height_int32Field (number : Nat) (value : Int32) :
    height (int32Field number value) = 0 := by
  rw [int32Field]
  split <;> rfl

theorem height_textField (number : Nat) (value : String) : height (textField number value) = 0 := by
  rw [textField]
  split <;> rfl

theorem height_boolField (number : Nat) (value : Bool) : height (boolField number value) = 0 := by
  cases value <;> rfl

theorem height_texts (number : Nat) (values : List String) :
    height (values.map (.text number)) = 0 := by
  apply height_eq_zero
  intro entry hentry
  obtain ⟨value, -, rfl⟩ := List.mem_map.mp hentry
  rfl

mutual
theorem height_criterion : (criterion : Search.Criterion) →
    height criterion.entries = criterion.depth
  | .unset => rfl
  | .condition field operator values => by
    simp [Criterion.entries, Criterion.depth, height, Entry.height, height_append,
      height_textField, height_int32Field, height_texts]
  | .group logic members => by
    simp [Criterion.entries, Criterion.depth, height, Entry.height, height_append,
      height_int32Field, height_memberEntries 2 members]

theorem height_memberEntries (number : Nat) : (members : List Search.Criterion) →
    height (memberEntries number members) = membersDepth members
  | [] => rfl
  | criterion :: rest => by
    rw [memberEntries, membersDepth, height, Entry.height, height_criterion criterion,
      height_memberEntries number rest]
end

theorem height_entries (search : Search) : height search.entries = search.depth := by
  cases hpage : search.pagination with
  | none => simp [entries, depth, height_memberEntries, hpage]
  | some request =>
    simp [entries, depth, height_append, height_memberEntries, hpage, height, Entry.height,
      pageEntries, height_int32Field, height_textField, height_boolField]

section Conforms

variable {type : MessageType} {number : Nat}

theorem conforms_append {a b : List Entry} (ha : Conforms schema type a)
    (hb : Conforms schema type b) : Conforms schema type (a ++ b) := by
  induction a with
  | nil => exact hb
  | cons entry a ih => exact ⟨ha.1, ih ha.2⟩

theorem conforms_int32Field (h : schema type number = some .varint) (value : Int32) :
    Conforms schema type (int32Field number value) := by
  rw [int32Field]
  split
  · exact trivial
  · exact ⟨⟨.inl h, UInt64.toNat_lt _⟩, trivial⟩

theorem conforms_boolField (h : schema type number = some .varint) (value : Bool) :
    Conforms schema type (boolField number value) := by
  cases value with
  | false => exact trivial
  | true => exact ⟨⟨.inl h, by decide⟩, trivial⟩

theorem conforms_textField (h : schema type number = some .text) (value : String) :
    Conforms schema type (textField number value) := by
  rw [textField]
  split
  · exact trivial
  · exact ⟨h, trivial⟩

theorem conforms_texts (h : schema type number = some .text) (values : List String) :
    Conforms schema type (values.map (.text number)) := by
  induction values with
  | nil => exact trivial
  | cons value values ih => exact ⟨h, ih⟩

end Conforms

mutual
theorem conforms_criterion : (criterion : Search.Criterion) →
    Conforms schema .criterion criterion.entries
  | .unset => trivial
  | .condition field operator values => by
    refine ⟨⟨.condition, rfl, ?_⟩, trivial⟩
    refine conforms_append (conforms_append ?_ ?_) ?_
    · exact conforms_textField rfl field
    · exact conforms_int32Field rfl operator
    · exact conforms_texts rfl values
  | .group logic members => by
    refine ⟨⟨.group, rfl, ?_⟩, trivial⟩
    exact conforms_append (conforms_int32Field rfl logic) (conforms_memberEntries rfl members)

theorem conforms_memberEntries {type : MessageType} {number : Nat}
    (h : schema type number = some (.message .criterion)) : (members : List Search.Criterion) →
    Conforms schema type (memberEntries number members)
  | [] => trivial
  | criterion :: rest =>
    ⟨⟨.criterion, h, conforms_criterion criterion⟩, conforms_memberEntries h rest⟩
end

theorem conforms_pageEntries (request : PageRequest) :
    Conforms schema .pagination (pageEntries request) := by
  refine conforms_append (conforms_append (conforms_append ?_ ?_) ?_) ?_
  · exact conforms_int32Field rfl request.page
  · exact conforms_int32Field rfl request.pageSize
  · exact conforms_textField rfl request.sortBy
  · exact conforms_boolField rfl request.descending

theorem conforms_entries (search : Search) : Conforms schema .search search.entries := by
  apply conforms_append (conforms_memberEntries rfl search.filters)
  cases search.pagination with
  | none => exact trivial
  | some request => exact ⟨⟨.pagination, rfl, conforms_pageEntries request⟩, trivial⟩

@[simp] theorem textsAt_append (number : Nat) (a b : List Entry) :
    textsAt number (a ++ b) = textsAt number a ++ textsAt number b :=
  List.filterMap_append

@[simp] theorem numbersAt_append (number : Nat) (a b : List Entry) :
    numbersAt number (a ++ b) = numbersAt number a ++ numbersAt number b :=
  List.filterMap_append

@[simp] theorem messagesAt_append (number : Nat) (a b : List Entry) :
    messagesAt number (a ++ b) = messagesAt number a ++ messagesAt number b :=
  List.filterMap_append

@[simp] theorem textsAt_textField (number other : Nat) (value : String) :
    textsAt number (textField other value) =
      if other = number ∧ value ≠ "" then [value] else [] := by
  by_cases hvalue : value = "" <;> by_cases hother : other = number <;>
    simp [textField, textsAt, hvalue, hother]

@[simp] theorem textsAt_texts (number other : Nat) (values : List String) :
    textsAt number (values.map (.text other)) = if other = number then values else [] := by
  have hread : textsAt number (values.map (.text other)) =
      values.filterMap fun value ↦ if other = number then some value else none :=
    List.filterMap_map
  rw [hread]
  split <;> simp

@[simp] theorem textsAt_int32Field (number other : Nat) (value : Int32) :
    textsAt number (int32Field other value) = [] := by
  rw [int32Field]
  split <;> rfl

@[simp] theorem textsAt_boolField (number other : Nat) (value : Bool) :
    textsAt number (boolField other value) = [] := by
  cases value <;> rfl

@[simp] theorem numbersAt_int32Field (number other : Nat) (value : Int32) :
    numbersAt number (int32Field other value) =
      if other = number ∧ value ≠ 0 then [value.toInt64.toUInt64.toNat] else [] := by
  by_cases hvalue : value = 0 <;> by_cases hother : other = number <;>
    simp [int32Field, numbersAt, hvalue, hother]

@[simp] theorem numbersAt_boolField (number other : Nat) (value : Bool) :
    numbersAt number (boolField other value) =
      if other = number ∧ value = true then [1] else [] := by
  cases value <;> by_cases hother : other = number <;> simp [boolField, numbersAt, hother]

@[simp] theorem numbersAt_textField (number other : Nat) (value : String) :
    numbersAt number (textField other value) = [] := by
  rw [textField]
  split <;> rfl

@[simp] theorem numbersAt_texts (number other : Nat) (values : List String) :
    numbersAt number (values.map (.text other)) = [] := by
  rw [numbersAt, List.filterMap_map]
  exact List.filterMap_eq_nil_iff.mpr fun value _ ↦ rfl

@[simp] theorem messagesAt_int32Field (number other : Nat) (value : Int32) :
    messagesAt number (int32Field other value) = [] := by
  rw [int32Field]
  split <;> rfl

@[simp] theorem messagesAt_memberEntries (number other : Nat) (members : List Search.Criterion) :
    messagesAt number (memberEntries other members) =
      if other = number then members.map Criterion.entries else [] := by
  induction members with
  | nil => simp [memberEntries, messagesAt]
  | cons criterion rest ih =>
    simp only [messagesAt] at ih
    by_cases hother : other = number
    · subst hother
      simpa [memberEntries, messagesAt] using ih
    · simpa [memberEntries, messagesAt, hother] using ih

@[simp] theorem numbersAt_memberEntries (number other : Nat) (members : List Search.Criterion) :
    numbersAt number (memberEntries other members) = [] := by
  induction members with
  | nil => rfl
  | cons criterion rest ih => exact ih

theorem text_of_textsAt {number : Nat} {entries : List Entry} {value : String}
    (h : textsAt number entries = if value ≠ "" then [value] else []) :
    text number entries = value := by
  by_cases hvalue : value = "" <;> simp [text, h, hvalue]

theorem int32_of_numbersAt {number : Nat} {entries : List Entry} {value : Int32}
    (h : numbersAt number entries =
      if value ≠ 0 then [value.toInt64.toUInt64.toNat] else []) :
    int32 number entries = value := by
  by_cases hvalue : value = 0 <;> simp [int32, number?, h, hvalue, ofNat_toNat_int32]

theorem bool_of_numbersAt {number : Nat} {entries : List Entry} {value : Bool}
    (h : numbersAt number entries = if value = true then [1] else []) :
    Wire.bool number entries = value := by
  cases value <;> simp [Wire.bool, number?, h]

mutual
theorem ofEntries_criterion : (criterion : Search.Criterion) →
    Criterion.ofEntries criterion.entries = criterion
  | .unset => by
    rw [Criterion.ofEntries]
    rfl
  | .condition field operator values => by
    have hfield : text 1 (textField 1 field ++ int32Field 2 operator ++
        values.map (.text 3)) = field := text_of_textsAt (by simp)
    have hoperator : int32 2 (textField 1 field ++ int32Field 2 operator ++
        values.map (.text 3)) = operator := int32_of_numbersAt (by simp)
    rw [Criterion.ofEntries]
    simp only [Criterion.entries, chosenFrom, hfield, hoperator]
    simp
  | .group logic members => by
    have hlogic : int32 1 (int32Field 1 logic ++ memberEntries 2 members) = logic :=
      int32_of_numbersAt (by simp)
    rw [Criterion.ofEntries]
    simp only [Criterion.entries, chosenFrom, hlogic]
    have := map_ofEntries_members members
    simp [this]

theorem map_ofEntries_members : (members : List Search.Criterion) →
    (members.map Criterion.entries).map Criterion.ofEntries = members
  | [] => rfl
  | criterion :: rest => by
    rw [List.map_cons, List.map_cons, ofEntries_criterion criterion, map_ofEntries_members rest]
end

theorem pageOfEntries_pageEntries (request : PageRequest) :
    pageOfEntries (pageEntries request) = request := by
  have hpage : int32 1 (pageEntries request) = request.page :=
    int32_of_numbersAt (by simp [pageEntries])
  have hsize : int32 2 (pageEntries request) = request.pageSize :=
    int32_of_numbersAt (by simp [pageEntries])
  have hsort : text 3 (pageEntries request) = request.sortBy :=
    text_of_textsAt (by simp [pageEntries])
  have hdescending : Wire.bool 4 (pageEntries request) = request.descending :=
    bool_of_numbersAt (by simp [pageEntries])
  rw [pageOfEntries, hpage, hsize, hsort, hdescending]

theorem ofEntries_entries (search : Search) : ofEntries search.entries = search := by
  obtain ⟨filters, pagination⟩ := search
  cases pagination with
  | none =>
    have hfilters := map_ofEntries_members filters
    simp [ofEntries, entries, message?, hfilters]
  | some request =>
    have hfilters := map_ofEntries_members filters
    have hpage (fields : List Entry) : messagesAt 1 [Entry.message 2 fields] = [] := rfl
    have hpage' (fields : List Entry) : messagesAt 2 [Entry.message 2 fields] = [fields] := rfl
    simp [ofEntries, entries, message?, hfilters, hpage, hpage', pageOfEntries_pageEntries]

theorem height_chosenFrom {chosen : Option (Nat × List Entry)} {entries fields : List Entry}
    {number : Nat} (h : chosenFrom chosen entries = some (number, fields)) :
    1 + height fields ≤ max ((chosen.map fun c ↦ 1 + height c.2).getD 0) (height entries) := by
  fun_induction chosenFrom chosen entries with
  | case1 => simp [h, height]
  | case2 number' fields' rest current before ih =>
    have := ih h
    simp only [Option.map_some, Option.getD_some, height, Entry.height] at this ⊢
    split at this
    · rw [height_append] at this
      omega
    · omega
  | case3 number' fields' rest ih =>
    have := ih h
    simp only [Option.map_some, Option.map_none, Option.getD_some, Option.getD_none, height,
      Entry.height] at this ⊢
    omega
  | case4 chosen entry rest _ ih =>
    have := ih h
    rw [height]
    omega

theorem height_lt_of_mem_messagesAt {number : Nat} {entries fields : List Entry}
    (h : fields ∈ messagesAt number entries) : height fields < height entries := by
  induction entries with
  | nil => cases h
  | cons entry entries ih =>
    rw [height]
    rcases List.mem_filterMap.mp h with ⟨found, hfound, hfields⟩
    rcases List.mem_cons.mp hfound with rfl | hfound
    · cases found with
      | message n inner =>
        rw [Entry.height]
        grind
      | varint | fixed64 | text | bytes => cases hfields
    · have := ih (List.mem_filterMap.mpr ⟨found, hfound, hfields⟩)
      omega

theorem membersDepth_le {members : List Search.Criterion} {bound : Nat}
    (h : ∀ criterion ∈ members, criterion.depth < bound) : membersDepth members ≤ bound := by
  induction members with
  | nil => exact Nat.zero_le _
  | cons criterion rest ih =>
    obtain ⟨hfirst, hrest⟩ := List.forall_mem_cons.mp h
    have := ih hrest
    rw [membersDepth]
    omega

/-- A criterion that was read is no deeper than its fields. -/
theorem depth_criterion_ofEntries (entries : List Entry) :
    (Criterion.ofEntries entries).depth ≤ height entries := by
  fun_induction Criterion.ofEntries entries with
  | case1 => exact Nat.zero_le _
  | case2 entries fields hchosen =>
    have hheight := height_chosenFrom hchosen
    simp only [Option.map_none, Option.getD_none] at hheight
    rw [Criterion.depth]
    omega
  | case3 entries number fields _ hchosen ih =>
    have hheight := height_chosenFrom hchosen
    simp only [Option.map_none, Option.getD_none] at hheight
    have hbelow : 1 + height fields ≤ height entries := by omega
    rw [Criterion.depth]
    apply Nat.le_trans (Nat.add_le_add_left (membersDepth_le ?_) 1) hbelow
    intro criterion hcriterion
    obtain ⟨⟨inner, hmem⟩, -, rfl⟩ := List.mem_map.mp hcriterion
    exact Nat.lt_of_le_of_lt (ih inner hmem) (height_lt_of_mem_messagesAt hmem)

/-- A search that was read is no deeper than its fields. -/
theorem depth_ofEntries (entries : List Entry) : (ofEntries entries).depth ≤ height entries := by
  apply Nat.max_le.mpr
  constructor
  · apply membersDepth_le
    intro criterion hcriterion
    obtain ⟨fields, hfields, rfl⟩ := List.mem_map.mp hcriterion
    exact Nat.lt_of_le_of_lt (depth_criterion_ofEntries fields)
      (height_lt_of_mem_messagesAt hfields)
  · cases hmessages : messagesAt 2 entries with
    | nil => simp [ofEntries, message?, hmessages]
    | cons fields rest =>
      have := height_lt_of_mem_messagesAt (hmessages ▸ List.mem_cons_self)
      simp [ofEntries, message?, hmessages]
      omega

/-- A search is read again from its bytes if it is not too deep, and refused if it is. -/
theorem decode?_encode {search : Search} (hsize : search.encode.length < 2 ^ 64) :
    decode? search.encode = if search.depth ≤ nestingLimit then some search else none := by
  rw [decode?, Wire.decode?, encode,
    read?_write hasLegalNumbers_schema _ _ (conforms_entries search) hsize, height_entries]
  split
  · rw [Option.map_some, ofEntries_entries]
  · rfl

/-- No search that was read is too deep. -/
theorem depth_of_decode? {bytes : Bytes} {search : Search} (h : decode? bytes = some search) :
    search.depth ≤ nestingLimit := by
  obtain ⟨entries, hentries, rfl⟩ := Option.map_eq_some_iff.mp h
  exact Nat.le_trans (depth_ofEntries entries) (height_le_of_read? hentries)

/--
A search with an encoding that fits into a message is read again as it was, unless a message lies
more than a hundred levels below it; then it is refused. So a search that was read from any bytes
and written anew is read again as the same search, which asks for the same query.
-/
theorem search_survives_wire {search : Search} (hsize : search.encode.length < 2 ^ 64) :
    decode? search.encode = (if search.depth ≤ 100 then some search else none) ∧
      ∀ bytes, decode? bytes = some search →
        decode? search.encode = some search ∧
          (decode? search.encode).map (fun again ↦ ListQuery.ofSearch (some again)) =
            (decode? bytes).map (fun first ↦ ListQuery.ofSearch (some first)) := by
  have hread := decode?_encode hsize
  refine ⟨hread, fun bytes hbytes ↦ ?_⟩
  rw [if_pos (depth_of_decode? hbytes)] at hread
  exact ⟨hread, by rw [hread, hbytes]⟩

/-- A search with numbers that stand for nothing, an empty group and a criterion that is unset. -/
def oddSearch : Search where
  filters :=
    [.group (-1) [.condition "title" 42 ["CNTT", ""], .unset, .group 0 []], .condition "" 0 []]
  pagination := some ⟨-7, 0, "größe", true⟩

theorem oddSearch_survives_wire :
    oddSearch.encode.length < 2 ^ 64 ∧ oddSearch.depth = 4 ∧
      decode? oddSearch.encode = some oddSearch ∧
      (decode? oddSearch.encode).map (fun again ↦ ListQuery.ofSearch (some again)) =
        some (ListQuery.ofSearch (some oddSearch)) := by
  have hsize : oddSearch.encode.length < 2 ^ 64 := by
    decide +kernel
  have hdepth : oddSearch.depth = 4 := by
    decide
  have hread := (search_survives_wire hsize).1
  rw [hdepth, if_pos (by decide)] at hread
  exact ⟨hsize, hdepth, hread, by rw [hread, Option.map_some]⟩

end ProtoCrud.Query.Search
