import ProtoCrud.Query.Search
import ProtoCrud.Wire.Message

/-!
# Search messages on the wire

A criterion is a choice between two message fields. Of two different members the later one stands,
and a member that comes again joins its fields to those it had.
-/

namespace ProtoCrud.Query.Search

open Wire

inductive MessageType where
  | search
  | pagination
  | criterion
  | condition
  | group
  deriving DecidableEq

def fieldTable : MessageType → List (Nat × FieldKind MessageType)
  | .search => [(1, .message .criterion), (2, .message .pagination)]
  | .pagination => [(1, .varint), (2, .varint), (3, .text), (4, .varint)]
  | .criterion => [(1, .message .condition), (2, .message .group)]
  | .condition => [(1, .text), (2, .varint), (3, .text)]
  | .group => [(1, .varint), (2, .message .criterion)]

def schema : Schema MessageType :=
  fun type number ↦ (fieldTable type).lookup number

mutual
def Criterion.entries : Search.Criterion → List Entry
  | .unset => []
  | .condition field operator values =>
    [.message 1 (textField 1 field ++ int32Field 2 operator ++ values.map (.text 3))]
  | .group logic members => [.message 2 (int32Field 1 logic ++ memberEntries 2 members)]

def memberEntries (number : Nat) : List Search.Criterion → List Entry
  | [] => []
  | criterion :: rest => .message number criterion.entries :: memberEntries number rest
end

def pageEntries (request : PageRequest) : List Entry :=
  int32Field 1 request.page ++ int32Field 2 request.pageSize ++ textField 3 request.sortBy ++
    boolField 4 request.descending

def entries (search : Search) : List Entry :=
  memberEntries 1 search.filters ++
    (search.pagination.map fun request ↦ Entry.message 2 (pageEntries request)).toList

def encode (search : Search) : Bytes :=
  write search.entries

/-- The member of a choice that stands after all fields have been read, with its fields. -/
def chosenFrom (chosen : Option (Nat × List Entry)) : List Entry → Option (Nat × List Entry)
  | [] => chosen
  | .message number fields :: rest =>
    match chosen with
    | some (current, before) =>
      chosenFrom (some (number, if current = number then before ++ fields else fields)) rest
    | none => chosenFrom (some (number, fields)) rest
  | _ :: rest => chosenFrom chosen rest

theorem weight_chosenFrom {chosen : Option (Nat × List Entry)} {entries fields : List Entry}
    {number : Nat} (h : chosenFrom chosen entries = some (number, fields)) :
    weight fields ≤ (chosen.map fun c ↦ weight c.2).getD 0 + weight entries := by
  fun_induction chosenFrom chosen entries with
  | case1 => simp [h]
  | case2 number' fields' rest current before ih =>
    have := ih h
    simp only [Option.map_some, Option.getD_some, weight, Entry.weight] at this ⊢
    split at this
    · rw [weight_append] at this
      omega
    · omega
  | case3 number' fields' rest ih =>
    have := ih h
    simp only [Option.map_some, Option.map_none, Option.getD_some, Option.getD_none, weight,
      Entry.weight] at this ⊢
    omega
  | case4 chosen entry rest _ ih =>
    have := ih h
    simp only [weight]
    omega

def Criterion.ofEntries (entries : List Entry) : Search.Criterion :=
  match _chosen : chosenFrom none entries with
  | none => .unset
  | some (1, fields) => .condition (text 1 fields) (int32 2 fields) (textsAt 3 fields)
  | some (_, fields) =>
    .group (int32 1 fields) <|
      (messagesAt 2 fields).attach.map fun ⟨inner, _mem⟩ ↦ Criterion.ofEntries inner
  termination_by weight entries
  decreasing_by
    have := weight_chosenFrom _chosen
    have := weight_lt_of_mem_messagesAt _mem
    simp only [Option.map_none, Option.getD_none] at *
    omega

def pageOfEntries (entries : List Entry) : PageRequest :=
  ⟨int32 1 entries, int32 2 entries, text 3 entries, bool 4 entries⟩

def ofEntries (entries : List Entry) : Search :=
  ⟨(messagesAt 1 entries).map Criterion.ofEntries, (message? 2 entries).map pageOfEntries⟩

def decode? (bytes : Bytes) : Option Search :=
  (Wire.decode? schema .search bytes).map ofEntries

end ProtoCrud.Query.Search
