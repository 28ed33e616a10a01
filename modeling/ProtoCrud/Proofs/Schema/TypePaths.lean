import ProtoCrud.Proofs.Code.PathText
import ProtoCrud.Proofs.Schema.DeclaredTypes

/-!
# The paths of types with plain names

The path of the generated type of a message has the names of the enclosing messages in snake case
and its own in camel case. If the names are plain, the path is one of plain names too, and the type
belongs to the package of a file.
-/

namespace ProtoCrud.Schema

open Code (pathChars)
open Descriptor (File Message)
open Text (isPlainName isPlainName_snakeCase isPlainName_camelCase snakeCase)

def IsPlainPath (text : String) : Prop :=
  ∃ first others, isPlainName first = true ∧ (∀ name ∈ others, isPlainName name = true) ∧
    text = String.ofList (pathChars false first others)

theorem isPlainPath_of_isPlainName {name : String} (h : isPlainName name.toList = true) :
    IsPlainPath name :=
  ⟨name.toList, [], h, fun _ hmem ↦ absurd hmem List.not_mem_nil,
    by simp [pathChars, Code.behindColons]⟩

theorem IsPlainPath.cons {name text : String} (htext : IsPlainPath text)
    (hname : isPlainName name.toList = true) : IsPlainPath (name ++ "::" ++ text) := by
  obtain ⟨first, others, hfirst, hothers, rfl⟩ := htext
  refine ⟨name.toList, first :: others, hname, List.forall_mem_cons.mpr ⟨hfirst, hothers⟩, ?_⟩
  apply String.toList_injective
  simp [pathChars, Code.behindColons]

/-- Whether a text, such as the modules around a type, makes a path of every path behind it. -/
def LeadsPlainPath (outer : String) : Prop :=
  ∀ text, IsPlainPath text → IsPlainPath (outer ++ text)

theorem LeadsPlainPath.innerModule {outer name : String} (h : LeadsPlainPath outer)
    (hname : isPlainName name.toList = true) : LeadsPlainPath (innerModule outer name) := by
  intro text htext
  have hinner := h _ (htext.cons (isPlainName_snakeCase hname))
  rwa [← String.append_assoc, ← String.append_assoc] at hinner

mutual
def hasPlainNames : Message → Bool
  | .mk name _ nested _ => isPlainName name.toList && allHavePlainNames nested

def allHavePlainNames : List Message → Bool
  | [] => true
  | message :: rest => hasPlainNames message && allHavePlainNames rest
end

theorem allHavePlainNames_iff {messages : List Message} :
    allHavePlainNames messages = true ↔ ∀ message ∈ messages, hasPlainNames message = true := by
  induction messages with
  | nil => simp [allHavePlainNames]
  | cons message rest ih => simp [allHavePlainNames, ih]

theorem hasPlainNames_iff {message : Message} :
    hasPlainNames message = true ↔ isPlainName message.name.toList = true ∧
      ∀ inner ∈ message.nested, hasPlainNames inner = true := by
  obtain ⟨name, fields, nested, enums⟩ := message
  rw [hasPlainNames, Bool.and_eq_true, allHavePlainNames_iff, Message.name, Message.nested]

/-- A type that is declared behind plain names has a path of plain names. -/
theorem isPlainPath_path {place : TypePlace}
    (haround : ∀ name ∈ place.around, isPlainName name.toList = true)
    (hname : isPlainName place.name.toList = true) : IsPlainPath place.path := by
  have hnothing : LeadsPlainPath "" := fun text htext ↦ by rwa [String.empty_append]
  have hmodules : LeadsPlainPath (place.around.foldl innerModule "") :=
    List.foldlRecOn place.around innerModule hnothing fun _ houter name hmem ↦
      houter.innerModule (haround name hmem)
  rw [← foldl_innerModule place.package]
  exact hmodules _ (isPlainPath_of_isPlainName (isPlainName_camelCase hname))

/-- A declared message has a type with a path of plain names, in the package of a file. -/
theorem path_typeRef {files : List File}
    (hfiles : ∀ file ∈ files, allHavePlainNames file.messages = true) {fullName : String}
    (hdeclared : ((TypeIndex.ofFiles files).message? fullName).isSome = true) :
    IsPlainPath ((TypeIndex.ofFiles files).typeRef fullName).path ∧
      ∃ file ∈ files, file.package = ((TypeIndex.ofFiles files).typeRef fullName).package := by
  rw [TypeIndex.message?, Option.isSome_map] at hdeclared
  obtain ⟨⟨message, type⟩, hentry⟩ := Option.isSome_iff_exists.mp hdeclared
  have htype : (TypeIndex.ofFiles files).typeRef fullName = type := by
    rw [TypeIndex.typeRef, hentry]
  obtain ⟨place, hdeclares, -, rfl⟩ := exists_place_of_entry hentry
  rw [htype]
  cases hdeclares with
  | @nested file around message hfile hnests =>
    obtain ⟨haround, hmessage⟩ :=
      hnests.inherit (P := fun message ↦ hasPlainNames message = true)
        (fun outer houter ↦ (hasPlainNames_iff.mp houter).2)
        (allHavePlainNames_iff.mp (hfiles file hfile))
    refine ⟨isPlainPath_path ?_ (hasPlainNames_iff.mp hmessage).1, file, hfile, rfl⟩
    intro name hname
    obtain ⟨outer, houter, rfl⟩ := haround name hname
    exact (hasPlainNames_iff.mp houter).1

end ProtoCrud.Schema
