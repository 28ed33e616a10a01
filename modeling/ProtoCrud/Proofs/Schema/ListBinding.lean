import Mathlib.Data.List.Basic
import ProtoCrud.Proofs.Schema.DeclaredTypes
import ProtoCrud.Proofs.Schema.Qualifier
import ProtoCrud.Proofs.Schema.Resolution
import ProtoCrud.Proofs.Text.Cut

/-!
# What a list method is bound to

A list method is named for the plural of its entity. The singular that is read off a regular plural
is the noun again, unless the noun ends in `ie` or `se`: the plural of `Course` could be that of
`Cours` as well, and is taken for it. Then the element type of the response decides, but only if the
package declares neither the wrong singular nor a message named for the plural.
-/

namespace ProtoCrud.Schema

open Descriptor (File Message)
open Text

/--
The regular plural of a noun: a final `y` becomes `ies`, a final `s` becomes `ses`, and `s` is added
to all others.
-/
def plural (name : String) : String :=
  match name.toList.getLast? with
  | some 'y' => String.ofList (name.toList.dropLast ++ "ies".toList)
  | some 's' => String.ofList (name.toList.dropLast ++ "ses".toList)
  | _ => name ++ "s"

theorem plural_cases (name : String) :
    (∃ stem, name.toList = stem ++ ['y'] ∧ (plural name).toList = stem ++ "ies".toList) ∨
      (∃ stem, name.toList = stem ++ ['s'] ∧ (plural name).toList = stem ++ "ses".toList) ∨
      (plural name).toList = name.toList ++ ['s'] ∧
        ∀ stem, name.toList ≠ stem ++ ['y'] ∧ name.toList ≠ stem ++ ['s'] := by
  unfold plural
  split
  · next hlast =>
    obtain ⟨stem, hstem⟩ := List.getLast?_eq_some_iff.mp hlast
    exact .inl ⟨stem, hstem, by simp [hstem]⟩
  · next hlast =>
    obtain ⟨stem, hstem⟩ := List.getLast?_eq_some_iff.mp hlast
    exact .inr (.inl ⟨stem, hstem, by simp [hstem]⟩)
  · next hy hs =>
    refine .inr (.inr ⟨String.toList_append, fun stem ↦ ⟨fun h ↦ hy ?_, fun h ↦ hs ?_⟩⟩)
    · rw [h, List.getLast?_concat]
    · rw [h, List.getLast?_concat]

theorem stem?_eq_some_iff {ending : String} {name stem : List Char} :
    stem? ending name = some stem ↔ name = stem ++ ending.toList ∧ stem ≠ [] := by
  rw [stem?, Option.filter_eq_some_iff, beforeEnd?_eq_some_iff]
  simp

theorem plural_ne (name : String) : plural name ≠ name := by
  intro h
  have hlength := congrArg (fun text ↦ text.toList.length) h
  rcases plural_cases name with ⟨stem, hname, hplural⟩ | ⟨stem, hname, hplural⟩ | ⟨hplural, -⟩
  · rw [hname, hplural] at hlength
    simp at hlength
  · rw [hname, hplural] at hlength
    simp at hlength
  · rw [hplural] at hlength
    simp at hlength

section Singulars

variable {name : String} {stem : List Char}

theorem singularize_ies (hname : name.toList = stem ++ "ies".toList) (hstem : stem ≠ []) :
    (singularize name).toList = stem ++ ['y'] := by
  rw [singularize, stem?_eq_some_iff.mpr ⟨hname, hstem⟩]
  exact String.toList_ofList

theorem singularize_ses (hname : name.toList = stem ++ "ses".toList) (hstem : stem ≠ []) :
    (singularize name).toList = stem ++ ['s'] := by
  have hies : stem? "ies" name.toList = none := by
    refine Option.eq_none_iff_forall_not_mem.mpr fun other hother ↦ ?_
    have hother := hname.symm.trans (stem?_eq_some_iff.mp hother).1
    exact absurd (List.append_inj_right' hother rfl) (by decide)
  rw [singularize, hies]
  dsimp only
  rw [stem?_eq_some_iff.mpr ⟨hname, hstem⟩]
  exact String.toList_ofList

theorem singularize_s (hname : name.toList = stem ++ ['s']) (hstem : stem ≠ [])
    (hending : ¬("ie".toList <:+ stem ∨ "se".toList <:+ stem)) :
    (singularize name).toList = stem := by
  have hnone (ending : String) (c : Char) (hc : ending.toList = [c, 'e', 's'])
      (h : ¬[c, 'e'] <:+ stem) : stem? ending name.toList = none := by
    refine Option.eq_none_iff_forall_not_mem.mpr fun other hother ↦ h ⟨other, ?_⟩
    have hother := hname.symm.trans (stem?_eq_some_iff.mp hother).1
    rw [hc, show [c, 'e', 's'] = [c, 'e'] ++ ['s'] from rfl, ← List.append_assoc] at hother
    exact (List.append_inj_left' hother rfl).symm
  rw [not_or] at hending
  rw [singularize, hnone "ies" 'i' rfl hending.1]
  dsimp only
  rw [hnone "ses" 's' rfl hending.2]
  dsimp only
  rw [stem?_eq_some_iff.mpr ⟨hname, hstem⟩]
  exact String.toList_ofList

end Singulars

/-- A name that starts with an upper-case letter and has no qualifier. -/
structure IsNoun (name : String) : Prop where
  upper : ∃ first ∈ name.toList.head?, isUppercase first = true
  plain : stripQualifier name = name

section Nouns

variable {name : String}

theorem IsNoun.ne_nil (h : IsNoun name) : name.toList ≠ [] := by
  intro hnil
  obtain ⟨first, hfirst, -⟩ := h.upper
  rw [hnil] at hfirst
  cases hfirst

/-- A noun does not consist of an ending in lower case alone. -/
theorem IsNoun.stem_ne_nil (h : IsNoun name) {stem rest : List Char} {c : Char}
    (hname : name.toList = stem ++ c :: rest) (hc : isUppercase c = false) : stem ≠ [] := by
  rintro rfl
  obtain ⟨first, hfirst, hupper⟩ := h.upper
  rw [hname, List.nil_append, List.head?_cons, Option.mem_some_iff] at hfirst
  rw [hfirst, hupper] at hc
  cases hc

/-- The singular of a regular plural is the noun unless the plural could be that of another. -/
theorem IsNoun.singularize_plural_iff (h : IsNoun name) :
    singularize (plural name) = name ↔
      ¬("ie".toList <:+ name.toList ∨ "se".toList <:+ name.toList) := by
  have hlast {stem : List Char} {c : Char} (hc : c ≠ 'e') (hname : name.toList = stem ++ [c]) :
      ¬("ie".toList <:+ name.toList ∨ "se".toList <:+ name.toList) := by
    rintro (⟨before, hbefore⟩ | ⟨before, hbefore⟩) <;>
      · have hends := congrArg List.getLast? (hbefore.trans hname)
        simp [hc.symm] at hends
  rcases plural_cases name with ⟨stem, hname, hplural⟩ | ⟨stem, hname, hplural⟩ | ⟨hplural, -⟩
  · have hstem : stem ≠ [] := h.stem_ne_nil hname (by decide +kernel)
    have hsingular := (singularize_ies hplural hstem).trans hname.symm
    exact iff_of_true (String.toList_injective hsingular) (hlast (by decide) hname)
  · have hstem : stem ≠ [] := h.stem_ne_nil hname (by decide +kernel)
    have hsingular := (singularize_ses hplural hstem).trans hname.symm
    exact iff_of_true (String.toList_injective hsingular) (hlast (by decide) hname)
  · constructor
    · rintro hsingular (⟨stem, hname⟩ | ⟨stem, hname⟩)
      · have hstem : stem ≠ [] := h.stem_ne_nil hname.symm (by decide +kernel)
        have hies := singularize_ies (by rw [hplural, ← hname, List.append_assoc]; rfl) hstem
        rw [hsingular, ← hname] at hies
        exact absurd (List.append_cancel_left hies) (by decide)
      · have hstem : stem ≠ [] := h.stem_ne_nil hname.symm (by decide +kernel)
        have hses := singularize_ses (by rw [hplural, ← hname, List.append_assoc]; rfl) hstem
        rw [hsingular, ← hname] at hses
        exact absurd (List.append_cancel_left hses) (by decide)
    · intro hending
      exact String.toList_injective (singularize_s hplural h.ne_nil hending)

/-- A noun and its plural differ in their endings only, and the ending of the plural is short. -/
theorem IsNoun.exists_stem (h : IsNoun name) :
    ∃ first stem tail, ∃ ending ∈ ["ies".toList, "ses".toList, "s".toList],
      isUppercase first = true ∧ name.toList = first :: (stem ++ tail) ∧
        (plural name).toList = first :: (stem ++ ending) := by
  have hsplit {stem tail ending : List Char} (hname : name.toList = stem ++ tail)
      (hplural : (plural name).toList = stem ++ ending) (hstem : stem ≠ []) :
      ∃ first rest, isUppercase first = true ∧ name.toList = first :: (rest ++ tail) ∧
        (plural name).toList = first :: (rest ++ ending) := by
    obtain ⟨first, rest, rfl⟩ := List.exists_cons_of_ne_nil hstem
    obtain ⟨upper, hupper, h⟩ := h.upper
    rw [hname, List.cons_append, List.head?_cons, Option.mem_some_iff] at hupper
    exact ⟨first, rest, hupper ▸ h, hname, hplural⟩
  rcases plural_cases name with ⟨stem, hname, hplural⟩ | ⟨stem, hname, hplural⟩ | ⟨hplural, -⟩
  · obtain ⟨first, rest, hstem⟩ :=
      hsplit hname hplural (h.stem_ne_nil hname (by decide +kernel))
    exact ⟨first, rest, _, _, by simp, hstem⟩
  · obtain ⟨first, rest, hstem⟩ :=
      hsplit hname hplural (h.stem_ne_nil hname (by decide +kernel))
    exact ⟨first, rest, _, _, by simp, hstem⟩
  · have hname : name.toList = name.toList ++ [] := (List.append_nil _).symm
    obtain ⟨first, rest, hstem⟩ := hsplit hname hplural h.ne_nil
    exact ⟨first, rest, _, _, by simp, hstem⟩

end Nouns

theorem beforeQualifier_cons_eq_self_iff {c : Char} {text : List Char} :
    beforeQualifier (c :: text) = c :: text ↔
      startsQualifier (c :: text) = false ∧ beforeQualifier text = text := by
  rw [beforeQualifier]
  split <;> simp_all

/-- The beginning of a text without qualifiers has none. -/
theorem beforeQualifier_of_append {text rest : List Char}
    (h : beforeQualifier (text ++ rest) = text ++ rest) : beforeQualifier text = text := by
  induction text with
  | nil => rfl
  | cons c text ih =>
    rw [List.cons_append, beforeQualifier_cons_eq_self_iff] at h
    refine beforeQualifier_cons_eq_self_iff.mpr ⟨?_, ih h.2⟩
    refine Bool.eq_false_iff.mpr fun hstarts ↦ Bool.eq_false_iff.mp h.1 ?_
    obtain ⟨upper, tail, htext, hupper⟩ := startsQualifier_eq_true_iff.mp hstarts
    refine startsQualifier_eq_true_iff.mpr ⟨upper, tail ++ rest, ?_, hupper⟩
    rw [← List.cons_append, htext]
    rfl

/-- A qualifier does not reach into what neither continues `B` to `By` nor is in upper case. -/
theorem beforeQualifier_append {text : List Char} {c : Char} (h : beforeQualifier text = text)
    (hy : c ≠ 'y') (hc : isUppercase c = false) (rest : List Char) :
    beforeQualifier (text ++ c :: rest) = text ++ beforeQualifier (c :: rest) := by
  induction text with
  | nil => rfl
  | cons d text ih =>
    obtain ⟨hstarts, htext⟩ := beforeQualifier_cons_eq_self_iff.mp h
    have hnone : startsQualifier (d :: (text ++ c :: rest)) = false := by
      refine Bool.eq_false_iff.mpr fun hlonger ↦ Bool.eq_false_iff.mp hstarts ?_
      obtain ⟨upper, tail, hB, hupper⟩ := startsQualifier_eq_true_iff.mp hlonger
      obtain ⟨rfl, hby⟩ := List.cons.inj hB
      rcases text with _ | ⟨e, text⟩
      · exact absurd (List.cons.inj hby).1 hy
      obtain ⟨rfl, hnext⟩ := List.cons.inj hby
      rcases text with _ | ⟨f, text⟩
      · rw [← (List.cons.inj hnext).1, hc] at hupper
        cases hupper
      · obtain ⟨rfl, -⟩ := List.cons.inj hnext
        exact startsQualifier_eq_true_iff.mpr ⟨_, text, rfl, hupper⟩
    rw [List.cons_append, beforeQualifier, hnone, ih htext]
    rfl

theorem beforeQualifier_append_of_notMem {text : List Char} (h : 'B' ∉ text) (rest : List Char) :
    beforeQualifier (text ++ rest) = text ++ beforeQualifier rest := by
  induction text with
  | nil => rfl
  | cons c text ih =>
    rw [List.mem_cons, not_or] at h
    have hnone : startsQualifier (c :: (text ++ rest)) = false := by
      refine Bool.eq_false_iff.mpr fun hstarts ↦ h.1 ?_
      obtain ⟨_, _, heq, -⟩ := startsQualifier_eq_true_iff.mp hstarts
      exact (List.cons.inj heq).1.symm
    rw [List.cons_append, beforeQualifier, hnone, ih h.2]
    rfl

/-- Whether a text can follow a name: a qualifier, or nothing. -/
def IsQualifier (text : String) : Prop :=
  text = "" ∨ startsQualifier text.toList = true

theorem IsQualifier.beforeQualifier_eq {qualifier : String} (h : IsQualifier qualifier) :
    beforeQualifier qualifier.toList = [] := by
  rcases h with rfl | h
  · rfl
  · obtain ⟨c, rest, heq, -⟩ := startsQualifier_eq_true_iff.mp h
    rw [heq, beforeQualifier, ← heq, h]
    rfl

/-- The plural of a noun is what is left of it once a qualifier is taken off. -/
theorem IsNoun.stripQualifier_plural {name qualifier : String} (h : IsNoun name)
    (hqualifier : IsQualifier qualifier) :
    stripQualifier (plural name ++ qualifier) = plural name := by
  obtain ⟨first, stem, tail, ending, hending, -, hname, hplural⟩ := h.exists_stem
  have hstem : beforeQualifier stem = stem := by
    have hplain := congrArg String.toList h.plain
    rw [stripQualifier, String.toList_ofList, hname, stripQualifierChars] at hplain
    exact beforeQualifier_of_append (List.cons.inj hplain).2
  have hrest : beforeQualifier (stem ++ (ending ++ qualifier.toList)) = stem ++ ending := by
    have hshort : ∃ c rest, ending = c :: rest ∧ c ≠ 'y' ∧ isUppercase c = false ∧
        'B' ∉ ending := by
      rcases hending with _ | ⟨_, _ | ⟨_, _ | ⟨_, h⟩⟩⟩
      · exact ⟨_, _, rfl, by decide +kernel⟩
      · exact ⟨_, _, rfl, by decide +kernel⟩
      · exact ⟨_, _, rfl, by decide +kernel⟩
      · cases h
    obtain ⟨c, rest, rfl, hy, hc, hB⟩ := hshort
    rw [List.cons_append, beforeQualifier_append hstem hy hc, ← List.cons_append,
      beforeQualifier_append_of_notMem hB, hqualifier.beforeQualifier_eq, List.append_nil]
  apply String.toList_injective
  rw [stripQualifier, String.toList_ofList, String.toList_append, hplural, List.cons_append,
    stripQualifierChars, List.append_assoc, hrest]

/-- The word of an operation with a name that starts in upper case stands for that operation. -/
theorem MethodKind.ofMethodName?_word (kind : MethodKind) {subject : String}
    (h : ∃ first ∈ subject.toList.head?, isUppercase first = true) :
    ofMethodName? (kind.word ++ subject) = some (kind, subject) := by
  obtain ⟨first, hfirst, hupper⟩ := h
  obtain ⟨rest, hsubject⟩ := List.head?_eq_some_iff.mp hfirst
  have hown : kind.subject? (kind.word ++ subject) = some subject := by
    rw [subject?, afterStart?_eq_some_iff.mpr String.toList_append, hsubject]
    dsimp only
    rw [if_pos hupper, ← hsubject, String.ofList_toList]
  have hothers : ∀ other ≠ kind, other.subject? (kind.word ++ subject) = none := by
    intro other hother
    rw [subject?, String.toList_append]
    cases other <;> cases kind <;> first | exact absurd rfl hother | rfl
  cases kind <;> simp [ofMethodName?, all, hown, hothers]

section Nouns

variable {name qualifier : String}

/-- A noun and its plural begin alike. -/
theorem IsNoun.head?_plural (h : IsNoun name) (qualifier : String) :
    ∃ first ∈ (plural name ++ qualifier).toList.head?, isUppercase first = true := by
  obtain ⟨first, stem, _, ending, -, hfirst, -, hplural⟩ := h.exists_stem
  refine ⟨first, ?_, hfirst⟩
  rw [String.toList_append, hplural, List.cons_append, List.head?_cons, Option.mem_some_iff]

/-- A list method that is named for the plural of a noun stands for a list of that plural. -/
theorem IsNoun.bindMethod_eq_bindList (h : IsNoun name) (hqualifier : IsQualifier qualifier)
    {index : TypeIndex} {package : String} {method : Descriptor.Method}
    (hmethod : method.name = "List" ++ plural name ++ qualifier) :
    bindMethod index package method = bindList index package (plural name) method.output := by
  have hname : method.name = MethodKind.list.word ++ (plural name ++ qualifier) := by
    rw [hmethod, String.append_assoc]
    rfl
  rw [bindMethod, hname, MethodKind.ofMethodName?_word _ (h.head?_plural qualifier)]
  dsimp only
  rw [h.stripQualifier_plural hqualifier]

end Nouns

/-- A package declares the messages at the top level of its files. -/
theorem declares_ofFiles {files : List File} {file : File} {message : Message}
    (hfile : file ∈ files) (hmessage : message ∈ file.messages) :
    (TypeIndex.ofFiles files).declares file.package message.name = true := by
  have hdeclares : DeclaresMessage files ⟨file.package, [], message.name⟩ message :=
    .nested hfile (.outermost hmessage)
  have hname := qualified_foldl_qualified file.package [] message.name
  rw [List.foldl_nil] at hname
  rw [TypeIndex.declares, TypeIndex.message?, Option.isSome_map, TypeIndex.entry?,
    List.lookup_isSome_iff, messages_ofFiles, hname]
  exact ⟨_, List.mem_reverse.mpr (List.mem_map_of_mem (mem_messagePlaces_iff.mpr hdeclares)),
    beq_self_eq_true _⟩

/-- What `elementType?` makes of the first repeated message field of a response. -/
theorem elementType?_of_qualified {index : TypeIndex} {package fullName name : String}
    {output : Message} {field : Descriptor.Field} (houtput : index.message? fullName = some output)
    (hfield : output.fields.find? (fun field ↦ !isSingular field && field.type = .message) =
      some field)
    (htype : field.typeName = qualified (packageScope package) name)
    (hdeclared : index.declares package name = true) :
    elementType? index package fullName = if '.' ∈ name.toList then none else some name := by
  have htypeChars :
      field.typeName.toList = (packageScope package).toList ++ '.' :: name.toList := by
    rw [htype, qualified]
    simp
  rw [elementType?, houtput]
  dsimp only [Option.bind_eq_bind, Option.bind_some]
  rw [hfield]
  dsimp only [Option.bind_some]
  split
  · next hdot =>
    obtain ⟨behind, before, hreverse, hbehind⟩ :=
      List.eq_append_cons_of_mem (List.mem_reverse.mpr hdot)
    have hname : name.toList = before.reverse ++ '.' :: behind.reverse := by
      rw [← List.reverse_reverse name.toList, hreverse]
      simp
    rw [htypeChars, hname, ← List.cons_append, ← List.append_assoc,
      splitLast?_append_cons (fun h ↦ hbehind (List.mem_reverse.mp h))]
    dsimp only [Option.bind_some]
    rw [if_neg]
    rintro ⟨hscope, -⟩
    have hlength := congrArg List.length (String.toList_ofList.symm.trans (congrArg _ hscope))
    simp at hlength
  · next hdot =>
    rw [htypeChars, splitLast?_append_cons hdot]
    dsimp only [Option.bind_some]
    rw [String.ofList_toList, String.ofList_toList, if_pos ⟨rfl, hdeclared⟩]

/-- The methods that list the messages of a name: they are named for the plural and return them. -/
structure ListsMessage (files : List File) (package name : String) (method : Descriptor.Method) :
    Prop where
  declared : ∃ file ∈ files, file.package = package ∧
    ∃ message ∈ file.messages, message.name = name
  noun : IsNoun name
  named : ∃ qualifier, IsQualifier qualifier ∧ method.name = "List" ++ plural name ++ qualifier
  returned : ∃ output field, (TypeIndex.ofFiles files).message? method.output = some output ∧
    output.fields.find? (fun field ↦ !isSingular field && field.type = .message) = some field ∧
    field.typeName = qualified (packageScope package) name

/--
A method that lists messages is bound to them if their name can be read off the plural. If not, it
is bound to them just if no message stands in for them: neither one with the wrong singular as its
name, nor one named for the plural.
-/
theorem bindMethod_eq_bound_list_iff {files : List File} {package name : String}
    {method : Descriptor.Method} (h : ListsMessage files package name method) :
    bindMethod (TypeIndex.ofFiles files) package method = .bound .list name ↔
      ¬("ie".toList <:+ name.toList ∨ "se".toList <:+ name.toList) ∨
        (TypeIndex.ofFiles files).declares package (singularize (plural name)) = false ∧
          (TypeIndex.ofFiles files).declares package (plural name) = false ∧
            '.' ∉ name.toList := by
  obtain ⟨qualifier, hqualifier, hmethod⟩ := h.named
  obtain ⟨output, field, houtput, hfield, htype⟩ := h.returned
  have hdeclared : (TypeIndex.ofFiles files).declares package name = true := by
    obtain ⟨file, hfile, rfl, message, hmessage, rfl⟩ := h.declared
    exact declares_ofFiles hfile hmessage
  rw [← h.noun.singularize_plural_iff, h.noun.bindMethod_eq_bindList hqualifier hmethod, bindList]
  by_cases hsingular : singularize (plural name) = name
  · rw [hsingular, if_pos hdeclared]
    simp
  · cases hwrong : (TypeIndex.ofFiles files).declares package (singularize (plural name)) with
    | true => simp [hsingular]
    | false =>
      cases hplural : (TypeIndex.ofFiles files).declares package (plural name) with
      | true => simp [hsingular, plural_ne]
      | false =>
        rw [elementType?_of_qualified houtput hfield htype hdeclared]
        by_cases hdot : '.' ∈ name.toList <;> simp [hsingular, hdot]

/-- A response that holds any number of messages of a name. -/
def catalogue (element response : String) : Message :=
  .mk response
    [⟨"items", .repeated, .message, qualified (packageScope "shop") element, false, false⟩] [] []

def catalogueFile (element response : String) : File where
  name := "catalogue.proto"
  package := "shop"
  messages :=
    [.mk element [⟨"id", .optional, .string, "", false, false⟩] [] [], catalogue element response]
  enums := []
  services := []

def catalogueMethod (element qualifier response : String) : Descriptor.Method where
  name := "List" ++ plural element ++ qualifier
  input := ".shop.ListRequest"
  output := qualified (packageScope "shop") response
  clientStreaming := false
  serverStreaming := false

theorem listsMessage_catalogue {element qualifier : String} (helement : IsNoun element)
    (hqualifier : IsQualifier qualifier) (response : String) :
    ListsMessage [catalogueFile element response] "shop" element
      (catalogueMethod element qualifier response) where
  declared := ⟨_, List.mem_singleton_self _, rfl, _, List.mem_cons_self, rfl⟩
  noun := helement
  named := ⟨qualifier, hqualifier, rfl⟩
  returned := by
    refine ⟨catalogue element response, _, ?_, rfl, rfl⟩
    simp [TypeIndex.message?, TypeIndex.entry?, TypeIndex.ofFiles, catalogueFile, catalogueMethod,
      catalogue, allMessageEntries, messageEntries]

/-- `Movy` is nobody's name, and so the list of movies is bound to `Movie`. -/
theorem bindMethod_movies :
    ListsMessage [catalogueFile "Movie" "ListMoviesResponse"] "shop" "Movie"
        (catalogueMethod "Movie" "ByYear" "ListMoviesResponse") ∧
      bindMethod (TypeIndex.ofFiles [catalogueFile "Movie" "ListMoviesResponse"]) "shop"
          (catalogueMethod "Movie" "ByYear" "ListMoviesResponse") = .bound .list "Movie" := by
  have hmovie : IsNoun "Movie" := ⟨⟨'M', rfl, by decide +kernel⟩, by decide +kernel⟩
  have hqualifier : IsQualifier "ByYear" := .inr (by decide +kernel)
  have hlists := listsMessage_catalogue hmovie hqualifier "ListMoviesResponse"
  exact ⟨hlists, (bindMethod_eq_bound_list_iff hlists).mpr (.inr (by decide +kernel))⟩

/-- A list of courses that returns `Courses` is bound to what it returns. -/
theorem exists_bindMethod_ne :
    ∃ files package name method, ListsMessage files package name method ∧ 2 ≤ name.length ∧
      bindMethod (TypeIndex.ofFiles files) package method ≠ .bound .list name := by
  have hcourse : IsNoun "Course" := ⟨⟨'C', rfl, by decide +kernel⟩, by decide +kernel⟩
  refine ⟨_, _, _, _, listsMessage_catalogue hcourse (.inl rfl) "Courses", by decide, ?_⟩
  decide +kernel

end ProtoCrud.Schema
