import Mathlib.Data.List.Forall2
import ProtoCrud.Command.Targets

/-!
# The names of the files that inputs stand for

An input is named by its components behind those of the first include that holds it. Dots between
the components of a path and repeated slashes do not count in this. A dot in front does: an include
and an input are held against each other only if both begin with a dot or neither does, so a path
cannot be respelled with such a dot while the others are left as they are.
-/

namespace ProtoCrud.Command

open Files

/-- The components of a path but for the slash or the dot that it begins with. -/
def places (path : String) : List Component :=
  (parts path).filterMap Component.ofPart?

def isDotted (path : String) : Bool :=
  (parts path).head? = some ['.']

/-- Two spellings of a relative path: they have the same components, dots aside. -/
structure Respells (path other : String) : Prop where
  relative : isAbsolute path = false
  relative_other : isAbsolute other = false
  places_eq : places path = places other

theorem Respells.symm {path other : String} (h : Respells path other) : Respells other path :=
  ⟨h.relative_other, h.relative, h.places_eq.symm⟩

/-- A dot among the parts of a path is no component of it. -/
theorem respells_of_dot {path dotted : String} {front back : List (List Char)}
    (hpath : isAbsolute path = false) (hdotted : isAbsolute dotted = false)
    (hparts : parts path = front ++ back) (hdot : parts dotted = front ++ ['.'] :: back) :
    Respells path dotted := by
  refine ⟨hpath, hdotted, ?_⟩
  have hnone : Component.ofPart? ['.'] = none := by decide
  rw [places, places, hparts, hdot, List.filterMap_append, List.filterMap_append,
    List.filterMap_cons_none hnone]

theorem components_of_relative {path : String} (h : isAbsolute path = false) :
    components path = if isDotted path then .here :: places path else places path := by
  simp only [components, h, isDotted, places, decide_eq_true_eq, Bool.false_eq_true, if_false]

/-- A component behind the first part is no leading dot. -/
theorem here_notMem_places (path : String) : Component.here ∉ places path := by
  intro h
  obtain ⟨part, -, hpart⟩ := List.mem_filterMap.mp h
  unfold Component.ofPart? at hpart
  split at hpart
  · cases hpart
  · split at hpart <;> cases hpart

@[simp] theorem joinNames_here (rest : List Component) :
    joinNames (.here :: rest) = joinNames rest := rfl

theorem joinNames_components {path : String} (h : isAbsolute path = false) :
    joinNames (components path) = joinNames (places path) := by
  rw [components_of_relative h]
  split <;> rfl

theorem afterComponents?_eq (base path : List Component) :
    afterComponents? base path =
      if base <+: path then some (path.drop base.length) else none := by
  induction base generalizing path with
  | nil => simp [afterComponents?]
  | cons b base ih =>
    cases path with
    | nil => simp [afterComponents?]
    | cons c path =>
      rw [afterComponents?]
      split
      · next heq => simp [ih, heq, List.cons_prefix_cons]
      · next hne => simp [hne, List.cons_prefix_cons]

/-- Whether an include is held against a path: both begin with a dot, or neither does. -/
def beginsAlike (path directory : String) : Bool :=
  isDotted directory == isDotted path || (!isDotted directory && (places directory).isEmpty)

/-- Whether a path lies in a directory, by their components. -/
def holds (path directory : String) : Bool :=
  places directory <+: places path

/-- The name of a path below the first directory that holds it; the whole path if none does. -/
def nameBelow (directories : List String) (path : String) : String :=
  match directories.find? (holds path) with
  | some directory => joinNames ((places path).drop (places directory).length)
  | none => joinNames (places path)

/-- A path lies below an include that begins alike and holds it, and below no other. -/
theorem map_relative?_eq {path directory : String} (hpath : isAbsolute path = false)
    (hdirectory : isAbsolute directory = false) :
    (relative? path directory).map joinNames =
      if beginsAlike path directory && holds path directory then
        some (joinNames ((places path).drop (places directory).length))
      else none := by
  have hhere : ¬ (Component.here :: places directory) <+: places path := by
    intro h
    exact here_notMem_places path (h.subset (List.mem_cons_self ..))
  rw [relative?, components_of_relative hpath, components_of_relative hdirectory,
    afterComponents?_eq]
  cases hdot : isDotted directory <;> cases hdot' : isDotted path
  · simp [beginsAlike, holds, hdot, hdot', apply_ite]
  · -- Only an include without components is held against a path with a dot in front.
    cases hplaces : places directory with
    | nil => simp [beginsAlike, holds, hdot, hdot', hplaces]
    | cons c rest =>
      have hne : c ≠ .here := by
        rintro rfl
        exact here_notMem_places directory (hplaces ▸ List.mem_cons_self ..)
      simp [beginsAlike, hdot, hdot', hplaces, hne]
  · simp [beginsAlike, hdot, hdot', hhere]
  · simp [beginsAlike, holds, hdot, hdot', apply_ite]

/-- The search among the includes passes over those that do not begin like the input. -/
theorem map_findSome?_relative? {input : String} (hinput : isAbsolute input = false)
    {includes : List String} (hincludes : ∀ directory ∈ includes, isAbsolute directory = false) :
    (includes.findSome? (relative? input)).map joinNames =
      ((includes.filter (beginsAlike input)).find? (holds input)).map
        fun directory ↦ joinNames ((places input).drop (places directory).length) := by
  induction includes with
  | nil => rfl
  | cons directory includes ih =>
    obtain ⟨hdirectory, hrest⟩ := List.forall_mem_cons.mp hincludes
    have hhead := map_relative?_eq hinput hdirectory
    rw [List.findSome?_cons, List.filter_cons]
    cases hbegin : beginsAlike input directory <;> cases hholds : holds input directory
    all_goals
      rw [hbegin, hholds] at hhead
      cases hsome : relative? input directory <;> simp_all

/-- An input is named below the first include that holds it, among those that begin alike. -/
theorem targetName_eq_nameBelow {input : String} (hinput : isAbsolute input = false)
    {includes : List String} (hincludes : ∀ directory ∈ includes, isAbsolute directory = false) :
    targetName includes input = nameBelow (includes.filter (beginsAlike input)) input := by
  have hfound := map_findSome?_relative? hinput hincludes
  rw [targetName, nameBelow]
  cases hsome : includes.findSome? (relative? input) with
  | none =>
    rw [hsome, Option.map_none, eq_comm, Option.map_eq_none_iff] at hfound
    rw [hfound, Option.getD_none, joinNames_components hinput]
  | some rest =>
    rw [hsome, Option.map_some, eq_comm, Option.map_eq_some_iff] at hfound
    obtain ⟨directory, hdirectory, hname⟩ := hfound
    rw [hdirectory, Option.getD_some, ← hname]

/-- The name of a path below directories hangs on their components and on its own alone. -/
theorem nameBelow_eq_of_places_eq {path other : String} (hpath : places path = places other)
    {directories others : List String}
    (hdirectories : List.Forall₂ (fun d e ↦ places d = places e) directories others) :
    nameBelow directories path = nameBelow others other := by
  induction hdirectories with
  | nil => rw [nameBelow, nameBelow, List.find?_nil, List.find?_nil, hpath]
  | @cons directory different directories others hsame _ ih =>
    have hholds : holds path directory = holds other different := by
      rw [holds, holds, hpath, hsame]
    rw [nameBelow, nameBelow] at ih ⊢
    rw [List.find?_cons, List.find?_cons, hholds]
    cases holds other different with
    | false => exact ih
    | true => simp only [hpath, hsame]

/-- The includes that begin like a path, in two spellings that agree on which ones do. -/
theorem forall₂_filter_beginsAlike {path other : String} {directories others : List String}
    (hdirectories : List.Forall₂ Respells directories others)
    (halike : ∀ d ∈ directories.zip others, beginsAlike path d.1 = beginsAlike other d.2) :
    List.Forall₂ (fun d e ↦ places d = places e) (directories.filter (beginsAlike path))
      (others.filter (beginsAlike other)) := by
  induction hdirectories with
  | nil => exact .nil
  | @cons directory different directories others hsame _ ih =>
    rw [List.zip_cons_cons, List.forall_mem_cons] at halike
    obtain ⟨hhead, htail⟩ := halike
    rw [List.filter_cons, List.filter_cons, hhead]
    split
    · exact .cons hsame.places_eq (ih htail)
    · exact ih htail

theorem forall_isAbsolute_left {paths others : List String}
    (h : List.Forall₂ Respells paths others) : ∀ path ∈ paths, isAbsolute path = false :=
  ((List.forall₂_and_left _ _).mp (h.imp fun _ _ hsame ↦ ⟨hsame.relative, hsame⟩)).1

theorem forall_isAbsolute_right {paths others : List String}
    (h : List.Forall₂ Respells paths others) : ∀ path ∈ others, isAbsolute path = false :=
  forall_isAbsolute_left (h.imp fun _ _ hsame ↦ hsame.symm).flip

/-- Inputs and includes respelled so that the same of them begin alike: the names stay. -/
theorem map_targetName_eq {inputs inputs' includes includes' : List String}
    (hinputs : List.Forall₂ Respells inputs inputs')
    (hincludes : List.Forall₂ Respells includes includes')
    (halike : ∀ p ∈ inputs.zip inputs', ∀ d ∈ includes.zip includes',
      beginsAlike p.1 d.1 = beginsAlike p.2 d.2) :
    inputs.map (targetName includes) = inputs'.map (targetName includes') := by
  induction hinputs with
  | nil => rfl
  | @cons input input' inputs inputs' hsame _ ih =>
    rw [List.zip_cons_cons, List.forall_mem_cons] at halike
    obtain ⟨hhead, htail⟩ := halike
    rw [List.map_cons, List.map_cons, ih htail,
      targetName_eq_nameBelow hsame.relative (forall_isAbsolute_left hincludes),
      targetName_eq_nameBelow hsame.relative_other (forall_isAbsolute_right hincludes),
      nameBelow_eq_of_places_eq hsame.places_eq (forall₂_filter_beginsAlike hincludes hhead)]

theorem targets_of_ne_nil (files : List Descriptor.File) {inputs : List String}
    (h : inputs ≠ []) (includes : List String) :
    targets files inputs includes = inputs.map (targetName includes) := by
  rw [targets, List.isEmpty_eq_false_iff.mpr h]
  rfl

/--
For relative paths, dots inside a path never count: each input is named below the first include
that holds it, among the includes that begin like the input. If all paths begin alike, no include is
passed over. Respelling the paths changes no name unless it changes which of them begin alike.
-/
theorem targets_of_respelled (files : List Descriptor.File)
    {inputs inputs' includes includes' : List String}
    (hinputs : List.Forall₂ Respells inputs inputs')
    (hincludes : List.Forall₂ Respells includes includes') :
    (inputs ≠ [] → targets files inputs includes =
      inputs.map fun input ↦ nameBelow (includes.filter (beginsAlike input)) input) ∧
    (inputs ≠ [] → (∀ input ∈ inputs, ∀ directory ∈ includes, beginsAlike input directory) →
      targets files inputs includes = inputs.map (nameBelow includes)) ∧
    ((∀ p ∈ inputs.zip inputs', ∀ d ∈ includes.zip includes',
        beginsAlike p.1 d.1 = beginsAlike p.2 d.2) →
      targets files inputs includes = targets files inputs' includes') := by
  have hname : ∀ input ∈ inputs, targetName includes input =
      nameBelow (includes.filter (beginsAlike input)) input := fun input hmem ↦
    targetName_eq_nameBelow (forall_isAbsolute_left hinputs input hmem)
      (forall_isAbsolute_left hincludes)
  refine ⟨fun hne ↦ ?_, fun hne halike ↦ ?_, fun halike ↦ ?_⟩
  · rw [targets_of_ne_nil files hne]
    exact List.map_congr_left hname
  · rw [targets_of_ne_nil files hne]
    refine List.map_congr_left fun input hmem ↦ ?_
    rw [hname input hmem, List.filter_eq_self.mpr (halike input hmem)]
  · have hmap := map_targetName_eq hinputs hincludes halike
    cases hinputs with
    | nil => rfl
    | cons _ _ =>
      rw [targets_of_ne_nil files (List.cons_ne_nil _ _), hmap,
        targets_of_ne_nil files (List.cons_ne_nil _ _)]

/-- Dots inside an input and at the end of an include, which also has a slash too many. -/
theorem targets_inner_dots :
    List.Forall₂ Respells ["proto/user/user.proto"] ["proto/user/./user.proto"] ∧
      List.Forall₂ Respells ["shop", "proto"] ["shop/.", "proto//"] ∧
      targets [] ["proto/user/user.proto"] ["shop", "proto"] = ["user/user.proto"] ∧
      targets [] ["proto/user/./user.proto"] ["shop/.", "proto//"] = ["user/user.proto"] := by
  have hinputs : List.Forall₂ Respells ["proto/user/user.proto"] ["proto/user/./user.proto"] :=
    .cons (respells_of_dot (by decide) (by decide)
      (show _ = ["proto".toList, "user".toList] ++ ["user.proto".toList] by decide)
      (by decide)) .nil
  have hincludes : List.Forall₂ Respells ["shop", "proto"] ["shop/.", "proto//"] :=
    .cons ⟨by decide, by decide, by decide⟩ (.cons ⟨by decide, by decide, by decide⟩ .nil)
  obtain ⟨-, hrule, hsame⟩ := targets_of_respelled [] hinputs hincludes
  have hnames : targets [] ["proto/user/user.proto"] ["shop", "proto"] = ["user/user.proto"] := by
    rw [hrule (by decide) (by decide)]
    decide
  exact ⟨hinputs, hincludes, hnames, (hsame (by decide)).symm.trans hnames⟩

/-- A dot in front of an input hides it from the include that holds it. -/
theorem not_forall_targets_dotted :
    ¬ ∀ (files : List Descriptor.File) (inputs includes : List String),
      (∀ path ∈ inputs ++ includes, isAbsolute path = false ∧ ['.', '.'] ∉ parts path) →
        targets files (inputs.map ("./" ++ ·)) includes = targets files inputs includes := by
  intro h
  have hsame := h [] ["proto/user.proto"] ["proto"] (by decide)
  revert hsame
  decide

end ProtoCrud.Command
