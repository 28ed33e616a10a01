import ProtoCrud.Code.Path
import ProtoCrud.Proofs.Code.Lexeme

/-!
# Reading a path of plain names

A text of plain names with pairs of colons between them, and perhaps one in front, is read name by
name. It is a path unless one of the names is a keyword other than the few that stand for modules;
its tokens then are the names and the colons, and spell the text again.
-/

namespace ProtoCrud.Code

open Text (isPlainChar isPlainName isPlainChar_of_mem exists_cons_of_isPlainName)

def segmentKeywords : List String :=
  ["super", "self", "Self", "crate", "try"]

def isPathKeyword (word : String) : Bool :=
  Look.reserved.contains word && !segmentKeywords.contains word

def behindColons (names : List (List Char)) : List Char :=
  names.flatMap fun name ↦ ':' :: ':' :: name

def pathChars (rooted : Bool) (first : List Char) (others : List (List Char)) : List Char :=
  (if rooted then [':', ':'] else []) ++ first ++ behindColons others

/-- Whether a character may stand in a path of plain names. -/
def isPathChar (c : Char) : Bool :=
  isPlainChar c || c == ':'

theorem isPathChar_of_mem_behindColons {names : List (List Char)}
    (h : ∀ name ∈ names, isPlainName name = true) :
    ∀ c ∈ behindColons names, isPathChar c = true := by
  intro c hc
  obtain ⟨name, hname, hc⟩ := List.mem_flatMap.mp hc
  simp only [List.mem_cons] at hc
  rcases hc with rfl | rfl | hc
  · rfl
  · rfl
  · simp [isPathChar, isPlainChar_of_mem (h name hname) hc]

theorem stopsWord_behindColons (names : List (List Char)) : StopsWord (behindColons names) := by
  cases names with
  | nil => exact stopsWord_nil
  | cons name names => exact stopsWord_colon _

def treesBehindColons (names : List (List Char)) : List Tree :=
  names.flatMap fun name ↦ [.sign ':' true, .sign ':' false, .word (String.ofList name)]

def pathTrees (rooted : Bool) (first : List Char) (others : List (List Char)) : List Tree :=
  (if rooted then [.sign ':' true, .sign ':' false] else []) ++
    .word (String.ofList first) :: treesBehindColons others

/-- A pair of colons in front of a word is read as two signs. -/
theorem readsAs_colons {c : Char} {rest : List Char} {lexemes : List Lexeme}
    (hc : isPlainStart c = true) (h : ReadsAs (c :: rest) lexemes) :
    ReadsAs (':' :: ':' :: c :: rest)
      (.leaf (.sign ':' true) :: .leaf (.sign ':' false) :: lexemes) := by
  have hcolon : ':' ∈ plainSigns := by
    decide
  have hjoined : startsSign (':' :: c :: rest) = true := startsSign_cons (by decide)
  have hapart : startsSign (c :: rest) = false :=
    (startsSign_cons (ne_of_isPlainStart hc (by simp))).trans (plain_of_isPlainStart hc).2.2
  rw [← hjoined, ← hapart]
  exact (h.sign hcolon).sign hcolon

theorem readsAs_behindColons {names : List (List Char)}
    (hnames : ∀ name ∈ names, isPlainName name = true) :
    ReadsAs (behindColons names) ((treesBehindColons names).map .leaf) := by
  induction names with
  | nil => exact .nil
  | cons name names ih =>
    obtain ⟨hname, hothers⟩ := List.forall_mem_cons.mp hnames
    obtain ⟨c, tail, rfl, hc, htail⟩ := exists_cons_of_isPlainName hname
    have hstart := isPlainStart_of_isAlpha hc
    exact readsAs_colons hstart (.word hstart htail (stopsWord_behindColons names) (ih hothers))

theorem readsAs_pathChars {rooted : Bool} {first : List Char} {others : List (List Char)}
    (hfirst : isPlainName first = true) (hothers : ∀ name ∈ others, isPlainName name = true) :
    ReadsAs (pathChars rooted first others) ((pathTrees rooted first others).map .leaf) := by
  obtain ⟨c, tail, rfl, hc, htail⟩ := exists_cons_of_isPlainName hfirst
  have hstart := isPlainStart_of_isAlpha hc
  have hword : ReadsAs (c :: tail ++ behindColons others)
      ((pathTrees false (c :: tail) others).map .leaf) :=
    .word hstart htail (stopsWord_behindColons others) (readsAs_behindColons hothers)
  cases rooted with
  | false => exact hword
  | true => exact readsAs_colons hstart hword

theorem treesAround?_leaves (before trees : List Tree) :
    treesAround? [] before (trees.map .leaf) = some (before.reverse ++ trees) := by
  induction trees generalizing before with
  | nil => simp [treesAround?]
  | cons tree trees ih => simp [treesAround?, ih]

/-- The trees that a path of plain names spells. -/
theorem trees?_pathChars {rooted : Bool} {first : List Char} {others : List (List Char)}
    (hfirst : isPlainName first = true) (hothers : ∀ name ∈ others, isPlainName name = true) :
    trees? (String.ofList (pathChars rooted first others)) =
      some (pathTrees rooted first others) := by
  have hreads : ReadsAs (pathChars rooted first others) _ := readsAs_pathChars hfirst hothers
  rw [hreads.trees?_ofList, treesAround?_leaves]
  rfl

namespace Reader

variable {α β : Type} {trees : List Tree}

theorem bind_apply (reader : Reader α) (next : α → Reader β) :
    (reader >>= next) trees = (reader trees).bind fun result ↦ next result.1 result.2 :=
  rfl

theorem sees_apply (look : Look) : sees look trees = some (look trees, trees) :=
  rfl

theorem optional_of_not {look : Look} {reader : Reader α} (h : look trees = false) :
    Reader.optional look reader trees = some (none, trees) := by
  rw [Reader.optional, bind_apply, sees_apply, h]
  rfl

end Reader

open Grammar Reader

theorem segment_name (read : Rule → Reader Node) (word : String) (others : List (List Char)) :
    Grammar.segment read false (.word word :: treesBehindColons others) =
      if isPathKeyword word then none
      else some (.segment word none, treesBehindColons others) := by
  have harguments : (Reader.optional
      (fun trees ↦ opensMarkedArguments trees || !false && opensArguments trees)
        (read .arguments)) (treesBehindColons others) = some (none, treesBehindColons others) := by
    refine optional_of_not ?_
    cases others <;> rfl
  have hnamed {name : Reader String}
      (hname : name (.word word :: treesBehindColons others) =
        if isPathKeyword word then none else some (word, treesBehindColons others)) :
      (do
        let name ← name
        let arguments ← Reader.optional
          (fun trees ↦ opensMarkedArguments trees || !false && opensArguments trees)
          (read .arguments)
        pure (Node.segment name arguments)) (.word word :: treesBehindColons others) =
      if isPathKeyword word then none
      else some (Node.segment word none, treesBehindColons others) := by
    rw [bind_apply, hname]
    cases isPathKeyword word with
    | true => rfl
    | false =>
      rw [if_neg Bool.false_ne_true, if_neg Bool.false_ne_true, Option.bind_some]
      dsimp only
      rw [bind_apply, harguments]
      rfl
  -- four keywords are segments without arguments, `Self` and the names go through the same steps
  by_cases hmodule : word ∈ ["super", "self", "crate", "try"]
  · simp only [List.mem_cons, List.not_mem_nil, or_false] at hmodule
    rcases hmodule with rfl | rfl | rfl | rfl <;> rfl
  · have hsees : (Look.oneOf (["super", "self", "crate", "try"].map Look.word))
        (.word word :: treesBehindColons others) = false := by
      simpa [Look.oneOf, Look.word] using hmodule
    rw [Grammar.segment, bind_apply, sees_apply, hsees, Option.bind_some]
    simp only [Bool.false_eq_true, if_false, bind_apply, sees_apply, Option.bind_some]
    by_cases hself : word = "Self"
    · subst hself
      have hword : Look.word "Self" (.word "Self" :: treesBehindColons others) = true := rfl
      rw [hword, if_pos rfl]
      exact hnamed rfl
    · have hword : Look.word "Self" (.word word :: treesBehindColons others) = false := by
        simpa [Look.word] using hself
      have hkeyword : isPathKeyword word = Look.reserved.contains word := by
        have hother : segmentKeywords.contains word = false := by
          simp_all [segmentKeywords]
        rw [isPathKeyword, hother]
        simp
      rw [hword, if_neg Bool.false_ne_true]
      refine hnamed ?_
      rw [hkeyword]
      change (if (!Look.reserved.contains word) = true then _ else _) = _
      cases Look.reserved.contains word <;> rfl

/-- Whether one of several names cannot be a segment of a path. -/
def anyKeyword (names : List (List Char)) : Bool :=
  names.any fun name ↦ isPathKeyword (String.ofList name)

/-- The segments that names are, without arguments. -/
def plainSegments (names : List (List Char)) : List Node :=
  names.map fun name ↦ .segment (String.ofList name) none

theorem whileWithin_segments (read : Rule → Reader Node) (names : List (List Char)) {rounds : Nat}
    (hrounds : names.length ≤ rounds) :
    whileWithin startsSegment (do
        sign "::"
        Grammar.segment read false) rounds (treesBehindColons names) =
      if anyKeyword names then none else some (plainSegments names, []) := by
  induction names generalizing rounds with
  | nil => cases rounds <;> rfl
  | cons name names ih =>
    obtain ⟨rounds, rfl⟩ : ∃ left, rounds = left + 1 :=
      Nat.exists_eq_add_one_of_ne_zero (by rintro rfl; simp at hrounds)
    have hstarts : startsSegment (treesBehindColons (name :: names)) = true := rfl
    have hsign : sign "::" (treesBehindColons (name :: names)) =
        some ((), .word (String.ofList name) :: treesBehindColons names) :=
      rfl
    have hrest := ih (Nat.le_of_succ_le_succ hrounds)
    rw [whileWithin, bind_apply, sees_apply, hstarts, Option.bind_some]
    dsimp only
    rw [if_pos rfl, bind_apply, bind_apply, hsign, Option.bind_some, segment_name, anyKeyword,
      List.any_cons]
    cases isPathKeyword (String.ofList name) with
    | true => rfl
    | false =>
      rw [if_neg Bool.false_ne_true, Option.bind_some, Bool.false_or]
      dsimp only
      rw [bind_apply, hrest, anyKeyword]
      split <;> rfl

theorem length_le_treeCount (names : List (List Char)) :
    names.length ≤ treeCount (treesBehindColons names) := by
  induction names with
  | nil => exact Nat.zero_le _
  | cons name names ih =>
    simp only [treesBehindColons, List.flatMap_cons, List.cons_append, List.nil_append, treeCount,
      Tree.count, List.length_cons]
    simp only [treesBehindColons] at ih
    omega

theorem path_names (read : Rule → Reader Node) (rooted : Bool) (first : List Char)
    (others : List (List Char)) :
    path read false (pathTrees rooted first others) =
      if anyKeyword (first :: others) then none
      else some (.path rooted (plainSegments (first :: others)), []) := by
  have hsign : signIf "::" (pathTrees rooted first others) =
      some (rooted, .word (String.ofList first) :: treesBehindColons others) := by
    cases rooted <;> rfl
  have hfurther : furtherSegments read false startsSegment (treesBehindColons others) =
      if anyKeyword others then none else some (plainSegments others, []) :=
    whileWithin_segments read others (Nat.le_succ_of_le (length_le_treeCount others))
  rw [path, bind_apply, hsign, Option.bind_some]
  dsimp only
  rw [bind_apply, segment_name, anyKeyword, List.any_cons]
  cases isPathKeyword (String.ofList first) with
  | true => rfl
  | false =>
    rw [if_neg Bool.false_ne_true, Option.bind_some, Bool.false_or]
    dsimp only
    rw [bind_apply, hfurther, anyKeyword]
    split <;> rfl

def pathTokens (rooted : Bool) (names : List (List Char)) : List Token :=
  bareIf rooted "::" ++ separated "::" (names.map fun name ↦ bare (String.ofList name))

theorem tokens_plainSegments (rooted : Bool) (names : List (List Char)) :
    (Node.path rooted (plainSegments names)).tokens = pathTokens rooted names := by
  have hsegments : spellAll (plainSegments names) =
      names.map fun name ↦ bare (String.ofList name) := by
    induction names with
    | nil => rfl
    | cons name names ih => exact congrArg (bare (String.ofList name) :: ·) ih
  have hpath : (Node.path rooted (plainSegments names)).tokens =
      bareIf rooted "::" ++ separated "::" (spellAll (plainSegments names)) :=
    rfl
  rw [hpath, hsegments, pathTokens]

/-- A text of plain names is a path unless one of them is a keyword. -/
theorem path?_pathChars {rooted : Bool} {first : List Char} {others : List (List Char)}
    (hfirst : isPlainName first = true) (hothers : ∀ name ∈ others, isPlainName name = true) :
    path? (String.ofList (pathChars rooted first others)) =
      if anyKeyword (first :: others) then none
      else some (pathTokens rooted (first :: others)) := by
  rw [path?, readPath?, readWhole?, trees?_pathChars hfirst hothers, Option.bind_eq_bind,
    Option.bind_some, path_names]
  split
  · rfl
  · rw [Option.bind_eq_bind, Option.bind_some]
    exact congrArg some (tokens_plainSegments rooted _)

theorem chars_separated (first : List Char) (others : List (List Char)) :
    (separated "::" ((first :: others).map fun name ↦ bare (String.ofList name))).flatMap
      (fun token ↦ token.text.toList) = first ++ behindColons others := by
  induction others generalizing first with
  | nil => simp [separated, bare, Token.text, behindColons]
  | cons next others ih =>
    have hcolons : (Token.plain "::").text.toList = [':', ':'] := rfl
    have hrest := ih next
    rw [List.map_cons] at hrest
    rw [List.map_cons, List.map_cons, separated, List.flatMap_append, List.flatMap_cons, hcolons,
      hrest]
    simp [bare, Token.text, behindColons]

/-- The tokens of a path spell its text. -/
theorem pathText_pathTokens {rooted : Bool} {first : List Char} {others : List (List Char)}
    (hfirst : isPlainName first = true) (hothers : ∀ name ∈ others, isPlainName name = true) :
    pathText (pathTokens rooted (first :: others)) =
      String.ofList (pathChars rooted first others) := by
  have hchars : (pathTokens rooted (first :: others)).flatMap (fun token ↦ token.text.toList) =
      pathChars rooted first others := by
    rw [pathTokens, List.flatMap_append, chars_separated, pathChars, List.append_assoc]
    cases rooted <;> rfl
  have hsolid : ∀ c ∈ pathChars rooted first others, (c != ' ') = true := by
    have hpath : ∀ c, isPathChar c = true → (c != ' ') = true := by
      intro c hc
      rw [bne_iff_ne]
      rintro rfl
      exact absurd hc (by decide)
    intro c hc
    refine hpath c ?_
    rw [pathChars, List.mem_append, List.mem_append] at hc
    rcases hc with (hc | hc) | hc
    · cases rooted with
      | false => cases hc
      | true =>
        obtain rfl : c = ':' := by simpa using hc
        rfl
    · simp [isPathChar, isPlainChar_of_mem hfirst hc]
    · exact isPathChar_of_mem_behindColons hothers c hc
  rw [pathText, hchars, List.filter_eq_self.mpr hsolid]

/-- Whether a text with a separator between its names has one that cannot be a segment. -/
def hasPathKeyword (separator : Char) (text : String) : Bool :=
  anyKeyword (Text.splitAll separator text.toList)

theorem colon_notMem {name : List Char} (h : isPlainName name = true) : ':' ∉ name :=
  fun hmem ↦ absurd (isPlainChar_of_mem h hmem) (by decide)

/-- A path of plain names does not end with a colon. -/
theorem getLast?_pathChars {rooted : Bool} {first : List Char} {others : List (List Char)}
    (hfirst : isPlainName first = true) (hothers : ∀ name ∈ others, isPlainName name = true) :
    ∀ c ∈ (pathChars rooted first others).getLast?, c ≠ ':' := by
  have hlast : ∃ before last, pathChars rooted first others = before ++ last ∧
      isPlainName last = true := by
    rcases List.eq_nil_or_concat others with rfl | ⟨init, last, rfl⟩
    · exact ⟨if rooted then [':', ':'] else [], first, List.append_nil _, hfirst⟩
    · refine ⟨pathChars rooted first init ++ [':', ':'], last, ?_, hothers last (by simp)⟩
      simp [pathChars, behindColons]
  obtain ⟨before, last, hchars, hlast⟩ := hlast
  intro c hc
  obtain ⟨d, tail, rfl, -⟩ := exists_cons_of_isPlainName hlast
  have hsome : ((before ++ d :: tail).getLast?) = (d :: tail).getLast? := by
    rw [List.getLast?_append, List.getLast?_cons, Option.some_or]
  rw [hchars, hsome] at hc
  rintro rfl
  exact colon_notMem hlast (List.mem_of_getLast? hc)

theorem anyKeyword_splitAll {first : List Char} {others : List (List Char)}
    (hfirst : isPlainName first = true) (hothers : ∀ name ∈ others, isPlainName name = true) :
    anyKeyword (Text.splitAll ':' (first ++ behindColons others)) =
      anyKeyword (first :: others) := by
  induction others generalizing first with
  | nil => rw [behindColons, List.flatMap_nil, List.append_nil,
      Text.splitAll_of_notMem (colon_notMem hfirst)]
  | cons next others ih =>
    obtain ⟨hnext, hothers⟩ := List.forall_mem_cons.mp hothers
    have hbehind : behindColons (next :: others) = ':' :: ':' :: (next ++ behindColons others) :=
      rfl
    have hempty : isPathKeyword (String.ofList []) = false := by
      decide
    have hrest : Text.splitAll ':' (':' :: (next ++ behindColons others)) =
        [] :: Text.splitAll ':' (next ++ behindColons others) :=
      Text.splitAll_append_cons List.not_mem_nil _
    rw [hbehind, Text.splitAll_append_cons (colon_notMem hfirst), hrest, anyKeyword, List.any_cons,
      List.any_cons, hempty, Bool.false_or, ← anyKeyword, ih hnext hothers]
    rfl

end ProtoCrud.Code
