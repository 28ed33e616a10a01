import ProtoCrud.Query.Filter

/-!
# Patterns of a like condition

In a pattern the percent sign stands for any run of characters and the underscore for any one
character; a backslash takes the meaning away from the character behind it. A like condition puts
its operand between two percent signs as it is, so what the operand means is up to the characters in
it: the condition is a substring match exactly for the operands in which no character has a meaning
of its own.
-/

namespace ProtoCrud.Query

/-- What a part of a pattern stands for. -/
inductive PatternPart where
  | anyRun
  | anyOne
  | exactly (c : Char)
  deriving DecidableEq

/-- The parts of a pattern. A backslash behind which there is nothing stands for itself. -/
def patternParts : List Char → List PatternPart
  | [] => []
  | '\\' :: c :: rest => .exactly c :: patternParts rest
  | '%' :: rest => .anyRun :: patternParts rest
  | '_' :: rest => .anyOne :: patternParts rest
  | c :: rest => .exactly c :: patternParts rest

inductive Matches : List PatternPart → List Char → Prop
  | nil : Matches [] []
  | anyRun {parts : List PatternPart} (run : List Char) {rest : List Char} :
      Matches parts rest → Matches (.anyRun :: parts) (run ++ rest)
  | anyOne {parts : List PatternPart} (c : Char) {rest : List Char} :
      Matches parts rest → Matches (.anyOne :: parts) (c :: rest)
  | exactly {parts : List PatternPart} (c : Char) {rest : List Char} :
      Matches parts rest → Matches (.exactly c :: parts) (c :: rest)

def IsLike (pattern text : String) : Prop :=
  Matches (patternParts pattern.toList) text.toList

def isSpecial (c : Char) : Bool :=
  c == '%' || c == '_' || c == '\\'

theorem isSpecial_eq_false_iff (c : Char) :
    isSpecial c = false ↔ c ≠ '%' ∧ c ≠ '_' ∧ c ≠ '\\' := by
  simp only [isSpecial, Bool.or_eq_false_iff, beq_eq_false_iff_ne, and_assoc]

theorem matches_anyRun_iff {parts : List PatternPart} {text : List Char} :
    Matches (.anyRun :: parts) text ↔ ∃ run rest, text = run ++ rest ∧ Matches parts rest := by
  constructor
  · rintro (_ | ⟨run, hrest⟩)
    exact ⟨run, _, rfl, hrest⟩
  · rintro ⟨run, rest, rfl, hrest⟩
    exact .anyRun run hrest

theorem matches_exactly_iff {parts : List PatternPart} {c : Char} {text : List Char} :
    Matches (.exactly c :: parts) text ↔ ∃ rest, text = c :: rest ∧ Matches parts rest := by
  constructor
  · intro h
    cases h with
    | exactly c hrest => exact ⟨_, rfl, hrest⟩
  · rintro ⟨rest, rfl, hrest⟩
    exact .exactly c hrest

/-- The pattern of a single percent sign stands for every text. -/
theorem matches_anyRun_nil (text : List Char) : Matches [.anyRun] text := by
  have h := Matches.anyRun text .nil
  rwa [List.append_nil] at h

/-- The parts of characters that have no meaning of their own. -/
theorem patternParts_cons {c : Char} (hc : isSpecial c = false) (rest : List Char) :
    patternParts (c :: rest) = .exactly c :: patternParts rest := by
  obtain ⟨hpercent, hunderscore, hbackslash⟩ := (isSpecial_eq_false_iff c).mp hc
  rw [patternParts] <;> simp [hpercent, hunderscore, hbackslash]

/-- Characters without a meaning of their own stand for themselves. -/
theorem matches_append_iff {value : List Char} (hvalue : ∀ c ∈ value, isSpecial c = false)
    (pattern text : List Char) :
    Matches (patternParts (value ++ pattern)) text ↔
      ∃ rest, text = value ++ rest ∧ Matches (patternParts pattern) rest := by
  induction value generalizing text with
  | nil => simp
  | cons c value ih =>
    obtain ⟨hc, hvalue⟩ := List.forall_mem_cons.mp hvalue
    rw [List.cons_append, patternParts_cons hc, matches_exactly_iff]
    constructor
    · rintro ⟨behind, rfl, hbehind⟩
      obtain ⟨rest, rfl, hrest⟩ := (ih hvalue behind).mp hbehind
      exact ⟨rest, rfl, hrest⟩
    · rintro ⟨rest, rfl, hrest⟩
      exact ⟨value ++ rest, rfl, (ih hvalue _).mpr ⟨rest, rfl, hrest⟩⟩

/-- Without a backslash, every character of an operand matches itself. -/
theorem matches_append {value : List Char} (hvalue : '\\' ∉ value) {pattern rest : List Char}
    (hrest : Matches (patternParts pattern) rest) :
    Matches (patternParts (value ++ pattern)) (value ++ rest) := by
  induction value with
  | nil => exact hrest
  | cons c value ih =>
    obtain ⟨hc, hvalue⟩ := List.ne_and_not_mem_of_not_mem_cons hvalue
    have hbehind := ih hvalue
    by_cases hpercent : c = '%'
    · subst hpercent
      exact .anyRun ['%'] hbehind
    by_cases hunderscore : c = '_'
    · subst hunderscore
      exact .anyOne '_' hbehind
    have hplain : isSpecial c = false :=
      (isSpecial_eq_false_iff c).mpr ⟨hpercent, hunderscore, Ne.symm hc⟩
    rw [List.cons_append, List.cons_append, patternParts_cons hplain]
    exact .exactly c hbehind

/-- A text as short as possible that a pattern stands for. -/
def shortest : List PatternPart → List Char
  | [] => []
  | .anyRun :: parts => shortest parts
  | .anyOne :: parts => 'a' :: shortest parts
  | .exactly c :: parts => c :: shortest parts

theorem matches_shortest (parts : List PatternPart) : Matches parts (shortest parts) := by
  induction parts with
  | nil => exact .nil
  | cons part parts ih =>
    cases part with
    | anyRun => exact .anyRun [] ih
    | anyOne => exact .anyOne 'a' ih
    | exactly c => exact .exactly c ih

/--
The shortest text of an operand in front of the closing percent sign is not longer than the operand,
and it is the operand only if no character has a meaning of its own.
-/
theorem shortest_operand (value : List Char) :
    (shortest (patternParts (value ++ ['%']))).length ≤ value.length ∧
      (shortest (patternParts (value ++ ['%'])) = value → ∀ c ∈ value, isSpecial c = false) := by
  induction value using patternParts.induct with
  | case1 => exact ⟨Nat.le_refl 0, fun _ ↦ List.forall_mem_nil _⟩
  -- A backslash in front of a character is left out.
  | case2 c rest ih =>
    have hlength : (c :: shortest (patternParts (rest ++ ['%']))).length < rest.length + 2 := by
      rw [List.length_cons]
      omega
    refine ⟨Nat.le_of_lt hlength, fun h ↦ ?_⟩
    exact absurd (congrArg List.length h) (Nat.ne_of_lt hlength)
  -- A percent sign is left out.
  | case3 rest ih =>
    have hlength : (shortest (patternParts (rest ++ ['%']))).length < rest.length + 1 := by
      omega
    refine ⟨Nat.le_of_lt hlength, fun h ↦ ?_⟩
    exact absurd (congrArg List.length h) (Nat.ne_of_lt hlength)
  -- Another character stands in the place of an underscore.
  | case4 rest ih =>
    refine ⟨Nat.succ_le_succ ih.1, fun h ↦ ?_⟩
    exact absurd (List.cons.inj h).1 (by decide)
  | case5 c rest hescape hpercent hunderscore ih =>
    by_cases hbackslash : c = '\\'
    · cases rest with
      | nil =>
        -- The backslash at the end makes an ordinary character of the closing percent sign.
        subst hbackslash
        exact ⟨Nat.le_refl 1, fun h ↦ absurd (List.cons.inj h).1 (by decide)⟩
      | cons next rest => exact absurd rfl (hescape next rest hbackslash)
    · have hplain : isSpecial c = false :=
        (isSpecial_eq_false_iff c).mpr ⟨hpercent, hunderscore, hbackslash⟩
      rw [List.cons_append, patternParts_cons hplain]
      refine ⟨Nat.succ_le_succ ih.1, fun h ↦ ?_⟩
      exact List.forall_mem_cons.mpr ⟨hplain, ih.2 (List.cons.inj h).2⟩

/-- The pattern in which an operand stands between two percent signs. -/
theorem isLike_iff_exists (value text : String) :
    IsLike ("%" ++ value ++ "%") text ↔
      ∃ run rest, text.toList = run ++ rest ∧
        Matches (patternParts (value.toList ++ ['%'])) rest := by
  have hparts : patternParts ("%" ++ value ++ "%").toList =
      .anyRun :: patternParts (value.toList ++ ['%']) := by
    rw [String.toList_append, String.toList_append]
    rfl
  rw [IsLike, hparts, matches_anyRun_iff]

theorem isLike_iff_occurs_of_plain {value : String}
    (hvalue : ∀ c ∈ value.toList, isSpecial c = false) (text : String) :
    IsLike ("%" ++ value ++ "%") text ↔ value.toList <:+: text.toList := by
  rw [isLike_iff_exists]
  constructor
  · rintro ⟨run, rest, htext, hrest⟩
    obtain ⟨behind, rfl, -⟩ := (matches_append_iff hvalue _ _).mp hrest
    exact ⟨run, behind, by rw [htext, List.append_assoc]⟩
  · rintro ⟨run, behind, htext⟩
    refine ⟨run, value.toList ++ behind, by rw [← htext, List.append_assoc], ?_⟩
    exact (matches_append_iff hvalue _ _).mpr ⟨behind, rfl, matches_anyRun_nil behind⟩

/-- An operand that matches nothing but the texts it occurs in has no special characters. -/
theorem plain_of_isLike_imp_occurs {value : String}
    (h : ∀ text : String, IsLike ("%" ++ value ++ "%") text → value.toList <:+: text.toList) :
    ∀ c ∈ value.toList, isSpecial c = false := by
  obtain ⟨hlength, hplain⟩ := shortest_operand value.toList
  let text := String.ofList (shortest (patternParts (value.toList ++ ['%'])))
  have hlike : IsLike ("%" ++ value ++ "%") text := by
    apply (isLike_iff_exists value text).mpr
    exact ⟨[], _, String.toList_ofList, matches_shortest _⟩
  have hoccurs : value.toList <:+: shortest (patternParts (value.toList ++ ['%'])) := by
    simpa only [text, String.toList_ofList] using h text hlike
  exact hplain (hoccurs.eq_of_length_le hlength).symm

/-- Without a backslash in its operand, a like condition misses no text that has the operand. -/
theorem isLike_of_occurs {value text : String} (hvalue : '\\' ∉ value.toList)
    (h : value.toList <:+: text.toList) : IsLike ("%" ++ value ++ "%") text := by
  obtain ⟨run, behind, htext⟩ := h
  apply (isLike_iff_exists value text).mpr
  refine ⟨run, value.toList ++ behind, by rw [← htext, List.append_assoc], ?_⟩
  exact matches_append hvalue (matches_anyRun_nil behind)

/--
A like condition passes its operand between two percent signs. That makes it a substring match, for
all texts, exactly if the operand has no percent sign, no underscore and no backslash. An operand
without a backslash still matches every text that it occurs in.
-/
theorem like_isSubstringMatch_iff (field value : String) (others : List String) :
    ∃ pattern : String,
      compileOne (.condition field .like (value :: others)) none =
        ⟨field ++ " LIKE ?", [pattern]⟩ ∧
      ((∀ text : String, IsLike pattern text ↔ value.toList <:+: text.toList) ↔
        ∀ c ∈ value.toList, isSpecial c = false) ∧
      ('\\' ∉ value.toList →
        ∀ text : String, value.toList <:+: text.toList → IsLike pattern text) := by
  refine ⟨"%" ++ value ++ "%", ?_, ⟨fun h ↦ ?_, isLike_iff_occurs_of_plain⟩, fun h text ↦ ?_⟩
  · calc compileOne (.condition field .like (value :: others)) none
      _ = ⟨field ++ " " ++ "LIKE ?", ["%" ++ value ++ "%"]⟩ := rfl
      _ = ⟨field ++ " LIKE ?", ["%" ++ value ++ "%"]⟩ := by rw [String.append_assoc]; rfl
  · exact plain_of_isLike_imp_occurs fun text ↦ (h text).mp
  · exact isLike_of_occurs h

/-- A discount is found in a text that names it, although its percent sign matches any run. -/
theorem like_finds_discount :
    '\\' ∉ "50%".toList ∧ "50%".toList <:+: "at 50% off".toList ∧
      compileOne (.condition "title" .like ["50%"]) none = ⟨"title LIKE ?", ["%50%%"]⟩ ∧
      IsLike "%50%%" "at 50% off" := by
  have hvalue : '\\' ∉ "50%".toList := by decide
  have hoccurs : "50%".toList <:+: "at 50% off".toList := ⟨"at ".toList, " off".toList, rfl⟩
  obtain ⟨pattern, hcompiled, -, hlike⟩ := like_isSubstringMatch_iff "title" "50%" []
  obtain rfl : "%50%%" = pattern :=
    (List.cons.inj (congrArg CompiledFilter.args hcompiled)).1
  exact ⟨hvalue, hoccurs, hcompiled, hlike hvalue _ hoccurs⟩

/-- The operand of a single percent sign matches texts that have no percent sign. -/
theorem not_forall_like_isSubstringMatch :
    ¬ ∀ (field value pattern : String),
      compileOne (.condition field .like [value]) none = ⟨field ++ " LIKE ?", [pattern]⟩ →
        ∀ text : String, IsLike pattern text ↔ value.toList <:+: text.toList := by
  intro h
  have hlike : IsLike "%%%" "a" :=
    .anyRun [] (.anyRun [] (matches_anyRun_nil ['a']))
  have hoccurs : ['%'] <:+: ['a'] := (h "title" "%" "%%%" (by decide) "a").mp hlike
  exact absurd (hoccurs.subset List.mem_cons_self) (by decide)

end ProtoCrud.Query
