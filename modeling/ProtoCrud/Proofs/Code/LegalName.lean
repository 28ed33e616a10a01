import ProtoCrud.Code.Path
import ProtoCrud.Proofs.Code.FieldIdentifier
import ProtoCrud.Proofs.Code.PathText

/-!
# Legal names

Code is legal if every name in it can be an identifier. Only names that come from a schema are held
to that; what a text or a syntax tree spells has none of them. A plain name is an identifier, and so
is the identifier of a field that has one, keyword or not.
-/

namespace ProtoCrud.Code

def HasLegalNames (tokens : List Token) : Prop :=
  ∀ text, .name text ∈ tokens → isIdentifier text = true

theorem illegalName?_eq_none_iff {tokens : List Token} :
    illegalName? tokens = none ↔ HasLegalNames tokens := by
  rw [illegalName?, List.findSome?_eq_none_iff]
  constructor
  · intro h text hmem
    simpa [Token.illegalName?] using h _ hmem
  · intro h token hmem
    cases token with
    | name text => simpa [Token.illegalName?] using h text hmem
    | plain _ => rfl
    | quoted _ => rfl
    | raw _ => rfl

theorem illegalName?_ne_some {tokens : List Token} (h : HasLegalNames tokens) (text : String) :
    illegalName? tokens ≠ some text := by
  rw [illegalName?_eq_none_iff.mpr h]
  nofun

section Built

variable {tokens others : List Token} {text : String}

@[simp]
theorem hasLegalNames_nil : HasLegalNames [] := by
  simp [HasLegalNames]

@[simp]
theorem hasLegalNames_append :
    HasLegalNames (tokens ++ others) ↔ HasLegalNames tokens ∧ HasLegalNames others := by
  simp [HasLegalNames, or_imp, forall_and]

@[simp]
theorem hasLegalNames_plain :
    HasLegalNames (.plain text :: tokens) ↔ HasLegalNames tokens := by
  simp [HasLegalNames]

@[simp]
theorem hasLegalNames_raw : HasLegalNames (.raw text :: tokens) ↔ HasLegalNames tokens := by
  simp [HasLegalNames]

@[simp]
theorem hasLegalNames_name : HasLegalNames (name text) ↔ isIdentifier text = true := by
  simp [HasLegalNames, name]

@[simp]
theorem hasLegalNames_quoted : HasLegalNames (quoted text) := by
  simp [HasLegalNames, quoted]

@[simp]
theorem hasLegalNames_code : HasLegalNames (code text) := by
  simp [HasLegalNames, code]

@[simp]
theorem hasLegalNames_braced : HasLegalNames (braced tokens) ↔ HasLegalNames tokens := by
  simp [braced]

@[simp]
theorem hasLegalNames_parenthesised :
    HasLegalNames (parenthesised tokens) ↔ HasLegalNames tokens := by
  simp [parenthesised]

@[simp]
theorem hasLegalNames_squared : HasLegalNames (squared tokens) ↔ HasLegalNames tokens := by
  simp [squared]

@[simp]
theorem hasLegalNames_angled : HasLegalNames (angled tokens) ↔ HasLegalNames tokens := by
  simp [angled]

@[simp]
theorem hasLegalNames_doc : HasLegalNames (doc text) := by
  simp [doc]

@[simp]
theorem hasLegalNames_flatten {pieces : List (List Token)} :
    HasLegalNames pieces.flatten ↔ ∀ piece ∈ pieces, HasLegalNames piece := by
  induction pieces with
  | nil => simp
  | cons piece pieces ih => simp [ih]

@[simp]
theorem hasLegalNames_flatMap {α : Type} {items : List α} {f : α → List Token} :
    HasLegalNames (items.flatMap f) ↔ ∀ item ∈ items, HasLegalNames (f item) := by
  rw [List.flatMap_def, hasLegalNames_flatten, List.forall_mem_map]

@[simp]
theorem hasLegalNames_listed {pieces : List (List Token)} :
    HasLegalNames (listed pieces) ↔ ∀ piece ∈ pieces, HasLegalNames piece := by
  simp [listed]

@[simp]
theorem hasLegalNames_elim {α : Type} {a : Option α} {f : α → List Token} :
    HasLegalNames (a.elim [] f) ↔ ∀ content ∈ a, HasLegalNames (f content) := by
  cases a <;> simp

theorem HasLegalNames.getD {piece : Option (List Token)} (hothers : HasLegalNames others)
    (h : ∀ tokens ∈ piece, HasLegalNames tokens) : HasLegalNames (piece.getD others) := by
  cases piece with
  | none => exact hothers
  | some tokens => exact h tokens rfl

end Built

section Spelling

variable {tokens : List Token}

@[simp]
theorem hasLegalNames_bareIf (given : Bool) (text : String) :
    HasLegalNames (bareIf given text) := by
  cases given <;> simp [bareIf, bare]

@[simp]
theorem hasLegalNames_separated {separator : String} {items : List (List Token)} :
    HasLegalNames (separated separator items) ↔ ∀ item ∈ items, HasLegalNames item := by
  fun_induction separated separator items with
  | case1 => simp
  | case2 => simp
  | case3 item next rest ih => simp [ih]

@[simp]
theorem hasLegalNames_rowTokens {separator : String} {row : Row (List Token)} :
    HasLegalNames (rowTokens separator row) ↔ ∀ item ∈ row.items, HasLegalNames item := by
  simp [rowTokens]

theorem HasLegalNames.headed {head : List Token} (hhead : HasLegalNames head)
    (h : HasLegalNames tokens) : HasLegalNames (headed head tokens) := by
  rw [Code.headed]
  split
  · exact hasLegalNames_nil
  · exact hasLegalNames_append.mpr ⟨hhead, h⟩

@[simp]
theorem hasLegalNames_behindSign {sign : String} {piece : Option (List Token)} :
    HasLegalNames (behindSign sign piece) ↔ ∀ tokens ∈ piece, HasLegalNames tokens := by
  cases piece <;> simp [behindSign]

@[simp]
theorem hasLegalNames_around {bracket : Bracket} :
    HasLegalNames (bracket.around tokens) ↔ HasLegalNames tokens := by
  simp [Bracket.around]

@[simp]
theorem hasLegalNames_groupedIf {needed : Bool} :
    HasLegalNames (groupedIf needed tokens) ↔ HasLegalNames tokens := by
  cases needed <;> simp [groupedIf]

theorem mem_tokens_withCommas {trailing : Bool} {leads : List Bool} {pieces : List (List Token)}
    {item : Separated} (h : item ∈ withCommas trailing leads pieces) : item.tokens ∈ pieces := by
  induction pieces generalizing leads with
  | nil => simp [withCommas] at h
  | cons piece pieces ih =>
    cases leads with
    | nil => simp [withCommas] at h
    | cons lead leads =>
      rcases List.mem_cons.mp h with rfl | h
      · exact List.mem_cons_self
      · exact List.mem_cons_of_mem piece (ih h)

@[simp]
theorem hasLegalNames_joinedItems {isOpen : Bool} {items : List Separated} :
    HasLegalNames (joinedItems isOpen items) ↔ ∀ item ∈ items, HasLegalNames item.tokens := by
  induction items generalizing isOpen with
  | nil => simp [joinedItems]
  | cons item items ih => simp [joinedItems, ih]

theorem hasLegalNames_lifetimesFirst {leads : List Bool} {row : Row (List Token)}
    (h : ∀ item ∈ row.items, HasLegalNames item) : HasLegalNames (lifetimesFirst leads row) := by
  rw [lifetimesFirst, hasLegalNames_joinedItems]
  intro item hitem
  rcases List.mem_append.mp hitem with hitem | hitem <;>
    exact h _ (mem_tokens_withCommas (List.mem_filter.mp hitem).1)

@[simp]
theorem hasLegalNames_literalToken {text : String} :
    HasLegalNames (literalToken text :: tokens) ↔ HasLegalNames tokens := by
  unfold literalToken
  split <;> simp

theorem HasLegalNames.signed (h : HasLegalNames tokens) (c : Char) (joined : Bool) :
    HasLegalNames (signed c joined tokens) := by
  unfold Code.signed
  split
  · rw [hasLegalNames_plain] at h
    split <;> simpa using h
  · simpa using h

mutual

theorem hasLegalNames_tokensBefore {behind : List Token} (h : HasLegalNames behind) :
    ∀ tree : Tree, HasLegalNames (tree.tokensBefore behind)
  | .word _ => by simpa [Tree.tokensBefore] using h
  | .lifetime _ => by simpa [Tree.tokensBefore] using h
  | .literal _ => by simpa [Tree.tokensBefore] using h
  | .sign c joined => h.signed c joined
  | .group _ content => by simp [Tree.tokensBefore, hasLegalNames_treeTokens content, h]

@[simp]
theorem hasLegalNames_treeTokens : ∀ trees : List Tree, HasLegalNames (treeTokens trees)
  | [] => by simp [treeTokens]
  | tree :: rest => hasLegalNames_tokensBefore (hasLegalNames_treeTokens rest) tree

end

@[simp]
theorem hasLegalNames_bare (text : String) : HasLegalNames (bare text) := by
  simp [bare]

@[simp]
theorem hasLegalNames_plainPath (path : PlainPath) : HasLegalNames path.tokens := by
  simp [PlainPath.tokens]

@[simp]
theorem hasLegalNames_invocation (invocation : Invocation) : HasLegalNames invocation.tokens := by
  simp [Invocation.tokens]

@[simp]
theorem hasLegalNames_lifetimeTokens (name : Option String) :
    HasLegalNames (lifetimeTokens name) := by
  cases name <;> simp [lifetimeTokens, lifetimeToken]

@[simp]
theorem hasLegalNames_convention (convention : Convention) : HasLegalNames convention.tokens := by
  rcases convention with ⟨_ | name⟩ <;> simp [Convention.tokens]

@[simp]
theorem hasLegalNames_conventionIf (convention : Option Convention) :
    HasLegalNames ((convention.map Convention.tokens).getD []) := by
  cases convention <;> simp

@[simp]
theorem hasLegalNames_functionMarks (marks : FunctionMarks) : HasLegalNames marks.tokens := by
  simp [FunctionMarks.tokens]

@[simp]
theorem hasLegalNames_closureMarks (marks : ClosureMarks) : HasLegalNames marks.tokens := by
  simp [ClosureMarks.tokens]

@[simp]
theorem hasLegalNames_visibility (visibility : Visibility) : HasLegalNames visibility.tokens := by
  cases visibility <;> simp [Visibility.tokens]

theorem HasLegalNames.inputTokens {inputs : Row (List Token)} {variadic : Option (List Token)}
    (hinputs : ∀ item ∈ inputs.items, HasLegalNames item)
    (hvariadic : ∀ tokens ∈ variadic, HasLegalNames tokens) :
    HasLegalNames (inputTokens inputs variadic) := by
  simp only [Code.inputTokens, hasLegalNames_around, hasLegalNames_append, hasLegalNames_rowTokens]
  exact ⟨hinputs, hasLegalNames_nil.getD hvariadic⟩

theorem HasLegalNames.qualifiedTokens {rooted : Bool} {trait segments : List (List Token)}
    (h : HasLegalNames tokens) (htrait : ∀ item ∈ trait, HasLegalNames item)
    (hsegments : ∀ item ∈ segments, HasLegalNames item) :
    HasLegalNames (qualifiedTokens tokens rooted trait segments) := by
  simp only [Code.qualifiedTokens]
  split <;> simp +contextual [h, htrait, hsegments]

theorem HasLegalNames.append {others : List Token} (h : HasLegalNames tokens)
    (hothers : HasLegalNames others) : HasLegalNames (tokens ++ others) :=
  hasLegalNames_append.mpr ⟨h, hothers⟩

theorem HasLegalNames.plain (h : HasLegalNames tokens) (text : String) :
    HasLegalNames (.plain text :: tokens) :=
  hasLegalNames_plain.mpr h

/-- No token of a syntax tree is a name that is held to be legal. -/
@[simp]
theorem hasLegalNames_spell (node : Node) : ∀ generics, HasLegalNames (node.spell generics) := by
  apply @Node.rec (fun node ↦ ∀ generics, HasLegalNames (node.spell generics))
    (fun nodes ↦ ∀ tokens ∈ spellAll nodes, HasLegalNames tokens)
    (fun node ↦ ∀ tokens ∈ spellOption node, HasLegalNames tokens)
    (fun row ↦ ∀ tokens ∈ (spellRow row).items, HasLegalNames tokens)
    (fun generics ↦
      HasLegalNames (spellGenerics generics).1 ∧ HasLegalNames (spellGenerics generics).2)
  case verbatim => exact fun trees _ ↦ hasLegalNames_treeTokens trees
  case literal => exact fun text _ ↦ hasLegalNames_literalToken.mpr hasLegalNames_nil
  case qualified =>
    intro subject rooted trait segments hsubject htrait hsegments generics
    exact (hsubject false).qualifiedTokens htrait hsegments
  case traitBound =>
    intro parenthesised query binder path hbinder hpath generics
    exact hasLegalNames_groupedIf.mpr
      (((hasLegalNames_bareIf _ _).append (hasLegalNames_nil.getD hbinder)).append (hpath false))
  case cast =>
    intro value type hvalue htype generics
    refine hasLegalNames_groupedIf.mpr ?_
    simp [hvalue, htype]
  case namedValue =>
    intro name colon value hvalue generics
    cases colon
    · exact hvalue false
    · exact ((hvalue false).plain ":").plain name
  case structItem =>
    intro name generics fields hgenerics hfields _
    refine ((hasLegalNames_bare _).append (hgenerics.1.plain name)).append ?_
    have hcontent := hasLegalNames_nil.getD hfields
    split <;> simp [hgenerics.2, hcontent]
  case invocationItem =>
    intro name invocation semicolon generics
    refine HasLegalNames.append (HasLegalNames.append ?_ ?_) (hasLegalNames_bareIf _ _)
    · cases name <;> simp
    · simp
  case nil => exact List.forall_mem_nil _
  case cons =>
    intro node rest hnode hrest
    exact List.forall_mem_cons.mpr ⟨hnode false, hrest⟩
  case none => exact fun _ h ↦ nomatch h
  case some =>
    intro node hnode tokens h
    exact Option.some.inj h ▸ hnode false
  case mk => exact fun _ _ hitems ↦ hitems
  case mk =>
    intro parameters conditions hparameters hconditions
    have hgiven : HasLegalNames
        (lifetimesFirst (parameters.items.map isLifetime) (spellRow parameters)) :=
      hasLegalNames_lifetimesFirst hparameters
    refine ⟨?_, (hasLegalNames_bare _).headed (hasLegalNames_rowTokens.mpr hconditions)⟩
    simp only [spellGenerics]
    split
    · exact hasLegalNames_nil
    · exact hasLegalNames_angled.mpr hgiven
  all_goals
    intros
    try first | refine HasLegalNames.append ?_ ?_ | refine HasLegalNames.plain ?_ _
    all_goals simp +contextual [*, declaration, HasLegalNames.headed, HasLegalNames.getD,
      HasLegalNames.inputTokens, hasLegalNames_lifetimesFirst]

/-- What a text spells as a path has no name that is held to be legal. -/
theorem hasLegalNames_of_path? {text : String} (h : path? text = some tokens) :
    HasLegalNames tokens := by
  obtain ⟨node, -, rfl⟩ := Option.map_eq_some_iff.mp h
  exact hasLegalNames_spell node false

end Spelling

open Text (isPlainName exists_cons_of_isPlainName)

theorem isIdentifier_of_isPlainName {text : String} (h : isPlainName text.toList = true) :
    isIdentifier text = true := by
  obtain ⟨c, tail, htext, hc, htail⟩ := exists_cons_of_isPlainName h
  rw [← String.ofList_toList (s := text), htext]
  exact isIdentifier_word (isPlainStart_of_isAlpha hc) htail

/-- A keyword that takes the mark is an identifier behind it. -/
theorem isIdentifier_rawMark {word : String} (hword : isPlainName word.toList = true)
    (hkeyword : word ∈ keywords) : isIdentifier (rawMark ++ word) = true := by
  have hmarkable : ∀ keyword ∈ keywords, unmarkable.contains keyword = false := by
    decide
  have hmark : Text.afterStart? rawMark.toList (rawMark ++ word).toList = some word.toList := by
    rw [String.toList_append]
    exact Text.afterStart?_eq_some_iff.mpr rfl
  obtain ⟨c, tail, htext, hc, htail⟩ := exists_cons_of_isPlainName hword
  rw [isIdentifier, hmark]
  dsimp only
  rw [String.ofList_toList, hmarkable word hkeyword, htext,
    isWord_word (isPlainStart_of_isAlpha hc) htail]
  rfl

/-- A field with a plain name has an identifier, whether it is spelt like a keyword or not. -/
theorem isIdentifier_fieldIdentifier {name : String} (h : isPlainName name.toList = true) :
    isIdentifier (fieldIdentifier name) = true := by
  have hsnake := Text.isPlainName_snakeCase h
  rw [fieldIdentifier_eq, escaped]
  split
  · refine isIdentifier_of_isPlainName ?_
    rw [String.toList_append]
    exact Text.isPlainName_append hsnake (List.all_eq_true.mp (by decide))
  · split
    · next hkeyword => exact isIdentifier_rawMark hsnake (List.contains_iff_mem.mp hkeyword)
    · exact isIdentifier_of_isPlainName hsnake

end ProtoCrud.Code
