import ProtoCrud.Proofs.Sql.Clause
import ProtoCrud.Sql.Predicate

/-!
# The text of a predicate reads back

The text of a predicate has no parentheses around single tests and none at the top, and its
operands travel beside it. Reading the text and binding the operands gives the tree of the
predicate back all the same: every predicate is one operand of the reader (`readOperand_pieces`),
whatever is open around it, and takes exactly its own arguments.
-/

namespace ProtoCrud.Sql

open Query (Logic Operator)

def Comparison.operator : Comparison → Operator
  | .equal => .equal
  | .notEqual => .notEqual
  | .greater => .greaterThan
  | .greaterEqual => .greaterThanEqual
  | .less => .lessThan
  | .lessEqual => .lessThanEqual

namespace Test

def leaf (column : String) : Test → Leaf (List String)
  | .compare comparison operand => ⟨column, comparison.operator, [operand]⟩
  | .like pattern => ⟨column, .like, [pattern]⟩
  | .oneOf operands => ⟨column, .oneOf, operands⟩
  | .noneOf operands => ⟨column, .noneOf, operands⟩
  | .isNull => ⟨column, .isNull, []⟩
  | .isNotNull => ⟨column, .isNotNull, []⟩
  | .between low high => ⟨column, .between, [low, high]⟩

/-- Whether a test has an operand where it must have one. -/
def IsFilled : Test → Prop
  | .oneOf operands => operands ≠ []
  | .noneOf operands => operands ≠ []
  | _ => True

theorem leaf_operands (column : String) (test : Test) :
    (test.leaf column).operands = test.operands := by
  cases test <;> rfl

end Test

namespace Predicate

mutual
/-- A predicate as a clause; the members of a junction associate to the left. -/
def clause : Predicate → Clause (List String)
  | .never => .constant false
  | .test column condition => .leaf (condition.leaf column)
  | .junction logic parts => joinedClause logic parts

def joinedClause (logic : Logic) : List Predicate → Clause (List String)
  | [] => .constant (logic = .and)
  | part :: parts => joinOnward logic part.clause parts

def joinOnward (logic : Logic) (first : Clause (List String)) :
    List Predicate → Clause (List String)
  | [] => first
  | part :: parts => joinOnward logic (.join logic first part.clause) parts
end

mutual
def pieces : Predicate → List Piece
  | .never => [.single (.constant false)]
  | .test column condition => [.single (Clause.leaf (condition.leaf column)).shape]
  | .junction logic parts => .opening :: (joinedPieces logic parts ++ [.closing])

def joinedPieces (logic : Logic) : List Predicate → List Piece
  | [] => []
  | part :: parts => part.pieces ++ piecesOnward logic parts

def piecesOnward (logic : Logic) : List Predicate → List Piece
  | [] => []
  | part :: parts => .connective logic :: (part.pieces ++ piecesOnward logic parts)
end

mutual
/-- Whether a predicate has nothing but identifiers for columns and no place left empty. -/
def IsReadable (dialect : Dialect) : Predicate → Prop
  | .never => True
  | .test column condition => dialect.IsIdentifier column ∧ condition.IsFilled
  | .junction _ parts => parts ≠ [] ∧ AllReadable dialect parts

def AllReadable (dialect : Dialect) : List Predicate → Prop
  | [] => True
  | part :: parts => part.IsReadable dialect ∧ AllReadable dialect parts
end

mutual
theorem operands_clause : (predicate : Predicate) →
    predicate.clause.operands = predicate.operands
  | .never => rfl
  | .test column condition => condition.leaf_operands column
  | .junction logic parts => operands_joinedClause logic parts

theorem operands_joinedClause (logic : Logic) : (parts : List Predicate) →
    (joinedClause logic parts).operands = allOperands parts
  | [] => rfl
  | part :: parts => by
    rw [joinedClause, operands_joinOnward logic part.clause parts, operands_clause part]
    rfl

theorem operands_joinOnward (logic : Logic) (first : Clause (List String)) :
    (parts : List Predicate) →
      (joinOnward logic first parts).operands = first.operands ++ allOperands parts
  | [] => (List.append_nil _).symm
  | part :: parts => by
    rw [joinOnward, operands_joinOnward logic _ parts, Clause.operands, operands_clause part,
      List.append_assoc]
    rfl
end

mutual
/-- The pieces of a predicate are read as one operand, whatever is open around them. -/
theorem readOperand_pieces (dialect : Dialect) : (predicate : Predicate) →
    predicate.IsReadable dialect → ∀ (outer : List Level) (level : Level) (rest : List Piece),
      readOperand outer level (predicate.pieces ++ rest) =
        readConnective outer level.alternatives
          (Clause.after .and level.members predicate.clause.shape) rest
  | .never, _, outer, level, rest => rfl
  | .test column condition, _, outer, level, rest => rfl
  | .junction logic [], h, outer, level, rest => absurd rfl h.1
  | .junction logic (part :: parts), h, outer, level, rest => by
    obtain ⟨-, hpart, hparts⟩ := h
    obtain ⟨alternatives, members, hread, hclause⟩ :=
      readConnective_piecesOnward dialect logic parts hparts (level :: outer) none
        part.clause.shape part.clause rfl fun _ ↦ rfl
    have hfirst := readOperand_pieces dialect part hpart (level :: outer) ⟨none, none⟩
      (piecesOnward logic parts ++ .closing :: rest)
    have hshape : (clause (.junction logic (part :: parts))).shape =
        Clause.after .or alternatives members := hclause.symm
    simp only [pieces, joinedPieces, List.cons_append, List.append_assoc, List.nil_append,
      readOperand]
    rw [hfirst, show Clause.after .and none part.clause.shape = part.clause.shape from rfl, hread,
      readConnective, hshape]

/--
Behind an operand, the pieces of further members of the same junction leave the reader with an
alternative under way that makes the whole junction together with the complete ones.
-/
theorem readConnective_piecesOnward (dialect : Dialect) (logic : Logic) :
    (parts : List Predicate) → AllReadable dialect parts →
      ∀ (outer : List Level) (alternatives : Option (Clause Nat)) (members : Clause Nat)
        (first : Clause (List String)),
        Clause.after .or alternatives members = first.shape →
        (logic = .and → alternatives = none) →
        ∃ (alternatives' : Option (Clause Nat)) (members' : Clause Nat),
          (∀ rest, readConnective outer alternatives members (piecesOnward logic parts ++ rest) =
            readConnective outer alternatives' members' rest) ∧
          Clause.after .or alternatives' members' = (joinOnward logic first parts).shape
  | [], _, outer, alternatives, members, first, hfirst, _ =>
    ⟨alternatives, members, fun _ ↦ rfl, hfirst⟩
  | part :: parts, h, outer, alternatives, members, first, hfirst, hnone => by
    obtain ⟨hpart, hparts⟩ := h
    cases logic with
    | and =>
      obtain rfl := hnone rfl
      obtain rfl : members = first.shape := hfirst
      obtain ⟨alternatives', members', hread, hclause⟩ :=
        readConnective_piecesOnward dialect .and parts hparts outer none
          (.join .and first.shape part.clause.shape) (.join .and first part.clause) rfl fun _ ↦ rfl
      refine ⟨alternatives', members', fun rest ↦ ?_, hclause⟩
      rw [← hread, piecesOnward, List.cons_append, readConnective, List.append_assoc,
        readOperand_pieces dialect part hpart]
      rfl
    | or =>
      obtain ⟨alternatives', members', hread, hclause⟩ :=
        readConnective_piecesOnward dialect .or parts hparts outer (some first.shape)
          part.clause.shape (.join .or first part.clause) rfl nofun
      refine ⟨alternatives', members', fun rest ↦ ?_, hclause⟩
      rw [← hread, piecesOnward, List.cons_append, readConnective, hfirst, List.append_assoc,
        readOperand_pieces dialect part hpart]
      rfl
end

end Predicate

theorem isWord_keyword (keyword : Keyword) : IsWord keyword.text := by
  cases keyword <;> exact .of_all (by decide) (by decide)

namespace Dialect

variable (dialect : Dialect)

def symbols (text : List Char) : List Symbol :=
  (tokens text).map dialect.symbol

def scan? (text : List Char) : Option (List Piece) :=
  pieces? (dialect.symbols text)

theorem symbols_blank (rest : List Char) :
    dialect.symbols (' ' :: rest) = dialect.symbols rest := rfl

theorem symbols_placeholder (rest : List Char) :
    dialect.symbols ('?' :: rest) = .placeholder :: dialect.symbols rest := rfl

theorem symbols_keyword (keyword : Keyword) {rest : List Char} (hrest : EndsWord rest) :
    dialect.symbols (keyword.text.toList ++ rest) = .keyword keyword :: dialect.symbols rest := by
  have hnumber : isNumber keyword.text = false := by
    cases keyword <;> decide
  rw [symbols, tokens_word (isWord_keyword keyword) hrest, List.map_cons, symbol, hnumber,
    dialect.keyword?_text keyword]
  rfl

theorem symbols_identifier {name : String} (h : dialect.IsIdentifier name) {rest : List Char}
    (hrest : EndsWord rest) :
    dialect.symbols (name.toList ++ rest) = .field name :: dialect.symbols rest := by
  rw [symbols, tokens_word h.toIsWord hrest, List.map_cons, symbol, h.not_number, h.not_keyword]
  rfl

theorem symbols_comparison (comparison : Comparison) (rest : List Char) :
    dialect.symbols (comparison.sign.toList ++ ' ' :: rest) =
      .comparison comparison.operator :: dialect.symbols rest := by
  cases comparison <;> rfl

/-- What follows the first placeholder of a list of them, up to its closing parenthesis. -/
theorem piecesInList?_symbols (name : String) (operator : Operator) (rest : List Char) :
    (more count : Nat) →
      piecesInList? name operator count
          (dialect.symbols ((List.replicate more [',', ' ', '?']).flatten ++ ')' :: rest)) =
        (dialect.scan? rest).map (.single (.leaf ⟨name, operator, count + more⟩) :: ·)
  | 0, count => by
    change piecesInList? name operator count (.closing :: dialect.symbols rest) = _
    rw [piecesInList?]
    rfl
  | more + 1, count => by
    change piecesInList? name operator count (.comma :: .placeholder ::
      dialect.symbols ((List.replicate more [',', ' ', '?']).flatten ++ ')' :: rest)) = _
    rw [piecesInList?, piecesInList?_symbols name operator rest more (count + 1),
      Nat.add_right_comm, Nat.add_assoc]

end Dialect

/-- The text of a list of placeholders that is not empty. -/
theorem toList_placeholders (count : Nat) :
    (placeholders (count + 1)).toList = '?' :: (List.replicate count [',', ' ', '?']).flatten := by
  induction count with
  | zero => rfl
  | succ count ih =>
    have htext : placeholders (count + 1 + 1) = "?" ++ ", " ++ placeholders (count + 1) := by
      unfold placeholders
      rw [List.replicate_succ, List.replicate_succ, String.intercalate_cons_cons]
    rw [htext, String.toList_append, String.toList_append, ih, List.replicate_succ,
      List.flatten_cons]
    rfl

namespace Dialect

variable (dialect : Dialect)

/-- A parenthesised list of placeholders behind a field and the words of a membership test. -/
theorem piecesInList?_placeholders (name : String) (operator : Operator) {operands : List String}
    (hne : operands ≠ []) (rest : List Char) :
    ∃ more, dialect.symbols ('(' :: (placeholders operands.length).toList ++ ')' :: rest) =
        .opening :: .placeholder :: more ∧
      piecesInList? name operator 1 more =
        (dialect.scan? rest).map (.single (.leaf ⟨name, operator, operands.length⟩) :: ·) := by
  obtain ⟨count, hcount⟩ : ∃ count, operands.length = count + 1 :=
    ⟨operands.length - 1, (Nat.succ_pred (by simpa using hne)).symm⟩
  refine ⟨_, ?_, dialect.piecesInList?_symbols name operator rest count 1 |>.trans ?_⟩
  · rw [hcount, toList_placeholders]
    rfl
  · rw [hcount, Nat.add_comm]

/-- A test of a column is read as one piece. -/
theorem scan?_test {column : String} (hcolumn : dialect.IsIdentifier column) (test : Test)
    (hfilled : test.IsFilled) {rest : List Char} (hrest : EndsWord rest) :
    dialect.scan? ((column ++ " " ++ test.text).toList ++ rest) =
      (dialect.scan? rest).map (.single (Clause.leaf (test.leaf column)).shape :: ·) := by
  have hfield : dialect.symbols ((column ++ " " ++ test.text).toList ++ rest) =
      .field column :: dialect.symbols (test.text.toList ++ rest) := by
    have htext : (column ++ " " ++ test.text).toList ++ rest =
        column.toList ++ ' ' :: (test.text.toList ++ rest) := by
      simp
    rw [htext, dialect.symbols_identifier hcolumn (endsWord_blank _), symbols_blank]
  rw [scan?, hfield]
  cases test with
  | compare comparison operand =>
    have htext : (Test.compare comparison operand).text.toList ++ rest =
        comparison.sign.toList ++ ' ' :: '?' :: rest := by
      simp [Test.text]
    rw [htext, symbols_comparison]
    cases comparison <;> rfl
  | like pattern =>
    have htext : (Test.like pattern).text.toList ++ rest =
        Keyword.like.text.toList ++ ' ' :: '?' :: rest := by
      simp [Test.text, Keyword.text]
    rw [htext, dialect.symbols_keyword _ (endsWord_blank _)]
    rfl
  | isNull =>
    have htext : Test.isNull.text.toList ++ rest =
        Keyword.is.text.toList ++ ' ' :: (Keyword.null.text.toList ++ rest) := by
      simp [Test.text, Keyword.text]
    rw [htext, dialect.symbols_keyword _ (endsWord_blank _), symbols_blank,
      dialect.symbols_keyword _ hrest]
    rfl
  | isNotNull =>
    have htext : Test.isNotNull.text.toList ++ rest = Keyword.is.text.toList ++
        ' ' :: (Keyword.not.text.toList ++ ' ' :: (Keyword.null.text.toList ++ rest)) := by
      simp [Test.text, Keyword.text]
    rw [htext, dialect.symbols_keyword _ (endsWord_blank _), symbols_blank,
      dialect.symbols_keyword _ (endsWord_blank _), symbols_blank,
      dialect.symbols_keyword _ hrest]
    rfl
  | between low high =>
    have htext : (Test.between low high).text.toList ++ rest = Keyword.between.text.toList ++
        ' ' :: '?' :: ' ' :: (Keyword.and.text.toList ++ ' ' :: '?' :: rest) := by
      simp [Test.text, Keyword.text]
    rw [htext, dialect.symbols_keyword _ (endsWord_blank _), symbols_blank,
      symbols_placeholder, symbols_blank, dialect.symbols_keyword _ (endsWord_blank _)]
    rfl
  | oneOf operands =>
    obtain ⟨more, hmore, hlist⟩ :=
      dialect.piecesInList?_placeholders column .oneOf hfilled rest
    have htext : (Test.oneOf operands).text.toList ++ rest = Keyword.isIn.text.toList ++
        ' ' :: ('(' :: (placeholders operands.length).toList ++ ')' :: rest) := by
      simp [Test.text, Keyword.text]
    rw [htext, dialect.symbols_keyword _ (endsWord_blank _), symbols_blank, hmore, pieces?,
      hlist]
    rfl
  | noneOf operands =>
    obtain ⟨more, hmore, hlist⟩ :=
      dialect.piecesInList?_placeholders column .noneOf hfilled rest
    have htext : (Test.noneOf operands).text.toList ++ rest = Keyword.not.text.toList ++
        ' ' :: (Keyword.isIn.text.toList ++
          ' ' :: ('(' :: (placeholders operands.length).toList ++ ')' :: rest)) := by
      simp [Test.text, Keyword.text]
    rw [htext, dialect.symbols_keyword _ (endsWord_blank _), symbols_blank,
      dialect.symbols_keyword _ (endsWord_blank _), symbols_blank, hmore, pieces?, hlist]
    rfl

end Dialect

namespace Predicate

def textOnward (logic : Logic) : List Predicate → List Char
  | [] => []
  | part :: parts =>
    ' ' :: (logic.keyword.toList ++ ' ' :: part.text.toList) ++ textOnward logic parts

theorem toList_intercalate_texts (logic : Logic) (part : Predicate) (parts : List Predicate) :
    ((" " ++ logic.keyword ++ " ").intercalate (texts (part :: parts))).toList =
      part.text.toList ++ textOnward logic parts := by
  induction parts generalizing part with
  | nil => simp [texts, textOnward]
  | cons next parts ih =>
    have hnext := ih next
    rw [texts] at hnext
    rw [texts, texts, String.intercalate_cons_cons, String.toList_append, hnext]
    simp [textOnward]

theorem endsWord_textOnward (logic : Logic) (parts : List Predicate) {rest : List Char}
    (hrest : EndsWord rest) : EndsWord (textOnward logic parts ++ rest) := by
  cases parts with
  | nil => exact hrest
  | cons part parts => exact endsWord_blank _

variable (dialect : Dialect)

mutual
/-- The text of a predicate has the pieces of the predicate, whatever follows it. -/
theorem scan?_text : (predicate : Predicate) → predicate.IsReadable dialect →
    ∀ {rest : List Char}, EndsWord rest →
      dialect.scan? (predicate.text.toList ++ rest) =
        (dialect.scan? rest).map (predicate.pieces ++ ·)
  | .never, _, rest, hrest => by
    have hword : IsWord "0" := .of_all (by decide) (by decide)
    have hzero : tokens ("0".toList ++ rest) = .word "0" :: tokens rest := tokens_word hword hrest
    have htokens : tokens (never.text.toList ++ rest) =
        .word "1" :: .sign "=" :: .word "0" :: tokens rest := by
      change consWord '1' false (consSign '=' false (tokens ("0".toList ++ rest))) = _
      rw [hzero]
      rfl
    rw [Dialect.scan?, Dialect.symbols, htokens]
    rfl
  | .test column condition, h, rest, hrest => dialect.scan?_test h.1 condition h.2 hrest
  | .junction logic [], h, rest, _ => absurd rfl h.1
  | .junction logic (part :: parts), h, rest, _ => by
    obtain ⟨-, hpart, hparts⟩ := h
    have htext : (junction logic (part :: parts)).text.toList ++ rest =
        '(' :: (part.text.toList ++ (textOnward logic parts ++ ')' :: rest)) := by
      rw [text, String.toList_append, String.toList_append, toList_intercalate_texts]
      simp
    have hinner := scan?_text part hpart
      (endsWord_textOnward logic parts (endsWord_closing rest))
    have hopening (inner : List Char) :
        dialect.scan? ('(' :: inner) = (dialect.scan? inner).map (.opening :: ·) := rfl
    have hclosing : dialect.scan? (')' :: rest) = (dialect.scan? rest).map (.closing :: ·) := rfl
    rw [htext, hopening, hinner, scan?_textOnward logic parts hparts (endsWord_closing rest),
      hclosing]
    cases dialect.scan? rest with
    | none => rfl
    | some others => simp [pieces, joinedPieces]

theorem scan?_textOnward (logic : Logic) : (parts : List Predicate) → AllReadable dialect parts →
    ∀ {rest : List Char}, EndsWord rest →
      dialect.scan? (textOnward logic parts ++ rest) =
        (dialect.scan? rest).map (piecesOnward logic parts ++ ·)
  | [], _, rest, _ => by
    simp [textOnward, piecesOnward]
  | part :: parts, h, rest, hrest => by
    obtain ⟨hpart, hparts⟩ := h
    have hinner := scan?_text part hpart (endsWord_textOnward logic parts hrest)
    have hconnective (inner : List Char) :
        dialect.scan? (' ' :: (logic.keyword.toList ++ ' ' :: inner)) =
          (dialect.scan? inner).map (.connective logic :: ·) := by
      rw [Dialect.scan?, Dialect.symbols_blank]
      cases logic with
      | and =>
        rw [show Logic.and.keyword = Keyword.and.text from rfl,
          dialect.symbols_keyword _ (endsWord_blank _), Dialect.symbols_blank]
        rfl
      | or =>
        rw [show Logic.or.keyword = Keyword.or.text from rfl,
          dialect.symbols_keyword _ (endsWord_blank _), Dialect.symbols_blank]
        rfl
    have htext : textOnward logic (part :: parts) ++ rest =
        ' ' :: (logic.keyword.toList ++
          ' ' :: (part.text.toList ++ (textOnward logic parts ++ rest))) := by
      simp [textOnward]
    rw [htext, hconnective, hinner, scan?_textOnward logic parts hparts hrest]
    cases dialect.scan? rest with
    | none => rfl
    | some others => simp [piecesOnward]
end

/--
The text of predicates that must all hold is read as their conjunction, and binding the operands
to it uses all of them up.
-/
theorem clause?_conjunctionText {parts : List Predicate} (hne : parts ≠ [])
    (hparts : AllReadable dialect parts) :
    dialect.clause? (conjunctionText parts) = some (joinedClause .and parts).shape ∧
      (joinedClause .and parts).shape.bind? (allOperands parts) =
        some (joinedClause .and parts, []) := by
  obtain ⟨part, parts, rfl⟩ := List.exists_cons_of_ne_nil hne
  obtain ⟨hpart, hrest⟩ := hparts
  constructor
  · have htext : (conjunctionText (part :: parts)).toList =
        part.text.toList ++ (textOnward .and parts ++ []) := by
      rw [List.append_nil, ← toList_intercalate_texts]
      rfl
    have hscan : dialect.scan? (conjunctionText (part :: parts)).toList =
        some (part.pieces ++ (piecesOnward .and parts ++ [])) := by
      rw [htext, scan?_text dialect part hpart (endsWord_textOnward .and parts endsWord_nil),
        scan?_textOnward dialect .and parts hrest endsWord_nil]
      rfl
    obtain ⟨alternatives, members, hread, hclause⟩ :=
      readConnective_piecesOnward dialect .and parts hrest [] none part.clause.shape part.clause
        rfl fun _ ↦ rfl
    change (dialect.scan? _).bind (readOperand [] ⟨none, none⟩) = _
    rw [hscan, Option.bind_some, readOperand_pieces dialect part hpart]
    change readConnective [] none part.clause.shape _ = _
    rw [hread, readConnective, hclause]
    rfl
  · have hbind := Clause.bind?_shape (joinedClause .and (part :: parts)) []
    rwa [List.append_nil, operands_joinedClause] at hbind

end Predicate

end ProtoCrud.Sql
