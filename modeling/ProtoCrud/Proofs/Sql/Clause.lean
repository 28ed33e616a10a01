import Mathlib.Order.BoundedOrder.Lattice
import Mathlib.Order.Lattice
import ProtoCrud.Proofs.Sql.Token
import ProtoCrud.Query.Criterion

/-!
# Reading a condition clause

The text of a condition is read the way a database reads it. `AND` binds tighter than `OR`,
parentheses group, and the `AND` of `BETWEEN ? AND ?` belongs to its predicate. The reading does
not know how the text was made: it goes from characters to tokens, from tokens to pieces, and from
pieces to a tree, with one stack for the parentheses that are open.

What is read has placeholders. Binding supplies them from the left with arguments, and a bound
clause has a truth value for every assignment of truth values to its leaves. Truth values may come
from any bounded lattice, in particular from the two of `Bool` and the three of `Truth`.
-/

namespace ProtoCrud.Sql

open Query (Logic Operator)

structure Leaf (ω : Type) where
  field : String
  operator : Operator
  operands : ω
  deriving DecidableEq

/-- A condition as it is understood, with operands of type `ω` in its leaves. -/
inductive Clause (ω : Type) where
  | constant (value : Bool)
  | leaf (leaf : Leaf ω)
  | join (logic : Logic) (left right : Clause ω)
  deriving DecidableEq

/-- The combination of two truth values by a connective. -/
def combine {T : Type} [Lattice T] : Logic → T → T → T
  | .and => (· ⊓ ·)
  | .or => (· ⊔ ·)

/-- The truth value of a connective without members. -/
def neutral {T : Type} [Lattice T] [BoundedOrder T] : Logic → T
  | .and => ⊤
  | .or => ⊥

/-- The combination of any number of truth values by a connective. -/
def combineAll {T : Type} [Lattice T] [BoundedOrder T] (logic : Logic) (values : List T) : T :=
  values.foldr (combine logic) (neutral logic)

section Combination

variable {T : Type} [Lattice T]

theorem combine_assoc (logic : Logic) (a b c : T) :
    combine logic (combine logic a b) c = combine logic a (combine logic b c) := by
  cases logic with
  | and => exact inf_assoc a b c
  | or => exact sup_assoc a b c

theorem combine_neutral [BoundedOrder T] (logic : Logic) (a : T) :
    combine logic a (neutral logic) = a := by
  cases logic with
  | and => exact inf_top_eq a
  | or => exact sup_bot_eq a

end Combination

namespace Clause

variable {ω : Type}

def after (logic : Logic) : Option (Clause ω) → Clause ω → Clause ω
  | none, clause => clause
  | some first, clause => .join logic first clause

def value {T : Type} [Lattice T] [BoundedOrder T] (truth : Leaf (List String) → T) :
    Clause (List String) → T
  | .constant value => if value then ⊤ else ⊥
  | .leaf atom => truth atom
  | .join logic left right => combine logic (left.value truth) (right.value truth)

/-- Supplies the placeholders of a clause with arguments, and returns the arguments left over. -/
def bind? : Clause Nat → List String → Option (Clause (List String) × List String)
  | .constant value, args => some (.constant value, args)
  | .leaf atom, args =>
    if atom.operands ≤ args.length then
      some (.leaf { atom with operands := args.take atom.operands }, args.drop atom.operands)
    else none
  | .join logic left right, args => do
    let (left, args) ← left.bind? args
    let (right, args) ← right.bind? args
    some (.join logic left right, args)

/-- A bound clause with the number of operands in place of the operands. -/
def shape : Clause (List String) → Clause Nat
  | .constant value => .constant value
  | .leaf atom => .leaf { atom with operands := atom.operands.length }
  | .join logic left right => .join logic left.shape right.shape

def operands : Clause (List String) → List String
  | .constant _ => []
  | .leaf atom => atom.operands
  | .join _ left right => left.operands ++ right.operands

/-- Binding gives every leaf its own operands back and leaves what follows them. -/
theorem bind?_shape (clause : Clause (List String)) (rest : List String) :
    clause.shape.bind? (clause.operands ++ rest) = some (clause, rest) := by
  induction clause generalizing rest with
  | constant value => rfl
  | leaf atom => simp [shape, operands, bind?]
  | join logic left right hleft hright =>
    have hfirst := hleft (right.operands ++ rest)
    simp only [shape, operands, bind?, List.append_assoc, hfirst, hright rest,
      Option.bind_eq_bind, Option.bind_some]

end Clause

/-- The words of a condition that are no names. -/
inductive Keyword where
  | and
  | or
  | like
  | isIn
  | not
  | is
  | null
  | between
  deriving DecidableEq

def Keyword.text : Keyword → String
  | .and => "AND"
  | .or => "OR"
  | .like => "LIKE"
  | .isIn => "IN"
  | .not => "NOT"
  | .is => "IS"
  | .null => "NULL"
  | .between => "BETWEEN"

/--
Which words a database takes for keywords. It knows at least the usual spellings; whether it knows
others, such as those in lower case, is left open.
-/
structure Dialect where
  keyword? : String → Option Keyword
  keyword?_text : ∀ keyword, keyword? keyword.text = some keyword

/-- Whether a word is a number: it begins with a digit. -/
def isNumber (word : String) : Bool :=
  word.toList.head?.any Char.isDigit

structure Dialect.IsIdentifier (dialect : Dialect) (name : String) : Prop extends IsWord name where
  not_number : isNumber name = false
  not_keyword : dialect.keyword? name = none

/-- The dialect in which the case of letters does not matter. -/
def Dialect.caseless : Dialect where
  keyword? word :=
    [Keyword.and, .or, .like, .isIn, .not, .is, .null, .between].find? fun keyword ↦
      keyword.text.toList = word.toList.map Char.toUpper
  keyword?_text keyword := by cases keyword <;> decide

/-- A token of a condition, once keywords, numbers and names are told apart. -/
inductive Symbol where
  | keyword (word : Keyword)
  | number (digits : String)
  | field (name : String)
  | comparison (operator : Operator)
  | opening
  | closing
  | comma
  | placeholder
  | stray
  deriving DecidableEq

def comparison? (sign : String) : Option Operator :=
  if sign = "=" then some .equal
  else if sign = "!=" then some .notEqual
  else if sign = ">" then some .greaterThan
  else if sign = ">=" then some .greaterThanEqual
  else if sign = "<" then some .lessThan
  else if sign = "<=" then some .lessThanEqual
  else none

def Dialect.symbol (dialect : Dialect) : Token → Symbol
  | .word text =>
    if isNumber text then .number text
    else (dialect.keyword? text).elim (.field text) .keyword
  | .sign text => (comparison? text).elim .stray .comparison
  | .opening => .opening
  | .closing => .closing
  | .comma => .comma
  | .placeholder => .placeholder
  | .stray _ => .stray

/-- What a condition is put together from. -/
inductive Piece where
  /-- A predicate without connectives. -/
  | single (clause : Clause Nat)
  | connective (logic : Logic)
  | opening
  | closing
  deriving DecidableEq

mutual
def pieces? : List Symbol → Option (List Piece)
  | [] => some []
  | .opening :: rest => (pieces? rest).map (.opening :: ·)
  | .closing :: rest => (pieces? rest).map (.closing :: ·)
  | .keyword .and :: rest => (pieces? rest).map (.connective .and :: ·)
  | .keyword .or :: rest => (pieces? rest).map (.connective .or :: ·)
  | .number first :: .comparison .equal :: .number second :: rest =>
    (pieces? rest).map (.single (.constant (first = second)) :: ·)
  | .field name :: .comparison operator :: .placeholder :: rest =>
    (pieces? rest).map (.single (.leaf ⟨name, operator, 1⟩) :: ·)
  | .field name :: .keyword .like :: .placeholder :: rest =>
    (pieces? rest).map (.single (.leaf ⟨name, .like, 1⟩) :: ·)
  | .field name :: .keyword .is :: .keyword .null :: rest =>
    (pieces? rest).map (.single (.leaf ⟨name, .isNull, 0⟩) :: ·)
  | .field name :: .keyword .is :: .keyword .not :: .keyword .null :: rest =>
    (pieces? rest).map (.single (.leaf ⟨name, .isNotNull, 0⟩) :: ·)
  | .field name :: .keyword .between :: .placeholder :: .keyword .and :: .placeholder :: rest =>
    (pieces? rest).map (.single (.leaf ⟨name, .between, 2⟩) :: ·)
  | .field name :: .keyword .isIn :: .opening :: .placeholder :: rest =>
    piecesInList? name .oneOf 1 rest
  | .field name :: .keyword .not :: .keyword .isIn :: .opening :: .placeholder :: rest =>
    piecesInList? name .noneOf 1 rest
  | _ => none

/-- The pieces of a condition behind `count` placeholders of a list that is still open. -/
def piecesInList? (name : String) (operator : Operator) (count : Nat) :
    List Symbol → Option (List Piece)
  | .comma :: .placeholder :: rest => piecesInList? name operator (count + 1) rest
  | .closing :: rest => (pieces? rest).map (.single (.leaf ⟨name, operator, count⟩) :: ·)
  | _ => none
end

/-- What has been read between an opening parenthesis and the place where an operand must follow. -/
structure Level where
  /-- The alternatives that are complete, joined by `OR`. -/
  alternatives : Option (Clause Nat)
  /-- The members of the alternative under way, joined by `AND`. -/
  members : Option (Clause Nat)

mutual
/-- Reads on where an operand must follow; `outer` holds the levels outside, the nearest first. -/
def readOperand (outer : List Level) (level : Level) : List Piece → Option (Clause Nat)
  | .single clause :: rest =>
    readConnective outer level.alternatives (Clause.after .and level.members clause) rest
  | .opening :: rest => readOperand (level :: outer) ⟨none, none⟩ rest
  | _ => none

/-- Reads on behind an operand, where `members` is the alternative under way so far. -/
def readConnective (outer : List Level) (alternatives : Option (Clause Nat))
    (members : Clause Nat) : List Piece → Option (Clause Nat)
  | [] =>
    match outer with
    | [] => some (Clause.after .or alternatives members)
    | _ :: _ => none
  | .connective .and :: rest => readOperand outer ⟨alternatives, some members⟩ rest
  | .connective .or :: rest =>
    readOperand outer ⟨some (Clause.after .or alternatives members), none⟩ rest
  | .closing :: rest =>
    match outer with
    | [] => none
    | level :: levels =>
      readConnective levels level.alternatives
        (Clause.after .and level.members (Clause.after .or alternatives members)) rest
  | _ => none
end

def Dialect.clause? (dialect : Dialect) (text : String) : Option (Clause Nat) :=
  (pieces? ((tokens text.toList).map dialect.symbol)).bind (readOperand [] ⟨none, none⟩)

example : Dialect.caseless.clause? "a = ? or b BETWEEN ? AND ? AND (c IN (?, ?) OR 1=0)" =
    some (.join .or (.leaf ⟨"a", .equal, 1⟩)
      (.join .and (.leaf ⟨"b", .between, 2⟩)
        (.join .or (.leaf ⟨"c", .oneOf, 2⟩) (.constant false)))) := by
  rfl

/-- The truth values of conditions on columns that may be absent. -/
inductive Truth where
  | false
  | unknown
  | true
  deriving DecidableEq

namespace Truth

def rank : Truth → Nat
  | .false => 0
  | .unknown => 1
  | .true => 2

theorem rank_injective : Function.Injective rank := by
  intro first second h
  cases first <;> cases second <;> first | rfl | exact absurd h (by decide)

instance : LinearOrder Truth := LinearOrder.lift' rank rank_injective

instance : BoundedOrder Truth where
  top := .true
  le_top a := show a.rank ≤ 2 by cases a <;> decide
  bot := .false
  bot_le a := Nat.zero_le a.rank

/-- A conjunction is false as soon as one side is, and true only if both sides are. -/
theorem combine_and (a b : Truth) :
    (combine .and a b = .false ↔ a = .false ∨ b = .false) ∧
      (combine .and a b = .true ↔ a = .true ∧ b = .true) := by
  cases a <;> cases b <;> decide

/-- A disjunction is true as soon as one side is, and false only if both sides are. -/
theorem combine_or (a b : Truth) :
    (combine .or a b = .true ↔ a = .true ∨ b = .true) ∧
      (combine .or a b = .false ↔ a = .false ∧ b = .false) := by
  cases a <;> cases b <;> decide

end Truth

end ProtoCrud.Sql
