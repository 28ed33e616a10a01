import Mathlib.Data.List.Basic
import ProtoCrud.Code.Token

/-!
# Scanning generated code

A scanner takes tokens from the front of generated code and says what it has read there. It knows
the words and signs of the code and nothing of the templates that put them together, so that what
it reads back from a template is what the template says. `Takes` states that a scanner takes just
the given tokens, whatever follows; scanners of longer code are put together from shorter ones.
-/

namespace ProtoCrud.Code

abbrev Scanner (α : Type) := StateT (List Token) Option α

namespace Scanner

variable {α β γ : Type}

def tokens : (expected : List Token) → Scanner Unit
  | [], given => some ((), given)
  | token :: expected, given =>
    match given with
    | first :: rest => if first = token then tokens expected rest else none
    | [] => none

/-- Takes the words and signs of a text. -/
def plain (text : String) : Scanner Unit :=
  tokens (code text)

def name : Scanner String
  | .name text :: rest => some (text, rest)
  | _ => none

def quoted : Scanner String
  | .quoted value :: rest => some (value, rest)
  | _ => none

/-- Takes the first of several texts that follows, and goes on as it says there. -/
@[simp]
def pick : List (String × Scanner α) → Scanner α
  | [], _ => none
  | (text, next) :: others, given =>
    match plain text given with
    | some ((), rest) => next rest
    | none => pick others given

/-- Takes items for as long as there are any, at most `rounds` of them. -/
def manyWithin (item : Scanner α) : (rounds : Nat) → Scanner (List α)
  | 0, given => some ([], given)
  | rounds + 1, given =>
    match item given with
    | some (value, rest) =>
      (manyWithin item rounds rest).map fun (values, behind) ↦ (value :: values, behind)
    | none => some ([], given)

/-- Takes items for as long as there are any; every item has at least one token. -/
def many (item : Scanner α) : Scanner (List α) :=
  fun given ↦ manyWithin item given.length given

def withComma (item : Scanner α) : Scanner α := do
  let value ← item
  plain ","
  return value

def whole? (scanner : Scanner α) (given : List Token) : Option α :=
  match scanner given with
  | some (value, []) => some value
  | _ => none

/-- A scanner takes just the given tokens from the front of whatever follows. -/
def Takes (scanner : Scanner α) (given : List Token) (value : α) : Prop :=
  ∀ behind, scanner (given ++ behind) = some (value, behind)

theorem bind_apply (scanner : Scanner α) (next : α → Scanner β) (given : List Token) :
    (scanner >>= next) given = (scanner given).bind fun found ↦ next found.1 found.2 :=
  rfl

theorem takes_tokens (expected : List Token) : (tokens expected).Takes expected () := by
  intro behind
  induction expected with
  | nil => rfl
  | cons token expected ih => rw [List.cons_append, tokens, if_pos rfl, ih]

theorem takes_plain (text : String) : (plain text).Takes (code text) () :=
  takes_tokens _

theorem takes_name (text : String) : name.Takes (Code.name text) text :=
  fun _ ↦ rfl

theorem takes_quoted (value : String) : quoted.Takes (Code.quoted value) value :=
  fun _ ↦ rfl

theorem Takes.bind {scanner : Scanner α} {given rest : List Token} {value : α}
    (h : scanner.Takes given value) {next : α → Scanner β} {result : β}
    (hnext : (next value).Takes rest result) : (scanner >>= next).Takes (given ++ rest) result := by
  intro behind
  rw [bind_apply, List.append_assoc, h]
  exact hnext behind

theorem Takes.whole?_eq {scanner : Scanner α} {given : List Token} {value : α}
    (h : scanner.Takes given value) : scanner.whole? given = some value := by
  have hgiven := h []
  rw [List.append_nil] at hgiven
  rw [whole?, hgiven]

theorem Takes.return {scanner : Scanner α} {given : List Token} {value : α}
    (h : scanner.Takes given value) (f : α → β) :
    (scanner >>= fun found ↦ pure (f found)).Takes given (f value) := by
  intro behind
  rw [bind_apply, h]
  rfl

/-- Whether some token of the code that is given is not the one that is expected there. -/
@[simp]
def mismatch : (expected given : List Token) → Bool
  | token :: expected, first :: given => first != token || mismatch expected given
  | _, _ => false

theorem mismatch_append {expected leading : List Token} (h : mismatch expected leading = true)
    (given : List Token) : mismatch expected (leading ++ given) = true := by
  induction expected generalizing leading with
  | nil => cases h
  | cons token expected ih =>
    cases leading with
    | nil => cases h
    | cons first leading =>
      rw [mismatch, Bool.or_eq_true] at h
      rw [List.cons_append, mismatch, Bool.or_eq_true]
      exact h.imp_right ih

theorem tokens_eq_none {expected given : List Token} (h : mismatch expected given = true) :
    tokens expected given = none := by
  induction expected generalizing given with
  | nil => cases h
  | cons token expected ih =>
    cases given with
    | nil => cases h
    | cons first given =>
      rw [tokens]
      split
      · next heq =>
        rw [mismatch, heq, bne_self_eq_false, Bool.false_or] at h
        exact ih h
      · rfl

/-- A name stands where a word is expected. -/
theorem mismatch_name (same : List Token) (word : String) (expected : List Token) (text : String) :
    mismatch (same ++ .plain word :: expected) (same ++ Code.name text) = true := by
  induction same with
  | nil => rfl
  | cons token same ih => simp [mismatch, ih]

theorem pick_cons_self {text : String} {next : Scanner α} {others : List (String × Scanner α)}
    (given : List Token) : pick ((text, next) :: others) (code text ++ given) = next given := by
  rw [pick, takes_plain]

/-- What does not begin as one text is left to the texts behind it. -/
theorem pick_cons_of_mismatch {text : String} {next : Scanner α}
    {others : List (String × Scanner α)} {given : List Token}
    (h : mismatch (code text) given = true) :
    pick ((text, next) :: others) given = pick others given := by
  rw [pick, plain, tokens_eq_none h]

theorem Takes.pick_here {text : String} {next : Scanner α} {others : List (String × Scanner α)}
    {given : List Token} {value : α} (h : next.Takes given value) :
    (pick ((text, next) :: others)).Takes (code text ++ given) value := by
  intro behind
  rw [List.append_assoc, pick_cons_self]
  exact h behind

theorem Takes.pick_pure {text : String} {others : List (String × Scanner α)} {value : α} :
    (pick ((text, pure value) :: others)).Takes (code text) value := by
  intro behind
  rw [pick, takes_plain]
  rfl

theorem Takes.pick_there {text : String} {next : Scanner α} {others : List (String × Scanner α)}
    {given : List Token} {value : α} (hmismatch : mismatch (code text) given = true)
    (h : (pick others).Takes given value) :
    (pick ((text, next) :: others)).Takes given value := by
  intro behind
  rw [pick_cons_of_mismatch (mismatch_append hmismatch behind)]
  exact h behind

theorem plain_bind_eq_none {text : String} {next : Unit → Scanner α} {given : List Token}
    (h : mismatch (code text) given = true) : (plain text >>= next) given = none := by
  rw [bind_apply, plain, tokens_eq_none h, Option.bind_none]

theorem Takes.withComma {scanner : Scanner α} {given : List Token} {value : α}
    (h : scanner.Takes given value) : scanner.withComma.Takes (given ++ [.plain ","]) value :=
  h.bind ((takes_plain ",").return fun _ ↦ value)

theorem withComma_eq_none {scanner : Scanner α} {given : List Token} (h : scanner given = none) :
    scanner.withComma given = none := by
  rw [Scanner.withComma, bind_apply, h]
  rfl

theorem manyWithin_flatMap {item : Scanner α} {write : β → List Token} {read : β → α}
    {behind : List Token} (hstop : item behind = none) {items : List β}
    (hitem : ∀ b ∈ items, item.Takes (write b) (read b)) {rounds : Nat}
    (hrounds : items.length ≤ rounds) :
    manyWithin item rounds (items.flatMap write ++ behind) = some (items.map read, behind) := by
  induction items generalizing rounds with
  | nil =>
    cases rounds with
    | zero => rfl
    | succ rounds =>
      rw [List.flatMap_nil, List.nil_append, manyWithin, hstop]
      rfl
  | cons first rest ih =>
    cases rounds with
    | zero => cases hrounds
    | succ rounds =>
      obtain ⟨hfirst, hrest⟩ := List.forall_mem_cons.mp hitem
      rw [manyWithin, List.flatMap_cons, List.append_assoc, hfirst]
      dsimp only
      rw [ih hrest (Nat.le_of_succ_le_succ hrounds)]
      rfl

theorem length_le_length_flatMap {write : β → List Token} {items : List β}
    (h : ∀ b ∈ items, write b ≠ []) : items.length ≤ (items.flatMap write).length := by
  induction items with
  | nil => exact Nat.zero_le _
  | cons first rest ih =>
    obtain ⟨hfirst, hrest⟩ := List.forall_mem_cons.mp h
    rw [List.flatMap_cons, List.length_append, List.length_cons]
    have := List.length_pos_of_ne_nil hfirst
    have := ih hrest
    omega

/-- Items are taken up to code that no item begins with. -/
theorem Takes.many_bind {item : Scanner α} {write : β → List Token} {read : β → α} {items : List β}
    (hitem : ∀ b ∈ items, item.Takes (write b) (read b)) (hwrite : ∀ b ∈ items, write b ≠ [])
    {rest : List Token} (hstop : ∀ behind, item (rest ++ behind) = none)
    {next : List α → Scanner γ} {result : γ} (hnext : (next (items.map read)).Takes rest result) :
    (many item >>= next).Takes (items.flatMap write ++ rest) result := by
  intro behind
  rw [bind_apply, many, List.append_assoc]
  have hrounds : items.length ≤ (items.flatMap write ++ (rest ++ behind)).length := by
    rw [List.length_append]
    exact Nat.le_add_right_of_le (length_le_length_flatMap hwrite)
  rw [manyWithin_flatMap (hstop behind) hitem hrounds]
  exact hnext behind

/-- Items with a comma behind each are taken up to code that no item begins with. -/
theorem Takes.listed_bind {item : Scanner α} {write : β → List Token} {read : β → α}
    {items : List β} (hitem : ∀ b ∈ items, item.Takes (write b) (read b)) {rest : List Token}
    (hstop : ∀ behind, item (rest ++ behind) = none) {next : List α → Scanner γ} {result : γ}
    (hnext : (next (items.map read)).Takes rest result) :
    (many item.withComma >>= next).Takes (listed (items.map write) ++ rest) result := by
  rw [listed, List.flatMap_map]
  refine Takes.many_bind (fun b hb ↦ (hitem b hb).withComma) (fun _ _ ↦ by simp)
    (fun behind ↦ withComma_eq_none (hstop behind)) hnext

/-- Items that are read as what they were written from. -/
theorem Takes.many_bind_self {item : Scanner α} {write : α → List Token} {items : List α}
    (hitem : ∀ a ∈ items, item.Takes (write a) a) (hwrite : ∀ a ∈ items, write a ≠ [])
    {rest : List Token} (hstop : ∀ behind, item (rest ++ behind) = none)
    {next : List α → Scanner γ} {result : γ} (hnext : (next items).Takes rest result) :
    (many item >>= next).Takes (items.flatMap write ++ rest) result := by
  have hread : ∀ a ∈ items, item.Takes (write a) (id a) := hitem
  exact Takes.many_bind hread hwrite hstop (by rwa [List.map_id])

theorem Takes.listed_bind_self {item : Scanner α} {write : α → List Token} {items : List α}
    (hitem : ∀ a ∈ items, item.Takes (write a) a) {rest : List Token}
    (hstop : ∀ behind, item (rest ++ behind) = none) {next : List α → Scanner γ} {result : γ}
    (hnext : (next items).Takes rest result) :
    (many item.withComma >>= next).Takes (listed (items.map write) ++ rest) result := by
  have hread : ∀ a ∈ items, item.Takes (write a) (id a) := hitem
  exact Takes.listed_bind hread hstop (by rwa [List.map_id])

def digits : Scanner Nat
  | .plain text :: rest =>
    if text.toList ≠ [] ∧ text.toList.all Char.isDigit then
      some (Nat.ofDigitChars 10 text.toList 0, rest)
    else none
  | _ => none

/-- Takes a whole number, which may have a minus in front of it. -/
def number : Scanner Int
  | .plain "-" :: rest => (digits rest).map fun (n, behind) ↦ (-(n : Int), behind)
  | given => (digits given).map fun (n, behind) ↦ ((n : Int), behind)

end Scanner

theorem lexical_word {word : List Char} (hne : word ≠ []) (h : ∀ c ∈ word, isWordChar c = true) :
    lexical word = [word] := by
  induction word with
  | nil => exact absurd rfl hne
  | cons c rest ih =>
    obtain ⟨hc, hrest⟩ := List.forall_mem_cons.mp h
    have hblank : c ≠ ' ' := by
      rintro rfl
      exact absurd hc (by decide)
    cases rest with
    | nil => simp [lexical, hblank]
    | cons next rest =>
      have hnext := hrest next List.mem_cons_self
      rw [lexical.eq_def]
      simp [hblank, hc, hnext, ih (List.cons_ne_nil _ _) hrest]

theorem isWordChar_of_isDigit {c : Char} (h : c.isDigit = true) : isWordChar c = true := by
  have hascii : Text.isAscii c = true := by
    simp only [Char.isDigit, Bool.and_eq_true, decide_eq_true_eq] at h
    have : c.toNat ≤ 57 := UInt32.le_iff_toNat_le.mp h.2
    simp only [Text.isAscii, decide_eq_true_eq]
    omega
  simp [isWordChar, Text.isAlphanumeric, hascii, Char.isAlphanum, h]

theorem toList_toString (n : Nat) : (toString n).toList = Nat.toDigits 10 n := by
  rw [Nat.toString_eq_repr, Nat.repr_eq_ofList_toDigits, String.toList_ofList]

theorem isDigit_of_mem_toString {n : Nat} {c : Char} (h : c ∈ (toString n).toList) :
    c.isDigit = true :=
  Nat.isDigit_of_mem_toDigits (by decide) (by decide) (toList_toString n ▸ h)

theorem toString_ne_nil (n : Nat) : (toString n).toList ≠ [] := by
  rw [toList_toString]
  exact List.ne_nil_of_length_pos Nat.length_toDigits_pos

theorem lexical_toString (n : Nat) : lexical (toString n).toList = [(toString n).toList] :=
  lexical_word (toString_ne_nil n) fun _ hc ↦ isWordChar_of_isDigit (isDigit_of_mem_toString hc)

theorem code_toString_nat (n : Nat) : code (toString n) = [.plain (toString n)] := by
  rw [code, lexical_toString, List.map_singleton, String.ofList_toList]

theorem code_toString_negSucc (n : Nat) :
    code (toString (Int.negSucc n)) = [.plain "-", .plain (toString (n + 1))] := by
  have htext : (toString (Int.negSucc n)).toList = '-' :: (toString (n + 1)).toList := by
    change ("-" ++ toString (n + 1)).toList = _
    rw [String.toList_append]
    rfl
  rw [code, htext, lexical.eq_def]
  have hlexical := lexical_toString (n + 1)
  have hdigits := fun c ↦ @isDigit_of_mem_toString (n + 1) c
  generalize hword : (toString (n + 1)).toList = word at *
  cases word with
  | nil => exact absurd hword (toString_ne_nil _)
  | cons d rest =>
    have hsign : d ≠ '>' := by
      rintro rfl
      exact absurd (hdigits '>' List.mem_cons_self) (by decide)
    have hlong : ['-', d] ∉ longSigns := by
      simp [longSigns, hsign]
    have hplain : String.ofList (d :: rest) = toString (n + 1) := by
      rw [← hword, String.ofList_toList]
    simp [hlexical, hlong, hplain, show isWordChar '-' = false from rfl]

namespace Scanner

theorem digits_toString (n : Nat) (behind : List Token) :
    digits (.plain (toString n) :: behind) = some (n, behind) := by
  have hall : (toString n).toList.all Char.isDigit = true :=
    List.all_eq_true.mpr fun _ hc ↦ isDigit_of_mem_toString hc
  rw [digits, if_pos ⟨toString_ne_nil n, hall⟩, toList_toString, Nat.ofDigitChars_ten_toDigits]

theorem takes_number (i : Int) : number.Takes (code (toString i)) i := by
  intro behind
  cases i with
  | ofNat n =>
    have hminus : toString n ≠ "-" := by
      intro h
      exact absurd (isDigit_of_mem_toString (n := n) (c := '-') (by rw [h]; decide)) (by decide)
    change number (code (toString n) ++ behind) = _
    rw [code_toString_nat, List.singleton_append, number, digits_toString]
    · rfl
    · intro rest h
      exact hminus (Token.plain.inj (List.cons.inj h).1)
  | negSucc n =>
    rw [code_toString_negSucc, List.cons_append, List.singleton_append, number, digits_toString]
    rfl

end Scanner
end ProtoCrud.Code
