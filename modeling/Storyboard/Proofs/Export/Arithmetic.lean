/-
This file reads the arithmetic in the text of a script, where remainders bind more than sums and differences and equal
ones bind from the left, and states that the text of an expression is read as this expression.
-/

import Storyboard.Export.Expression
import Storyboard.Proofs.Export.Statement

namespace Storyboard.Navigation

/-- A token of arithmetic text. -/
inductive Token where
  | word (characters : List Char)
  | opening
  | closing
  | plus
  | minus
  | percent
  deriving DecidableEq, Repr

namespace Token

/-- A character of a name, which may lead to a part of another name, or of a number. -/
def isWordCharacter (character : Char) : Bool := Script.isIdentifierCharacter character || character = '.'

/-- The token of a character outside of words. -/
def ofCharacter? : Char → Option Token
  | '(' => some .opening
  | ')' => some .closing
  | '+' => some .plus
  | '-' => some .minus
  | '%' => some .percent
  | _ => none

/-- The token of a word, if there is any. -/
def ofWord (word : List Char) : List Token := if word.isEmpty then [] else [.word word]

/-- The tokens of a text, where `word` holds the word that is begun. Blanks stand between tokens. -/
def ofText? (word : List Char) : List Char → Option (List Token)
  | [] => some (ofWord word)
  | character :: rest =>
      if isWordCharacter character then ofText? (word ++ [character]) rest
      else if character = ' ' then (ofWord word ++ ·) <$> ofText? [] rest
      else do
        let token ← ofCharacter? character
        let tokens ← ofText? [] rest
        return ofWord word ++ token :: tokens

/-- A word goes on up to its last character. -/
theorem ofText?_append {later : List Char} (known : ∀ character ∈ later, isWordCharacter character)
    (word rest : List Char) : ofText? word (later ++ rest) = ofText? (word ++ later) rest := by
  induction later generalizing word with
  | nil => rw [List.nil_append, List.append_nil]
  | cons character later ih =>
      rw [List.forall_mem_cons] at known
      rw [List.cons_append, ofText?, if_pos known.1, ih known.2, List.append_assoc, List.singleton_append]

/-- A word ends before a character of another kind. -/
theorem ofText?_ends (word : List Char) {rest : List Char}
    (ends : ∀ character ∈ rest.head?, isWordCharacter character = false) :
    ofText? word rest = (ofWord word ++ ·) <$> ofText? [] rest := by
  cases rest with
  | nil => simp [ofText?, ofWord]
  | cons character rest =>
      have other : isWordCharacter character = false := ends character rfl
      simp only [ofText?, other, Bool.false_eq_true, if_false]
      split
      · simp [ofWord]
      · cases ofCharacter? character <;> cases ofText? [] rest <;> simp [ofWord]

/-- A word in front of what is no part of it is a token. -/
theorem ofText?_word {word : List Char} (known : ∀ character ∈ word, isWordCharacter character) (filled : word ≠ [])
    {rest : List Char} (ends : ∀ character ∈ rest.head?, isWordCharacter character = false) :
    ofText? [] (word ++ rest) = (Token.word word :: ·) <$> ofText? [] rest := by
  have token : ofWord word = [.word word] := if_neg (by simpa using filled)
  rw [ofText?_append known, List.nil_append, ofText?_ends word ends, token]
  rfl

end Token

namespace Expression

variable {index count : String}

/-- A name of a value: one that starts with no digit. -/
def isName (name : String) : Bool :=
  name.toList.head?.any (!·.isDigit) && name.toList.all Token.isWordCharacter

theorem isWordCharacter_of_isName {name : String} (named : isName name) :
    ∀ character ∈ name.toList, Token.isWordCharacter character := by
  rw [isName, Bool.and_eq_true] at named
  exact List.all_eq_true.mp named.2

theorem toList_ne_nil_of_isName {name : String} (named : isName name) : name.toList ≠ [] := by
  intro nothing
  rw [isName, nothing] at named
  exact absurd named (by decide)

/-- What a word stands for: one of the two values, or a number. -/
def ofWord? (index count : String) (word : List Char) : Option Expression :=
  if word = index.toList then some .index
  else if word = count.toList then some .count
  else if word.all Char.isDigit then some (.literal (Nat.ofDigitChars 10 word 0))
  else none

/-- What stands in front of an operand: a sum with the sign behind it, and a number that is to be divided. -/
structure Front where
  sum? : Option (Expression × Token) := none
  dividend? : Option Expression := none

namespace Front

/-- The product that an operand completes. -/
def product (front : Front) (operand : Expression) : Expression :=
  front.dividend?.elim operand (.remainder · operand)

/-- The sum that a product completes. -/
def total (front : Front) (product : Expression) : Expression :=
  match front.sum? with
  | none => product
  | some (before, .minus) => .difference before product
  | some (before, _) => .sum before product

end Front

/--
Reads the tokens behind what stands in front of them, where `outer` is what stands in front of the parentheses that are
open, and `product?` the product that the last operand completed. An operand is due when there is none.
-/
def ofTokens? (index count : String) (outer : List Front) (front : Front) (product? : Option Expression) :
    List Token → Option Expression
  | [] => match outer, product? with
    | [], some product => some (front.total product)
    | _, _ => none
  | token :: rest => match token, product? with
    | .word word, none => do
        let operand ← ofWord? index count word
        ofTokens? index count outer { front with dividend? := none } (some (front.product operand)) rest
    | .opening, none => ofTokens? index count (front :: outer) {} none rest
    | .closing, some product => match outer with
      | [] => none
      | before :: outer =>
          ofTokens? index count outer { before with dividend? := none }
            (some (before.product (front.total product))) rest
    | .percent, some product => ofTokens? index count outer { front with dividend? := some product } none rest
    | .plus, some product | .minus, some product =>
        ofTokens? index count outer { sum? := some (front.total product, token) } none rest
    | _, _ => none

/-- Reads an expression over two named values. -/
def read? (index count text : String) : Option Expression := do
  ofTokens? index count [] {} none (← Token.ofText? [] text.toList)

/-- Tokens in parentheses, where they are needed. -/
def groupedTokens (needed : Bool) (tokens : List Token) : List Token :=
  if needed then .opening :: (tokens ++ [.closing]) else tokens

/-- The tokens of the written form. -/
def tokens (index count : String) : Expression → List Token
  | .index => [.word index.toList]
  | .count => [.word count.toList]
  | .literal value => [.word (Nat.toDigits 10 value)]
  | .sum left right =>
      left.tokens index count ++ .plus :: groupedTokens (1 < right.level) (right.tokens index count)
  | .difference left right =>
      left.tokens index count ++ .minus :: groupedTokens (1 < right.level) (right.tokens index count)
  | .remainder left right =>
      groupedTokens (1 < left.level) (left.tokens index count) ++
        .percent :: groupedTokens (0 < right.level) (right.tokens index count)

/-- A character outside of words is a token, and blanks around it are none. -/
theorem ofText?_symbol {symbol : Char} {token : Token} (known : Token.ofCharacter? symbol = some token)
    (other : Token.isWordCharacter symbol = false) (rest : List Char) :
    Token.ofText? [] (symbol :: rest) = (token :: ·) <$> Token.ofText? [] rest := by
  have filled : symbol ≠ ' ' := by
    rintro rfl
    simp [Token.ofCharacter?] at known
  rw [Token.ofText?, if_neg (by simp [other]), if_neg filled, known]
  cases Token.ofText? [] rest <;> rfl

theorem ofText?_blank (rest : List Char) : Token.ofText? [] (' ' :: rest) = Token.ofText? [] rest := by
  rw [Token.ofText?, if_neg (by decide), if_pos rfl]
  simp [Token.ofWord]

/-- A text has tokens in front of what is no part of its last word. -/
def IsSpelled (text : String) (tokens : List Token) : Prop :=
  ∀ rest : List Char, (∀ character ∈ rest.head?, Token.isWordCharacter character = false) →
    Token.ofText? [] (text.toList ++ rest) = (tokens ++ ·) <$> Token.ofText? [] rest

theorem isSpelled_word {word : List Char} (known : ∀ character ∈ word, Token.isWordCharacter character)
    (filled : word ≠ []) : IsSpelled (String.ofList word) [.word word] := by
  intro rest ends
  rw [String.toList_ofList, Token.ofText?_word known filled ends]
  rfl

/-- Text in parentheses has the tokens between theirs. -/
theorem IsSpelled.grouped {text : String} {tokens : List Token} (spelled : IsSpelled text tokens) (needed : Bool) :
    IsSpelled (grouped needed text) (groupedTokens needed tokens) := by
  intro rest ends
  cases needed with
  | false => exact spelled rest ends
  | true =>
      have opened : (Expression.grouped true text).toList ++ rest = '(' :: (text.toList ++ ')' :: rest) := by
        simp [Expression.grouped]
      rw [opened, ofText?_symbol rfl rfl, spelled _ (by simp; decide), ofText?_symbol rfl rfl]
      cases Token.ofText? [] rest <;> simp [groupedTokens]

/-- Two texts with a sign between them have their tokens around that of the sign. -/
theorem IsSpelled.append {left right sign : String} {leftTokens rightTokens : List Token} {token : Token}
    (onLeft : IsSpelled left leftTokens) (onRight : IsSpelled right rightTokens) (symbol : Char)
    (shown : sign.toList = [' ', symbol, ' ']) (known : Token.ofCharacter? symbol = some token)
    (other : Token.isWordCharacter symbol = false) :
    IsSpelled (left ++ sign ++ right) (leftTokens ++ token :: rightTokens) := by
  intro rest ends
  have parts : (left ++ sign ++ right).toList ++ rest =
      left.toList ++ (' ' :: symbol :: ' ' :: (right.toList ++ rest)) := by
    simp [shown]
  have blank : ∀ character ∈ (' ' :: symbol :: ' ' :: (right.toList ++ rest)).head?,
      Token.isWordCharacter character = false := by
    simp only [List.head?_cons, Option.mem_some_iff, forall_eq']
    decide
  rw [parts, onLeft _ blank, ofText?_blank, ofText?_symbol known other, ofText?_blank, onRight rest ends]
  cases Token.ofText? [] rest <;> simp

theorem isSpelled_text (indexNamed : isName index) (countNamed : isName count) (expression : Expression) :
    IsSpelled (expression.text index count) (expression.tokens index count) := by
  have name {name : String} (named : isName name) : IsSpelled name [.word name.toList] := by
    have spelled := isSpelled_word (isWordCharacter_of_isName named) (toList_ne_nil_of_isName named)
    rwa [String.ofList_toList] at spelled
  induction expression with
  | index => exact name indexNamed
  | count => exact name countNamed
  | literal value =>
      have digits : toString value = String.ofList (Nat.toDigits 10 value) := Nat.toString_eq_ofList_toDigits
      rw [text, tokens, digits]
      refine isSpelled_word (fun character member => ?_) (Nat.toDigits_ne_nil)
      have digit := Nat.isDigit_of_mem_toDigits (by decide) (by decide) member
      simp [Token.isWordCharacter, Script.isIdentifierCharacter, Char.isAlphanum, digit]
  | sum left right onLeft onRight =>
      exact onLeft.append (onRight.grouped _) '+' (by decide) rfl (by decide)
  | difference left right onLeft onRight =>
      exact onLeft.append (onRight.grouped _) '-' (by decide) rfl (by decide)
  | remainder left right onLeft onRight =>
      exact (onLeft.grouped _).append (onRight.grouped _) '%' (by decide) rfl (by decide)


section Reading

variable {outer : List Front} {front : Front} {rest : List Token}

/-- An operand behind what is to be divided completes a product. -/
def ReadsOperand (index count : String) (expression : Expression) (tokens : List Token) : Prop :=
  ∀ (outer : List Front) (front : Front) (rest : List Token),
    ofTokens? index count outer front none (tokens ++ rest) =
      ofTokens? index count outer { front with dividend? := none } (some (front.product expression)) rest

/-- A product is complete where nothing is to be divided. -/
def ReadsProduct (index count : String) (expression : Expression) (tokens : List Token) : Prop :=
  ∀ (outer : List Front) (sum? : Option (Expression × Token)) (rest : List Token),
    ofTokens? index count outer { sum? } none (tokens ++ rest) =
      ofTokens? index count outer { sum? } (some expression) rest

/-- A sum is complete where nothing stands in front. -/
def ReadsSum (index count : String) (expression : Expression) (tokens : List Token) : Prop :=
  ∃ front : Front, ∃ product : Expression, front.total product = expression ∧
    ∀ (outer : List Front) (rest : List Token),
      ofTokens? index count outer {} none (tokens ++ rest) = ofTokens? index count outer front (some product) rest

theorem ReadsOperand.readsProduct {expression : Expression} {tokens : List Token}
    (reads : ReadsOperand index count expression tokens) : ReadsProduct index count expression tokens :=
  fun outer _ rest => reads outer _ rest

theorem ReadsProduct.readsSum {expression : Expression} {tokens : List Token}
    (reads : ReadsProduct index count expression tokens) : ReadsSum index count expression tokens :=
  ⟨{}, expression, rfl, fun outer rest => reads outer none rest⟩

/-- A sum in parentheses is an operand. -/
theorem ReadsSum.readsOperand {expression : Expression} {tokens : List Token}
    (reads : ReadsSum index count expression tokens) :
    ReadsOperand index count expression (.opening :: (tokens ++ [.closing])) := by
  obtain ⟨inner, product, complete, continues⟩ := reads
  intro outer front rest
  rw [List.cons_append, List.append_assoc, ofTokens?, continues, List.singleton_append, ofTokens?, complete]

/-- What the tokens of an expression are read as, as far as its level needs no parentheses. -/
structure Reads (index count : String) (expression : Expression) : Prop where
  sum : ReadsSum index count expression (expression.tokens index count)
  product : expression.level ≤ 1 → ReadsProduct index count expression (expression.tokens index count)
  operand : expression.level = 0 → ReadsOperand index count expression (expression.tokens index count)

namespace Reads

variable {expression : Expression}

theorem groupedProduct (reads : Reads index count expression) :
    ReadsProduct index count expression (groupedTokens (1 < expression.level) (expression.tokens index count)) := by
  by_cases sums : 1 < expression.level
  · rw [groupedTokens, if_pos (decide_eq_true sums)]
    exact reads.sum.readsOperand.readsProduct
  · rw [groupedTokens, if_neg (by simpa using sums)]
    exact reads.product (Nat.le_of_not_lt sums)

theorem groupedOperand (reads : Reads index count expression) :
    ReadsOperand index count expression (groupedTokens (0 < expression.level) (expression.tokens index count)) := by
  by_cases sums : 0 < expression.level
  · rw [groupedTokens, if_pos (decide_eq_true sums)]
    exact reads.sum.readsOperand
  · rw [groupedTokens, if_neg (by simpa using sums)]
    exact reads.operand (Nat.eq_zero_of_not_pos sums)

/-- A word is read as what it stands for. -/
theorem of_word {word : List Char} (spelled : expression.tokens index count = [.word word])
    (known : ofWord? index count word = some expression) : Reads index count expression := by
  have operand : ReadsOperand index count expression (expression.tokens index count) := by
    intro outer front rest
    rw [spelled, List.singleton_append, ofTokens?, known]
    rfl
  exact ⟨operand.readsProduct.readsSum, fun _ => operand.readsProduct, fun _ => operand⟩

end Reads

/-- A name is no number. -/
theorem toDigits_ne_name {name : String} (named : isName name) (value : Nat) :
    Nat.toDigits 10 value ≠ name.toList := by
  intro same
  rw [isName, Bool.and_eq_true] at named
  obtain ⟨start, starts, letter⟩ := (Option.any_eq_true _ _).mp named.1
  have member : start ∈ Nat.toDigits 10 value := same ▸ List.mem_of_head? starts
  simp [Nat.isDigit_of_mem_toDigits (by decide) (by decide) member] at letter

/-- A sum or a difference is complete when its right side is a complete product. -/
theorem readsSum_append {left right : Expression} {leftTokens rightTokens : List Token} {sign : Token}
    (signed : sign = .plus ∨ sign = .minus) (onLeft : ReadsSum index count left leftTokens)
    (onRight : ReadsProduct index count right rightTokens) :
    ReadsSum index count (Front.total { sum? := some (left, sign) } right) (leftTokens ++ sign :: rightTokens) := by
  obtain ⟨front, product, complete, continues⟩ := onLeft
  refine ⟨{ sum? := some (left, sign) }, right, rfl, fun outer rest => ?_⟩
  rw [List.append_assoc, continues, List.cons_append]
  rcases signed with rfl | rfl <;> rw [ofTokens?, complete, onRight]

/-- The tokens of an expression are read as this expression. -/
theorem reads_tokens (indexNamed : isName index) (countNamed : isName count) (different : index ≠ count)
    (expression : Expression) : Reads index count expression := by
  induction expression with
  | index => exact .of_word rfl (if_pos rfl)
  | count =>
      have other : count.toList ≠ index.toList := fun same => different (String.toList_inj.mp same).symm
      exact .of_word rfl ((if_neg other).trans (if_pos rfl))
  | literal value =>
      have digits : (Nat.toDigits 10 value).all Char.isDigit :=
        List.all_eq_true.mpr fun _ member => Nat.isDigit_of_mem_toDigits (by decide) (by decide) member
      refine .of_word rfl ?_
      rw [ofWord?, if_neg (toDigits_ne_name indexNamed value), if_neg (toDigits_ne_name countNamed value),
        if_pos digits, Nat.ofDigitChars_ten_toDigits]
  | sum left right onLeft onRight =>
      exact ⟨readsSum_append (.inl rfl) onLeft.sum onRight.groupedProduct, by simp [level], by simp [level]⟩
  | difference left right onLeft onRight =>
      exact ⟨readsSum_append (.inr rfl) onLeft.sum onRight.groupedProduct, by simp [level], by simp [level]⟩
  | remainder left right onLeft onRight =>
      have product : ReadsProduct index count (.remainder left right)
          ((Expression.remainder left right).tokens index count) := by
        intro outer sum? rest
        rw [tokens, List.append_assoc, onLeft.groupedProduct, List.cons_append, ofTokens?, onRight.groupedOperand]
        rfl
      exact ⟨product.readsSum, fun _ => product, by simp [level]⟩

end Reading

/-- The written form of an expression is read as this expression. -/
theorem read?_text (indexNamed : isName index) (countNamed : isName count) (different : index ≠ count)
    (expression : Expression) : read? index count (expression.text index count) = some expression := by
  have spelled := isSpelled_text indexNamed countNamed expression [] (by simp)
  obtain ⟨front, product, complete, continues⟩ := (reads_tokens indexNamed countNamed different expression).sum
  have reached := continues [] []
  rw [List.append_nil] at spelled reached
  simp [read?, spelled, Token.ofText?, Token.ofWord, reached, ofTokens?, complete]

end Expression

end Storyboard.Navigation
