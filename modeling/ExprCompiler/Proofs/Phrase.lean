import ExprCompiler.Tree.Parser

set_option autoImplicit false

namespace ExprCompiler

theorem Token.isSymbol_iff (token : Token) (symbol : String) :
    token.isSymbol symbol = true ↔ token.kind = .reserved ∧ token.lexeme = symbol := by
  simp [Token.isSymbol, Token.isReserved]

theorem Token.symbol_unique (token : Token) (symbol other : String)
    (written : token.isSymbol symbol = true) : token.isSymbol other = decide (symbol = other) := by
  obtain ⟨reserved, rfl⟩ := (token.isSymbol_iff symbol).mp written
  simp only [Token.isSymbol, Token.isReserved, reserved, BEq.rfl, Bool.true_and]
  rfl

def Token.numeral? (token : Token) : Option Int :=
  if token.isNumber then token.value else none

theorem Token.numeral_integer (token : Token) (numeral : token.isNumber = true) :
    token.numeral? = some (token.integer numeral) := by
  rw [numeral?, if_pos numeral, integer, Option.some_get]

theorem Token.number_no_symbol (token : Token) (symbol : String) (numeral : token.isNumber = true) :
    token.isSymbol symbol = false := by
  have kind : token.kind = .number := by simpa [Token.isNumber] using numeral
  simp [Token.isSymbol, Token.isReserved, kind]

theorem Token.end_no_symbol (token : Token) (symbol : String) (last : token.isEnd = true) :
    token.isSymbol symbol = false := by
  have kind : token.kind = .endOfInput := by simpa [Token.isEnd] using last
  simp [Token.isSymbol, Token.isReserved, kind]

theorem Token.end_no_number (token : Token) (last : token.isEnd = true) : token.isNumber = false := by
  have kind : token.kind = .endOfInput := by simpa [Token.isEnd] using last
  simp [Token.isNumber, kind]

def Operator.symbol : Operator → String
  | .equal => "=="
  | .notEqual => "!="
  | .lessThan => "<"
  | .lessOrEqual => "<="
  | .add => "+"
  | .sub => "-"
  | .mul => "*"
  | .div => "/"

inductive Connective where
  | equal
  | notEqual
  | lessOrEqual
  | greaterOrEqual
  | less
  | greater
  | plus
  | minus
  | times
  | divide
deriving DecidableEq, Repr

namespace Connective

def symbol : Connective → String
  | .equal => "=="
  | .notEqual => "!="
  | .lessOrEqual => "<="
  | .greaterOrEqual => ">="
  | .less => "<"
  | .greater => ">"
  | .plus => "+"
  | .minus => "-"
  | .times => "*"
  | .divide => "/"

def layer : Connective → Layer
  | .equal | .notEqual => .equality
  | .lessOrEqual | .greaterOrEqual | .less | .greater => .relational
  | .plus | .minus => .additive
  | .times | .divide => .multiplicative

-- The expression that the operator makes of its operands. The reverse comparisons exchange them.
def join : Connective → Expr → Expr → Expr
  | .equal, left, right => .binary .equal left right
  | .notEqual, left, right => .binary .notEqual left right
  | .lessOrEqual, left, right => .binary .lessOrEqual left right
  | .greaterOrEqual, left, right => .binary .lessOrEqual right left
  | .less, left, right => .binary .lessThan left right
  | .greater, left, right => .binary .lessThan right left
  | .plus, left, right => .binary .add left right
  | .minus, left, right => .binary .sub left right
  | .times, left, right => .binary .mul left right
  | .divide, left, right => .binary .div left right

def rule : Connective → BinaryRule
  | .equal => ⟨"==", .equal, false⟩
  | .notEqual => ⟨"!=", .notEqual, false⟩
  | .lessOrEqual => ⟨"<=", .lessOrEqual, false⟩
  | .greaterOrEqual => ⟨">=", .lessOrEqual, true⟩
  | .less => ⟨"<", .lessThan, false⟩
  | .greater => ⟨">", .lessThan, true⟩
  | .plus => ⟨"+", .add, false⟩
  | .minus => ⟨"-", .sub, false⟩
  | .times => ⟨"*", .mul, false⟩
  | .divide => ⟨"/", .div, false⟩

theorem rule_symbol (connective : Connective) : connective.rule.symbol = connective.symbol := by
  cases connective <;> rfl

theorem rule_build_expr (connective : Connective) (left right : Tree) :
    (connective.rule.build left right).expr = connective.join left.expr right.expr := by
  cases connective <;> rfl

theorem join_either (connective : Connective) (left right : Expr) :
    connective.join left right = .binary connective.rule.op left right ∨
      connective.join left right = .binary connective.rule.op right left := by
  cases connective <;> simp [join, rule]

theorem symbol_injective (one other : Connective) (same : one.symbol = other.symbol) : one = other := by
  cases one <;> cases other <;> first | rfl | exact absurd same (by decide)

theorem symbol_no_parenthesis (connective : Connective) :
    connective.symbol ≠ "(" ∧ connective.symbol ≠ ")" := by
  cases connective <;> decide

def all : List Connective :=
  [.equal, .notEqual, .lessOrEqual, .greaterOrEqual, .less, .greater, .plus, .minus, .times, .divide]

theorem mem_all (connective : Connective) : connective ∈ all := by
  cases connective <;> decide

end Connective

def Token.isConnective (token : Token) : Bool :=
  Connective.all.any fun connective => token.isSymbol connective.symbol

theorem Token.isConnective_iff (token : Token) :
    token.isConnective = true ↔ ∃ connective : Connective, token.isSymbol connective.symbol = true := by
  simp [Token.isConnective, Connective.mem_all]

namespace Layer

def rules : Layer → List BinaryRule
  | .equality => BinaryRule.equality
  | .relational => BinaryRule.relational
  | .additive => BinaryRule.additive
  | .multiplicative => BinaryRule.multiplicative
  | .expression | .unary | .primary => []

def tighter : Layer → Layer
  | .expression => .equality
  | .equality => .relational
  | .relational => .additive
  | .additive => .multiplicative
  | .multiplicative => .unary
  | .unary | .primary => .primary

def rank : Layer → Nat
  | .expression => 0
  | .equality => 1
  | .relational => 2
  | .additive => 3
  | .multiplicative => 4
  | .unary => 5
  | .primary => 6

def Stops (layer : Layer) (token : Token) : Prop :=
  ∀ connective : Connective, layer.rank ≤ connective.layer.rank → token.isSymbol connective.symbol = false

theorem stops_tighter (layer : Layer) (token : Token) (stops : layer.Stops token) :
    layer.tighter.Stops token := by
  intro connective reached
  apply stops
  have looser : layer.rank ≤ layer.tighter.rank := by cases layer <;> decide
  omega

theorem tighter_compound (layer : Layer) (compound : layer ≠ .primary) (signless : layer ≠ .unary) :
    layer.tighter ≠ .primary := by
  revert compound signless
  cases layer <;> decide

theorem expression_stops_iff (token : Token) :
    Layer.expression.Stops token ↔ token.isConnective = false := by
  rw [← Bool.not_eq_true, token.isConnective_iff]
  simp [Stops, rank]

theorem stops_of_tighter (layer : Layer) (token : Token) (stops : layer.tighter.Stops token)
    (other : ∀ connective : Connective, connective.layer = layer → token.isSymbol connective.symbol = false) :
    layer.Stops token := by
  intro connective reached
  by_cases same : connective.layer = layer
  · exact other connective same
  · apply stops
    revert reached same
    cases connective <;> cases layer <;> decide

theorem operand_stops (layer : Layer) (operand : layer = .unary ∨ layer = .primary) (token : Token) :
    layer.Stops token := by
  intro connective reached
  exfalso
  rcases operand with rfl | rfl <;> cases connective <;> revert reached <;> decide

theorem find_rule (connective : Connective) (token : Token)
    (written : token.isSymbol connective.symbol = true) :
    (connective.layer.rules.find? fun rule => token.isSymbol rule.symbol) = some connective.rule := by
  simp only [token.symbol_unique _ _ written]
  cases connective <;> rfl

theorem rule_found (layer : Layer) (token : Token) (rule : BinaryRule)
    (found : (layer.rules.find? fun rule => token.isSymbol rule.symbol) = some rule) :
    ∃ connective : Connective, connective.layer = layer ∧ connective.rule = rule ∧
      token.isSymbol connective.symbol = true := by
  have listed := List.mem_of_find?_eq_some found
  have written : token.isSymbol rule.symbol = true := by simpa using List.find?_some found
  have known : ∃ connective : Connective, connective.layer = layer ∧ connective.rule = rule := by
    cases layer <;> simp only [rules, BinaryRule.equality, BinaryRule.relational, BinaryRule.additive,
      BinaryRule.multiplicative, List.mem_cons, List.not_mem_nil, or_false] at listed
    case equality =>
      rcases listed with rfl | rfl
      · exact ⟨.equal, rfl, rfl⟩
      · exact ⟨.notEqual, rfl, rfl⟩
    case relational =>
      rcases listed with rfl | rfl | rfl | rfl
      · exact ⟨.lessOrEqual, rfl, rfl⟩
      · exact ⟨.greaterOrEqual, rfl, rfl⟩
      · exact ⟨.less, rfl, rfl⟩
      · exact ⟨.greater, rfl, rfl⟩
    case additive =>
      rcases listed with rfl | rfl
      · exact ⟨.plus, rfl, rfl⟩
      · exact ⟨.minus, rfl, rfl⟩
    case multiplicative =>
      rcases listed with rfl | rfl
      · exact ⟨.times, rfl, rfl⟩
      · exact ⟨.divide, rfl, rfl⟩
  obtain ⟨connective, inLayer, rfl⟩ := known
  exact ⟨connective, inLayer, rfl, by rwa [connective.rule_symbol] at written⟩

theorem no_rule_found (layer : Layer) (token : Token)
    (missing : (layer.rules.find? fun rule => token.isSymbol rule.symbol) = none)
    (connective : Connective) (inLayer : connective.layer = layer) :
    token.isSymbol connective.symbol = false := by
  cases written : token.isSymbol connective.symbol with
  | false => rfl
  | true =>
      have found := find_rule connective token written
      rw [inLayer, missing] at found
      cases found

end Layer

-- A repetition `part (symbol part)*` of the grammar is read as growing at its right end, part by
-- part, which is also how it groups.
inductive Phrase : Layer → Type where
  | number (token : Token) (numeral : token.isNumber = true) : Phrase .primary
  | group (opening closing : Token) (opens : opening.isSymbol "(" = true)
      (closes : closing.isSymbol ")" = true) (inner : Phrase .expression) : Phrase .primary
  | positive (sign : Token) (written : sign.isSymbol "+" = true) (operand : Phrase .primary) :
      Phrase .unary
  | negative (sign : Token) (written : sign.isSymbol "-" = true) (operand : Phrase .primary) :
      Phrase .unary
  | single {layer : Layer} (compound : layer ≠ .primary) (part : Phrase layer.tighter) : Phrase layer
  | joined {layer : Layer} (connective : Connective) (inLayer : connective.layer = layer)
      (symbol : Token) (written : symbol.isSymbol connective.symbol = true) (left : Phrase layer)
      (right : Phrase layer.tighter) : Phrase layer

namespace Phrase

def tokens : {layer : Layer} → Phrase layer → List Token
  | _, .number token _ => [token]
  | _, .group opening closing _ _ inner => opening :: (inner.tokens ++ [closing])
  | _, .positive sign _ operand => sign :: operand.tokens
  | _, .negative sign _ operand => sign :: operand.tokens
  | _, .single _ part => part.tokens
  | _, .joined _ _ symbol _ left right => left.tokens ++ symbol :: right.tokens

def expr : {layer : Layer} → Phrase layer → Expr
  | _, .number token numeral => .num (token.integer numeral)
  | _, .group _ _ _ _ inner => inner.expr
  | _, .positive _ _ operand => operand.expr
  | _, .negative _ _ operand => .binary .sub (.num 0) operand.expr
  | _, .single _ part => part.expr
  | _, .joined connective _ _ _ left right => connective.join left.expr right.expr

def tree : {layer : Layer} → Phrase layer → Tree
  | _, .number token numeral => .num (token.integer numeral) (some token.span)
  | _, .group opening closing _ _ inner => inner.tree.stretch opening (some closing)
  | _, .positive sign _ operand => operand.tree.stretch sign none
  | _, .negative sign _ operand => Tree.combine .sub (.num 0 (some sign.span)) operand.tree
  | _, .single _ part => part.tree
  | _, .joined connective _ _ _ left right => connective.rule.build left.tree right.tree

def nesting : {layer : Layer} → Phrase layer → Nat
  | _, .number _ _ => 0
  | _, .group _ _ _ _ inner => inner.nesting + 1
  | _, .positive _ _ operand => operand.nesting
  | _, .negative _ _ operand => operand.nesting
  | _, .single _ part => part.nesting
  | _, .joined _ _ _ _ left right => max left.nesting right.nesting

variable {layer : Layer}

theorem expr_stretch (tree : Tree) (first : Token) (last : Option Token) :
    (tree.stretch first last).expr = tree.expr := by
  unfold Tree.stretch
  split
  · rfl
  · cases tree <;> rfl

theorem tree_expr (phrase : Phrase layer) : phrase.tree.expr = phrase.expr := by
  induction phrase with
  | number token numeral => rfl
  | group opening closing opens closes inner ih => rw [tree, expr_stretch, ih, expr]
  | positive sign written operand ih => rw [tree, expr_stretch, ih, expr]
  | negative sign written operand ih =>
      show Expr.binary .sub (.num 0) operand.tree.expr = _
      rw [ih, expr]
  | single compound part ih => rw [tree, ih, expr]
  | joined connective inLayer symbol written left right ihLeft ihRight =>
      rw [tree, connective.rule_build_expr, ihLeft, ihRight, expr]

theorem connective_not_primary (connective : Connective) : connective.layer ≠ .primary := by
  cases connective <;> decide

theorem primary_first (phrase : Phrase .primary) :
    ∃ first rest, phrase.tokens = first :: rest ∧ first.isSymbol "+" = false ∧
      first.isSymbol "-" = false := by
  cases phrase with
  | number token numeral =>
      exact ⟨token, [], rfl, token.number_no_symbol _ numeral, token.number_no_symbol _ numeral⟩
  | group opening closing opens closes inner =>
      refine ⟨opening, inner.tokens ++ [closing], rfl, ?_, ?_⟩ <;> simp [opening.symbol_unique _ _ opens]
  | single compound part => exact absurd rfl compound
  | joined connective inLayer symbol written left right =>
      exact absurd inLayer (connective_not_primary connective)

def IsExpression (phrase : Phrase layer) : Prop :=
  ∃ whole : Phrase .expression, whole.tokens = phrase.tokens ∧ whole.tree = phrase.tree ∧
    whole.nesting = phrase.nesting

theorem part_expression (outer : Layer) (compound : outer ≠ .primary)
    (known : ∀ phrase : Phrase outer, phrase.IsExpression) (part : Phrase outer.tighter) :
    part.IsExpression := by
  have whole := known (.single compound part)
  simpa only [IsExpression, tokens, tree, nesting] using whole

theorem is_expression (phrase : Phrase layer) : phrase.IsExpression := by
  have whole : ∀ phrase : Phrase .expression, phrase.IsExpression := fun phrase => ⟨phrase, rfl, rfl, rfl⟩
  have equality := part_expression .expression (by decide) whole
  have relational := part_expression .equality (by decide) equality
  have additive := part_expression .relational (by decide) relational
  have multiplicative := part_expression .additive (by decide) additive
  have unary := part_expression .multiplicative (by decide) multiplicative
  have primary := part_expression .unary (by decide) unary
  cases layer with
  | expression => exact whole phrase
  | equality => exact equality phrase
  | relational => exact relational phrase
  | additive => exact additive phrase
  | multiplicative => exact multiplicative phrase
  | unary => exact unary phrase
  | primary => exact primary phrase

end Phrase

end ExprCompiler
