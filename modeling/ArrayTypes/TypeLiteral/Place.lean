import ArrayTypes.TypeLiteral.Token

/-! The places between the tokens of a type literal, what may follow at each, and
the faults of a text that goes on otherwise. -/

namespace ArrayTypes.TypeLiteral

/-- Where a reader of tokens stands. -/
inductive Place where
  /-- At the start or after a dot. -/
  | name
  | afterName
  | afterOpening
  | afterClosing
  deriving DecidableEq, Repr

/-- The classes of tokens that a place tells apart. -/
inductive Terminal where
  | identifier | dot | opening | closing
  deriving DecidableEq, Repr

def Token.terminal : Token → Terminal
  | .identifier _ => .identifier
  | .dot => .dot
  | .opening => .opening
  | .closing => .closing

/-- The regular expression of identifiers, and the other tokens in quotes. -/
def Terminal.label : Terminal → String
  | identifier => "r#\"[A-Za-z_$][A-Za-z0-9_$]*\"#"
  | dot => "\".\""
  | opening => "\"[\""
  | closing => "\"]\""

namespace Place

def after? : Place → Terminal → Option Place
  | name, .identifier => some afterName
  | afterName, .dot => some name
  | afterName, .opening => some afterOpening
  | afterOpening, .closing => some afterClosing
  | afterClosing, .opening => some afterOpening
  | _, _ => none

/-- Whether the text may end here. -/
def complete : Place → Bool
  | afterName | afterClosing => true
  | name | afterOpening => false

def expected : Place → List Terminal
  | name => [.identifier]
  | afterName => [.dot, .opening]
  | afterOpening => [.closing]
  | afterClosing => [.opening]

theorem mem_expected_iff {p : Place} {t : Terminal} : t ∈ p.expected ↔ (p.after? t).isSome := by
  cases p <;> cases t <;> decide

/-- A list of alternatives in words. -/
def alternatives : List String → String
  | [] => ""
  | [a] => a
  | [a, b] => a ++ " or " ++ b
  | a :: rest => a ++ ", " ++ alternatives rest

def expectation (p : Place) : String :=
  "Expected one of " ++ alternatives (p.expected.map Terminal.label)

end Place

/-- The first thing in a text that keeps it from being a type literal. -/
inductive SyntaxError where
  /-- A character that starts no token. -/
  | invalidToken (offset : Nat)
  | unexpectedToken (lexeme : Lexeme) (place : Place)
  /-- The text ends too early; the offset is the end of its last token. -/
  | unexpectedEnd (offset : Nat) (place : Place)
  deriving DecidableEq, Repr

def SyntaxError.message : SyntaxError → String
  | invalidToken offset => "Invalid token at " ++ toString offset
  | unexpectedToken lexeme place =>
    "Unrecognized token `" ++ String.ofList lexeme.token.text ++ "` found at "
      ++ toString lexeme.start ++ ":" ++ toString lexeme.stop ++ "\n" ++ place.expectation
  | unexpectedEnd offset place =>
    "Unrecognized EOF found at " ++ toString offset ++ "\n" ++ place.expectation

end ArrayTypes.TypeLiteral
