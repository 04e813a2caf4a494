import ArrayTypes.TypeLiteral
import ArrayTypes.TypeLiteral.Place

/-! Reading a type literal: identifiers joined by dots, then pairs of brackets.
The tokens are followed from place to place, so the first fault from the left is
the one reported. -/

namespace ArrayTypes.TypeLiteral

/-- The walk from a place along the lexemes; `stop` is the end of the lexeme before them
and `bad` the offset at which the text stops being made of tokens. -/
def follow (place : Place) (stop : Nat) : List Lexeme → Option Nat → Except SyntaxError Unit
  | [], none => if place.complete then .ok () else .error (.unexpectedEnd stop place)
  | [], some offset => .error (.invalidToken offset)
  | lexeme :: rest, bad =>
    match place.after? lexeme.token.terminal with
    | some next => follow next lexeme.stop rest bad
    | none => .error (.unexpectedToken lexeme place)

def identifierNames (tokens : List Token) : List (List Char) :=
  tokens.filterMap fun
    | .identifier name => some name
    | _ => none

/-- The literal spelled by a complete row of tokens. -/
def ofTokens (tokens : List Token) : TypeLiteral where
  element := .ofName (String.ofList (['.'].intercalate (identifierNames tokens)))
  dimensions := tokens.count .opening

def read (text : List Char) : Except SyntaxError TypeLiteral :=
  let (found, bad) := lexemes 0 text
  match follow .name 0 found bad with
  | .ok () => .ok (ofTokens (found.map Lexeme.token))
  | .error e => .error e

def parse (text : String) : Except SyntaxError TypeLiteral :=
  read text.toList

end ArrayTypes.TypeLiteral
