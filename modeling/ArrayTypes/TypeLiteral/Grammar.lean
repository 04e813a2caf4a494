import ArrayTypes.TypeLiteral
import ArrayTypes.TypeLiteral.Token

/-! The grammar of type literals, stated without a reader: identifiers joined by
dots, then pairs of brackets, with blanks before, between and after the tokens. -/

namespace ArrayTypes.TypeLiteral

def IsIdentifier (text : List Char) : Prop :=
  ∃ c rest, text = c :: rest ∧ isIdentifierStart c ∧ ∀ d ∈ rest, isIdentifierPart d

/-- The tokens of a name with its dots. -/
def nameTokens (first : List Char) : List (List Char) → List Token
  | [] => [.identifier first]
  | second :: rest => .identifier first :: .dot :: nameTokens second rest

def bracketTokens (n : Nat) : List Token :=
  (List.replicate n [Token.opening, Token.closing]).flatten

/-- A row of tokens with blanks before each of them and after the last. -/
inductive Spaced : List Token → List Char → Prop where
  | nil {blanks : List Char} : blanks.all Text.isBlank → Spaced [] blanks
  | cons {blanks rest : List Char} {t : Token} {ts : List Token} :
    blanks.all Text.isBlank → Spaced ts rest → Spaced (t :: ts) (blanks ++ t.text ++ rest)

/-- The text is a spelling of the type. -/
def Spells (text : List Char) (t : TypeLiteral) : Prop :=
  ∃ first rest, (∀ name ∈ first :: rest, IsIdentifier name) ∧
    Spaced (nameTokens first rest ++ bracketTokens t.dimensions) text ∧
    t.element = .ofName (String.ofList (['.'].intercalate (first :: rest)))

/-- The text can be completed to the spelling of some type. -/
def Viable (text : List Char) : Prop :=
  ∃ more t, Spells (text ++ more) t

end ArrayTypes.TypeLiteral
