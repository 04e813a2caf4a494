import ArrayTypes.Decimal.Numeral
import ArrayTypes.Log
import ArrayTypes.Pattern.Validity
import ArrayTypes.Text.Alphanumeric
import ArrayTypes.Text.Blank
import ArrayTypes.Text.Digit
import ArrayTypes.Text.Split

/-! Which log events a setting lets through. A setting lists directives, as in
`info,typedesc::registry=trace`; of those that concern an event the most specific
decides, and of two that are equally so the later. -/

namespace ArrayTypes.Log

/-- The number that a text spells in decimal; a plus sign may stand before it. -/
def readNumber? (text : List Char) : Option Nat :=
  let digits :=
    match text with
    | '+' :: cs => cs
    | cs => cs
  if digits ≠ [] ∧ digits.all Char.isDigit then
    some (Text.numeral 10 digits)
  else none

/-- The most detailed level that is written, if any is. -/
abbrev Threshold := Option Level

/-- A level by rank, where zero writes nothing, or by name, in capitals or not. -/
def Threshold.ofText? (text : List Char) : Option Threshold :=
  match readNumber? text with
  | some 0 => some none
  | some n => (Level.all.find? (·.rank = n)).map some
  | none =>
    let name := (String.ofList text).toUpper
    if name = "OFF" then some none else (Level.all.find? (·.name = name)).map some

structure Directive where
  threshold : Threshold
  /-- What the targets it concerns start with. -/
  target : Option String
  /-- The span that the events it concerns occur in. -/
  span : Option String
  /-- The field that the events it concerns have, perhaps with a value. -/
  field : Option (String × Option String)
  deriving DecidableEq, Repr

namespace Directive

/-- The directive for a whole text: a level for all targets, or else a target. -/
def ofWord (text : List Char) : Directive :=
  match Threshold.ofText? text with
  | some threshold => ⟨threshold, none, none, none⟩
  | none => ⟨some .trace, some (String.ofList text), none, none⟩

/-- What may be the first character of a directive. -/
def isOpening (c : Char) : Bool :=
  c = '[' || c = '-' || c = ':' || c = '_' || Text.isAlphanumeric c

/-- A directive without a level writes all levels. -/
def readThreshold? (text : List Char) : Option Threshold :=
  if text = [] then some (some .trace) else Threshold.ofText? text

/-- A value is a number, or a pattern for texts. -/
def isValue (text : List Char) : Bool :=
  Decimal.isNumeral text || Pattern.isValid text

/-- A field by name, or by name and value. -/
def readField? (text : List Char) : Option (String × Option String) :=
  match Text.pieces '=' text with
  | [] | [[]] => none
  | [name] => some (String.ofList name, none)
  | name :: value :: _ =>
    if isValue value then some (String.ofList name, some (String.ofList value)) else none

/-- The directive whose end is `rest`, which starts in `text` at an offset. -/
def ending? (text : List Char) (offset : Nat) (target span : Option String)
    (field : Option (String × Option String)) (rest : List Char) : Option Directive :=
  match rest with
  | [] => some ⟨some .trace, target, span, field⟩
  | '=' :: _ =>
    (readThreshold? (text.drop (offset + 1))).map fun threshold =>
      ⟨threshold, target, span, field⟩
  | _ => none

/-- A directive is a word; or a target, a scope in brackets or both, with or without a level
after an equals sign. A scope is a span, a field in braces or both. The parts are found in the
text without the blanks around it, but their offsets count from the start of the whole text. -/
def ofText? (text : List Char) : Option Directive :=
  let part (start length : Nat) := (text.drop start).take length
  let trimmed := Text.trim text
  let target := trimmed.takeWhile fun c => c ≠ '=' && c ≠ '['
  let target? := if target = [] then none else some (String.ofList (part 0 target.length))
  if !trimmed.head?.any isOpening then none
  else
    match trimmed.drop target.length with
    | [] => some (ofWord text)
    | '[' :: scope =>
      let start := target.length + 1
      let span := scope.takeWhile fun c => c ≠ ']' && c ≠ '\x7b'
      let name := String.ofList (part start span.length)
      match scope.drop span.length with
      | ']' :: rest => ending? text (start + span.length + 1) target? (some name) none rest
      | '\x7b' :: inner =>
        let field := inner.takeWhile (· ≠ '\x7d')
        match inner.drop field.length, readField? (part (start + span.length + 1) field.length) with
        | '\x7d' :: ']' :: rest, some found =>
          ending? text (start + span.length + field.length + 3) target?
            (if span = [] then none else some name) (some found) rest
        | _, _ => none
      | _ => none
    | rest => ending? text target.length target? none none rest

/-- No event occurs in a span, and none has a field that can be told by its value. -/
def concerns (d : Directive) (e : Event) : Bool :=
  d.target.all (·.toList.isPrefixOf e.target.toList) && d.span.isNone
    && d.field.all fun (name, value) => value.isNone && e.hasField name

/-- A longer target is more specific; of two alike, one with a field; of two fields, the one
whose name is greater. -/
def isAtLeast (a b : Directive) : Bool :=
  let length (d : Directive) := (d.target.map String.length).getD 0
  length b < length a ||
    (length b = length a &&
      match b.field, a.field with
      | none, _ => true
      | some _, none => false
      | some (f, _), some (g, _) => f ≤ g)

end Directive

/-- The directives in the order of their setting. -/
abbrev Filter := List Directive

namespace Filter

/-- The directives between commas; without any, errors are written. -/
def ofText? (setting : String) : Option Filter := do
  let pieces := (Text.pieces ',' setting.toList).filter (· ≠ [])
  if pieces = [] then return [⟨some .error, none, none, none⟩]
  pieces.mapM Directive.ofText?

/-- Without a valid setting, warnings and errors are written. -/
def ofSetting (setting : Option String) : Filter :=
  (setting.bind ofText?).getD [⟨some .warn, none, none, none⟩]

/-- The directive that decides about an event. -/
def governing (f : Filter) (e : Event) : Option Directive :=
  (f.filter (·.concerns e)).foldl
    (fun best d => if best.all d.isAtLeast then some d else best) none

def admits (f : Filter) (e : Event) : Bool :=
  (f.governing e).any fun d => d.threshold.any fun level => e.level.rank ≤ level.rank

end Filter

end ArrayTypes.Log
