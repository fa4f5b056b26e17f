import Constituency.Grammar.Equality
import Constituency.Grammar.Error

/-!
# Grammar texts

A grammar text is a sequence of productions `Name -> body;` and directives `%name symbols;`. A body
is one or more alternatives separated by bars, an alternative one or more items, and an item a
symbol, a tag pattern between slashes or alternatives in parentheses, with at most one of `?`, `*`
and `+` right behind it. One item alone is not wrapped into a sequence, nor one alternative into a
choice. Reading resolves nothing: references are the names as they stand.
-/
namespace Constituency

open Constituency.Text

inductive Directive where
  | start (rule : String)
  | flatten (labels : List String)
  | hide (labels : List String)
deriving DecidableEq, Repr

/-- The statements of a grammar text. -/
structure GrammarText where
  rules : List (Rule String)
  directives : List Directive
deriving DecidableEq

namespace GrammarText

/-- Items in a row; one alone stands for itself. -/
def sequenceOf : List (Expr String) → Expr String
  | [item] => item
  | items => .seq items

/-- Alternatives; one alone stands for itself. -/
def choiceOf : List (Expr String) → Expr String
  | [alternative] => alternative
  | alternatives => .longest alternatives

def isPatternChar (c : Char) : Bool := c != '/' && c != '\n'

/-- Reads a tag pattern behind its opening slash; `text` includes the slash. -/
def readTerminal (text rest : List Char) : Except BodyError (Expr String × List Char) :=
  match rest.takeWhile isPatternChar, rest.dropWhile isPatternChar with
  | first :: others, '/' :: behind =>
    let source := String.ofList (first :: others)
    match Pattern.read source with
    | .ok pattern => .ok (.terminal pattern, behind)
    | .error error => .error (.pattern source error)
  | _, _ => .error (.unterminatedPattern (snippet text))

/-- Reads the suffix of an item, if there is one. -/
def readSuffix (atom : Expr String) : List Char → Expr String × List Char
  | '?' :: rest => (.opt atom, rest)
  | '*' :: rest => (.star atom, rest)
  | '+' :: rest => (.plus atom, rest)
  | rest => (atom, rest)

/-- Whether a text begins where an alternative ends. -/
def endsSequence : List Char → Bool
  | [] => true
  | c :: _ => c == ';' || c == '|' || c == ')'

mutual

def readAlternatives (room : Nat) (text : List Char) :
    Except BodyError (List (Expr String) × List Char) :=
  match room with
  | 0 => .error (.noItem (snippet text))
  | room + 1 => do
    let (items, rest) ← readItems room text
    if items.isEmpty then .error (.noItem (snippet rest))
    else match rest with
      | '|' :: rest =>
        let (others, rest) ← readAlternatives room rest
        return (sequenceOf items :: others, rest)
      | _ => return ([sequenceOf items], rest)
termination_by structural room

/-- Reads items and the blanks behind them. -/
def readItems (room : Nat) (text : List Char) :
    Except BodyError (List (Expr String) × List Char) :=
  match room with
  | 0 => .error (.noItem (snippet text))
  | room + 1 =>
    let text := skipBlank text
    if endsSequence text then .ok ([], text)
    else do
      let (atom, rest) ← readAtom room text
      let (item, rest) := readSuffix atom rest
      let (others, rest) ← readItems room rest
      return (item :: others, rest)
termination_by structural room

def readAtom (room : Nat) (text : List Char) : Except BodyError (Expr String × List Char) :=
  match room with
  | 0 => .error (.noItem (snippet text))
  | room + 1 =>
    match text with
    | '(' :: rest => do
      let (alternatives, rest) ← readAlternatives room rest
      let rest ← (readChar ')' (skipBlank rest)).mapError .missing
      return (choiceOf alternatives, rest)
    | '/' :: rest => readTerminal text rest
    | _ =>
      match readSymbol text with
      | .ok (name, rest) => .ok (.ref name, rest)
      | .error what => .error (.missing what)
termination_by structural room

end

/--
Reads a body. Every call above either consumes a character or goes on to the next of a chain of
three, so three steps for each character are enough.
-/
def readBody (text : List Char) : Except BodyError (Expr String × List Char) := do
  let (alternatives, rest) ← readAlternatives (3 * text.length + 3) text
  return (choiceOf alternatives, rest)

/-- Reads a production. -/
def readRule (text : List Char) : Except GrammarError (Rule String × List Char) := do
  let (name, rest) ← (readSymbol text).mapError .ruleName
  let rest ← (readArrow (skipBlank rest)).mapError (.ruleArrow name)
  let (body, rest) ← (readBody rest).mapError (.ruleBody name)
  let rest ← (readChar ';' (skipBlank rest)).mapError fun what => .ruleBody name (.missing what)
  return (⟨name, body⟩, rest)

/-- Reads symbols up to a semicolon. -/
def readSymbols : Nat → List Char → Except Missing (List String × List Char)
  | 0, text => missing .symbol text
  | room + 1, text =>
    match skipBlank text with
    | ';' :: rest => .ok ([], rest)
    | text => do
      let (symbol, rest) ← readSymbol text
      let (others, rest) ← readSymbols room rest
      return (symbol :: others, rest)

def directiveOf (name : String) (arguments : List String) : Except GrammarError Directive :=
  if name = "start" then
    match arguments with
    | [rule] => .ok (.start rule)
    | _ => .error (.startCount arguments.length)
  else if name = "flatten" then .ok (.flatten arguments)
  else if name = "hide" then .ok (.hide arguments)
  else .error (.unknownDirective name)

/-- Reads a directive behind its percent sign. -/
def readDirective (text : List Char) : Except GrammarError (Directive × List Char) := do
  let (name, rest) ← (readName text).mapError .directiveName
  let (arguments, rest) ←
    (readSymbols (rest.length + 1) rest).mapError (.directiveArgument name)
  return (← directiveOf name arguments, rest)

/-- Reads at most `room` statements. -/
def readStatements : Nat → List Char → Except GrammarError GrammarText
  | 0, _ => .ok ⟨[], []⟩
  | room + 1, text =>
    match skipBlank text with
    | [] => .ok ⟨[], []⟩
    | '%' :: rest => do
      let (directive, rest) ← readDirective rest
      let others ← readStatements room rest
      return { others with directives := directive :: others.directives }
    | text => do
      let (rule, rest) ← readRule text
      let others ← readStatements room rest
      return { others with rules := rule :: others.rules }

/-- Reads a grammar text, in which there are fewer statements than characters. -/
def read (text : List Char) : Except GrammarError GrammarText :=
  readStatements (text.length + 1) text

end GrammarText

end Constituency
