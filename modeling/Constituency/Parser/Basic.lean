import Constituency.Parser.Evaluate

/-!
# The parser

A parser is a grammar, the tokens of one sentence and the state of a run on them. Calling a
production attempts it at the cursor; whatever one call has found out serves the next ones. Calls
inside calls are bounded because the guard refuses an attempt that is under way: there are only so
many pairs of a production and a position, and the bound counts those that are not under way yet.
-/
namespace Constituency

/-- Attempts a production at the cursor; `room` bounds how many more attempts can be under way. -/
def attempt (grammar : Grammar) (tokens : List Token) (options : ParseOptions) (room : Nat)
    (id : Nat) (run : Run) : Option Tree × Run :=
  match run.enter options id with
  | .answered tree run => (tree, run)
  | .opened run =>
    match room, grammar.rules[id]? with
    | room + 1, some rule =>
      match rule.body.evaluate tokens (attempt grammar tokens options room) (run.begin id) with
      | (children, after) => run.settle options id rule.name children after
    -- Never taken: an identifier is a place in the list, and the guard leaves room.
    | _, _ => (none, run)
termination_by structural room

/-- The number of pairs of a production and a position. -/
def attemptRoom (grammar : Grammar) (tokens : List Token) : Nat :=
  grammar.rules.length * (tokens.length + 1)

structure Parser where
  grammar : Grammar
  tokens : List Token
  options : ParseOptions := {}
  run : Run := {}

/-- A production that is called from outside. -/
inductive Call where
  | start
  | rule (name : String)
deriving DecidableEq, Repr

namespace Parser

/-- Calls the production at a place. -/
def callId (parser : Parser) (id : Nat) : Option Tree × Parser :=
  let room := attemptRoom parser.grammar parser.tokens
  match attempt parser.grammar parser.tokens parser.options room id parser.run with
  | (tree, run) => (tree, { parser with run := run })

/-- Calls the production of a name; without such a production nothing happens. -/
def callRule (parser : Parser) (name : String) : Option Tree × Parser :=
  match parser.grammar.ruleId? name with
  | some id => parser.callId id
  | none => (none, parser)

def callStart (parser : Parser) : Option Tree × Parser := parser.callId parser.grammar.start

def call (parser : Parser) : Call → Option Tree × Parser
  | .start => parser.callStart
  | .rule name => parser.callRule name

/-- The parser behind some calls, one after the other. -/
def callAll (parser : Parser) (calls : List Call) : Parser :=
  calls.foldl (fun parser call => (parser.call call).2) parser

def isExhausted (parser : Parser) : Bool := parser.tokens.length ≤ parser.run.position

def error (parser : Parser) : ParseError := parser.run.error parser.tokens

end Parser

/-- Parses a whole sentence with the start production, which has to consume every token. -/
def Grammar.parse (grammar : Grammar) (tokens : List Token) (options : ParseOptions) :
    Except ParseError Tree :=
  match Parser.callStart { grammar := grammar, tokens := tokens, options := options } with
  | (some tree, parser) =>
    if !parser.run.aborted && parser.isExhausted then .ok tree else .error parser.error
  | (none, parser) => .error parser.error

end Constituency
