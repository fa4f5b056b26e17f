import Constituency.Regex.Error
import Constituency.Text.Lexeme

/-!
# Grammars that cannot be built

Why a text is no grammar, or a list of productions is not closed.
-/
namespace Constituency

open Constituency.Text

/-- What is wrong in the body of a production. -/
inductive BodyError where
  | missing (what : Missing)
  | noItem (found : String)
  | unterminatedPattern (found : String)
  | pattern (source : String) (error : Regex.Error)
deriving DecidableEq, Repr

def BodyError.message : BodyError → String
  | .missing what => what.message
  | .noItem found => "expected at least one item at " ++ found
  | .unterminatedPattern found => "unterminated tag pattern at " ++ found
  | .pattern source error => "tag pattern /" ++ source ++ "/: " ++ error.message

inductive GrammarError where
  | directiveName (what : Missing)
  | directiveArgument (directive : String) (what : Missing)
  | startCount (count : Nat)
  | unknownDirective (directive : String)
  | ruleName (what : Missing)
  | ruleArrow (rule : String) (what : Missing)
  | ruleBody (rule : String) (error : BodyError)
  | noRules
  | repeatedRule (rule : String)
  | undefinedRule (rule reference : String)
  | unknownStart (rule : String)
deriving DecidableEq, Repr

def GrammarError.message : GrammarError → String
  | .directiveName what => what.message
  | .directiveArgument directive what => "%" ++ directive ++ ": " ++ what.message
  | .startCount count => "%start takes exactly one rule name, got " ++ toString count
  | .unknownDirective directive => "unknown directive %" ++ directive
  | .ruleName what => "rule symbol: " ++ what.message
  | .ruleArrow rule what => "rule " ++ rule ++ " arrow: " ++ what.message
  | .ruleBody rule error => "rule " ++ rule ++ ": " ++ error.message
  | .noRules => "empty ruleset"
  | .repeatedRule rule => "rule " ++ rule ++ " is defined twice"
  | .undefinedRule rule reference =>
    "rule " ++ rule ++ " refers to undefined rule " ++ reference
  | .unknownStart rule => "unknown start rule " ++ rule

end Constituency
