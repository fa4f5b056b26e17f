import Constituency.Grammar.Basic
import Constituency.TagTable.Basic

/-!
# Values known to be accepted

A pattern, a rule or a grammar that is part of the library is written down as it is and checked once
and for all, when the library is built. What is read from outside has to be checked when it comes.
-/
namespace Constituency

/-- The value of a result that is known not to be an error. -/
def accepted {ε α : Type} : (result : Except ε α) → result.isOk = true → α
  | .ok value, _ => value

theorem eq_ok_accepted {ε α : Type} {result : Except ε α} (isOk : result.isOk = true) :
    result = .ok (accepted result isOk) := by
  cases result with
  | ok value => rfl
  | error error => simp [Except.isOk, Except.toBool] at isOk

theorem eq_ok_of_toOption {ε α : Type} {result : Except ε α} {value : α}
    (found : result.toOption = some value) : result = .ok value := by
  cases result with
  | ok other => exact congrArg Except.ok (Option.some.inj found)
  | error error => contradiction

def Pattern.of (source : String)
    (isOk : (Pattern.read source).isOk = true := by decide +kernel) : Pattern :=
  accepted (Pattern.read source) isOk

def TagRule.of (pattern replacement : String)
    (isOk : (TagRule.ofTexts pattern replacement).isOk = true := by decide +kernel) : TagRule :=
  accepted (TagRule.ofTexts pattern replacement) isOk

def Grammar.of (rules : List (Rule String))
    (isOk : (Grammar.ofRules rules).isOk = true := by decide +kernel) : Grammar :=
  accepted (Grammar.ofRules rules) isOk

end Constituency
