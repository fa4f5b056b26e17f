import Constituency.Proofs.Parser.Memory
import Constituency.Proofs.Tree.Tokens

/-!
# All that a parser tells

A report leaves out what the answer has cost. An account adds the steps taken so far and whether
they ran out, so two parsers with the same accounts cannot be told apart by calling them. Accounts
are compared one call at a time: what relates two parsers behind a call relates them behind all.
-/
namespace Constituency

/-- A report and the steps that were taken up to it. -/
structure Account extends Report where
  steps : Nat
  /-- Whether the steps ran out. -/
  aborted : Bool
deriving DecidableEq, Repr

/-! ### Accounts of other tokens -/

/-- The error at the place of another one, about the other token there. -/
def ParseError.reword (change : Nat → Token → Token) : ParseError → ParseError
  | .unexpectedToken position token => .unexpectedToken position (change position token)
  | .unexpectedEnd position => .unexpectedEnd position
  | .stepLimit steps => .stepLimit steps

theorem ParseError.reword_self : reword (fun _ token => token) = id := by
  funext error
  cases error <;> rfl

/-- The same account of other tokens. -/
def Account.reword (change : Nat → Token → Token) (account : Account) : Account :=
  { account with
    tree := account.tree.map (Tree.reword change)
    error := account.error.reword change }

theorem Account.reword_self : reword (fun _ token => token) = id := by
  funext account
  obtain ⟨⟨tree, position, furthest, error⟩, steps, aborted⟩ := account
  simp only [reword, Tree.reword_self, ParseError.reword_self, Option.map_id]
  rfl

namespace Parser

/-- What a parser tells behind a call that was answered like this. -/
def account (parser : Parser) (tree : Option Tree) : Account where
  tree := tree
  position := parser.run.position
  furthest := parser.run.furthest
  error := parser.error
  steps := parser.run.steps
  aborted := parser.run.aborted

/-- What a parser tells behind each of some calls, one after the other. -/
def accounts (parser : Parser) : List Call → List Account
  | [] => []
  | call :: others =>
    match parser.call call with
    | (tree, after) => after.account tree :: after.accounts others

/-- Parsers whose next accounts are related, and whose states stay so, have related accounts. -/
theorem accounts_eq_map {related : Parser → Parser → Prop} {change : Account → Account}
    (step : ∀ parser other call, related parser other →
      (other.call call).2.account (other.call call).1 =
        change ((parser.call call).2.account (parser.call call).1) ∧
      related (parser.call call).2 (other.call call).2)
    {parser other : Parser} (begun : related parser other) (calls : List Call) :
    other.accounts calls = (parser.accounts calls).map change := by
  induction calls generalizing parser other with
  | nil => rfl
  | cons call others ih =>
    obtain ⟨first, later⟩ := step parser other call begun
    rw [accounts, accounts, List.map_cons, ← first, ← ih later]

end Parser

end Constituency
