import Constituency.TagTable.Rule
import Constituency.TagTable.SyntheticTag
import Constituency.Tree

/-!
# Tag tables

A tag table changes the tags of a sentence before it is parsed, and explains tags afterwards. It
is built from entries. Rules that have to be told apart are numbered in the order in which they are
registered, from a number that the caller names, and the first number that is still free is given
back; so whoever builds several tables can keep their numbers apart.

A rule keeps its number when it is copied from a table, and the copy can be changed and registered
again. A rule that has to be told apart then gets a new number, but another one goes into the table
with the number that it brings along.
-/
namespace Constituency

open Constituency.Text

/-- What the glossary says about a part of speech. -/
structure PosEntry where
  label : String
  description : String
deriving DecidableEq, Repr

/-- A rule as a table registers and holds it, with the number that it may have been given. -/
structure NumberedRule extends TagRule where
  ordinal : Option Nat := none
deriving DecidableEq

/-- A rule that was never registered has no number. -/
instance : Coe TagRule NumberedRule := ⟨fun rule => { rule with }⟩

/-- What a tag table is built from. -/
inductive TagEntry where
  /-- References `name:path` lead to the address followed by the path. -/
  | link (name address : String)
  | pos (tag : String) (entry : PosEntry)
  | rule (rule : NumberedRule)
deriving DecidableEq

structure TagTable where
  /-- The rules in the order in which they are applied. -/
  rules : List NumberedRule := []
  /-- The links, the latest one first. -/
  links : List (String × String) := []
  /-- The glossary, the latest entry first. -/
  glossary : List (String × PosEntry) := []

/-! ## Building -/

namespace NumberedRule

/-- Registers a rule. It gets the number `next` if it has to be told apart, else it stays the same. -/
def register (rule : NumberedRule) (next : Nat) : NumberedRule × Nat :=
  if rule.isNumbered then ({ rule with ordinal := some next }, next + 1) else (rule, next)

/-- Whether a rule that need not be told apart has the number of an earlier registration. -/
def bringsNumber (rule : NumberedRule) : Bool := !rule.isNumbered && rule.ordinal.isSome

@[simp] theorem toTagRule_register (rule : NumberedRule) (next : Nat) :
    (rule.register next).1.toTagRule = rule.toTagRule := by
  rw [register]
  split <;> rfl

/-- Whether a rule is applied before another wherever they stand: wider, or as wide and longer. -/
def outranks (rule other : NumberedRule) : Bool :=
  other.span < rule.span ||
    (rule.span == other.span && other.pattern.source.length < rule.pattern.source.length)

/-- Puts a rule in front of the first rule that does not outrank it. -/
def insert (rule : NumberedRule) : List NumberedRule → List NumberedRule
  | [] => [rule]
  | first :: rest =>
    if first.outranks rule then first :: insert rule rest else rule :: first :: rest

/-- Rules in the order in which they are applied; of equals, the one registered first. -/
def sort (rules : List NumberedRule) : List NumberedRule := rules.foldr insert []

theorem insert_perm (rule : NumberedRule) (rules : List NumberedRule) :
    (insert rule rules).Perm (rule :: rules) := by
  induction rules with
  | nil => exact .refl _
  | cons first rest ih =>
    rw [insert]
    split
    · exact (ih.cons first).trans (.swap rule first rest)
    · exact .refl _

theorem sort_perm (rules : List NumberedRule) : (sort rules).Perm rules := by
  induction rules with
  | nil => exact .refl _
  | cons rule rest ih => exact (insert_perm rule (sort rest)).trans (ih.cons rule)

end NumberedRule

namespace TagTable

/-- Registers rules, numbered from `next` on. -/
def number : List NumberedRule → Nat → List NumberedRule × Nat
  | [], next => ([], next)
  | rule :: rest, next =>
    let registered := rule.register next
    let others := number rest registered.2
    (registered.1 :: others.1, others.2)

def rulesOf (entries : List TagEntry) : List NumberedRule :=
  entries.filterMap fun | .rule rule => some rule | _ => none

def linksOf (entries : List TagEntry) : List (String × String) :=
  entries.filterMap fun | .link name address => some (name, address) | _ => none

def glossaryOf (entries : List TagEntry) : List (String × PosEntry) :=
  entries.filterMap fun | .pos tag entry => some (tag, entry) | _ => none

/-- The table of some registered rules and of the other entries. -/
def assemble (registered : List NumberedRule) (entries : List TagEntry) : TagTable where
  rules := NumberedRule.sort registered
  links := (linksOf entries).reverse
  glossary := (glossaryOf entries).reverse

/-- The table of some entries, numbered from `next` on, and the first number left. -/
def build (entries : List TagEntry) (next : Nat) : TagTable × Nat :=
  let numbered := number (rulesOf entries) next
  (assemble numbered.1 entries, numbered.2)

/-! ## Looking up -/

/-- The rule of a number. If rules share the number, it is the one that is applied last. -/
def ruleByOrdinal (table : TagTable) (ordinal : Nat) : Option NumberedRule :=
  table.rules.findRev? (·.ordinal == some ordinal)

/-- The rule that minted a synthetic tag. -/
def ruleFor (table : TagTable) (tag : String) : Option NumberedRule := do
  table.ruleByOrdinal (← SyntheticTag.read tag).ordinal

def renameFor (table : TagTable) (tag : String) : Option Rename := do
  (← table.ruleFor tag).rename

/-- The address a reference leads to. A reference without a known link stays as it is. -/
def expandLink (table : TagTable) (reference : String) : String :=
  match splitFirst ':' reference.toList with
  | some (name, path) =>
    match table.links.lookup (String.ofList name) with
    | some address => address ++ String.ofList path
    | none => reference
  | none => reference

/--
What is known about a tag. A synthetic tag takes label and description from its rule, and from the
glossary entry of the rule's category where the rule has none.
-/
def describe (table : TagTable) (tag : String) : Option PosEntry :=
  match table.ruleFor tag with
  | some rule => do
    let fallback := table.glossary.lookup rule.category
    let label ← rule.label <|> fallback.map PosEntry.label
    let description := (rule.description <|> fallback.map PosEntry.description).getD ""
    return ⟨label, description⟩
  | none => table.glossary.lookup (((SyntheticTag.read tag).map SyntheticTag.base).getD tag)

/-- Puts an entry at its place in a list with increasing tags. -/
def place (tag : String) (entry : PosEntry) :
    List (String × PosEntry) → List (String × PosEntry)
  | [] => [(tag, entry)]
  | first :: rest =>
    if tag < first.1 then (tag, entry) :: first :: rest
    else if tag = first.1 then (tag, entry) :: rest
    else first :: place tag entry rest

/-- What is known about the tags of a sentence, one entry per tag in increasing order. -/
def glossaryFor (table : TagTable) (tokens : List Token) : List (String × PosEntry) :=
  tokens.foldl
    (fun entries token =>
      match table.describe token.tag with
      | some entry => place token.tag entry entries
      | none => entries) []

/-- A citation attached to a word of a sentence. -/
structure Reference where
  word : String
  tag : String
  label : Option String
  links : List String
  notes : Option String
deriving DecidableEq, Repr

/-- The citation of a token whose rule has references or notes. -/
def referenceOf (table : TagTable) (token : Token) : Option Reference := do
  let rule ← table.ruleFor token.tag
  if rule.refs.isEmpty && rule.notes.isNone then none
  else return ⟨token.word, token.tag, rule.label, rule.refs.map table.expandLink, rule.notes⟩

/-- The citations of the leaves of a tree, from left to right. -/
def references (table : TagTable) (tree : Tree) : List Reference :=
  tree.leaves.filterMap fun (token, _) => table.referenceOf token

end TagTable

end Constituency
