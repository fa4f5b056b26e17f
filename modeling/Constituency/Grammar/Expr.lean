import Constituency.Pattern

/-!
# Bodies of productions

A body is built from terminals, which consume one token, references to productions, and five
combinators. Whatever a reference is made of is a parameter: a grammar text refers to productions
by name, a resolved grammar by name and place.
-/
namespace Constituency

inductive Expr (ρ : Type) where
  | terminal (pattern : Pattern)
  | ref (target : ρ)
  | seq (items : List (Expr ρ))
  | opt (body : Expr ρ)
  | star (body : Expr ρ)
  | plus (body : Expr ρ)
  /-- Every alternative is tried at the same place, and the longest match is taken. -/
  | longest (alternatives : List (Expr ρ))

/-- A production: the body that its name stands for. -/
structure Rule (ρ : Type) where
  name : String
  body : Expr ρ

variable {ρ σ : Type}

namespace Expr

def isTerminal : Expr ρ → Bool
  | .terminal _ => true
  | _ => false

mutual

/-- Every reference in order, repeated as often as it stands there. -/
def references : Expr ρ → List ρ
  | .terminal _ => []
  | .ref target => [target]
  | .seq items => referencesAll items
  | .opt body => body.references
  | .star body => body.references
  | .plus body => body.references
  | .longest alternatives => referencesAll alternatives

def referencesAll : List (Expr ρ) → List ρ
  | [] => []
  | item :: rest => item.references ++ referencesAll rest

end

mutual

/-- Replaces every reference, or gives back the first one for which there is nothing. -/
def resolve (find : ρ → Option σ) : Expr ρ → Except ρ (Expr σ)
  | .terminal pattern => .ok (.terminal pattern)
  | .ref target =>
    match find target with
    | some found => .ok (.ref found)
    | none => .error target
  | .seq items => (resolveAll find items).map .seq
  | .opt body => (body.resolve find).map .opt
  | .star body => (body.resolve find).map .star
  | .plus body => (body.resolve find).map .plus
  | .longest alternatives => (resolveAll find alternatives).map .longest

def resolveAll (find : ρ → Option σ) : List (Expr ρ) → Except ρ (List (Expr σ))
  | [] => .ok []
  | item :: rest =>
    match item.resolve find with
    | .error target => .error target
    | .ok item => (resolveAll find rest).map (item :: ·)

end

mutual

/-- What stands in a resolved body was found by `find`. -/
theorem found_of_resolve {find : ρ → Option σ} {body : Expr ρ} {resolved : Expr σ}
    (done : body.resolve find = .ok resolved) :
    ∀ found ∈ resolved.references, ∃ target, find target = some found := by
  cases body with
  | terminal pattern =>
    obtain rfl := Except.ok.inj done
    simp [references]
  | ref target =>
    simp only [resolve] at done
    split at done
    next found equal =>
      obtain rfl := Except.ok.inj done
      simpa [references] using ⟨target, equal⟩
    next => contradiction
  | seq items =>
    simp only [resolve] at done
    cases inner : resolveAll find items with
    | error target => simp [inner, Except.map] at done
    | ok items' =>
      simp only [inner, Except.map, Except.ok.injEq] at done
      subst done
      exact fun found member => found_of_resolveAll inner found member
  | longest items =>
    simp only [resolve] at done
    cases inner : resolveAll find items with
    | error target => simp [inner, Except.map] at done
    | ok items' =>
      simp only [inner, Except.map, Except.ok.injEq] at done
      subst done
      exact fun found member => found_of_resolveAll inner found member
  | opt body =>
    simp only [resolve] at done
    cases inner : body.resolve find with
    | error target => simp [inner, Except.map] at done
    | ok body' =>
      simp only [inner, Except.map, Except.ok.injEq] at done
      subst done
      exact fun found member => found_of_resolve inner found member
  | star body =>
    simp only [resolve] at done
    cases inner : body.resolve find with
    | error target => simp [inner, Except.map] at done
    | ok body' =>
      simp only [inner, Except.map, Except.ok.injEq] at done
      subst done
      exact fun found member => found_of_resolve inner found member
  | plus body =>
    simp only [resolve] at done
    cases inner : body.resolve find with
    | error target => simp [inner, Except.map] at done
    | ok body' =>
      simp only [inner, Except.map, Except.ok.injEq] at done
      subst done
      exact fun found member => found_of_resolve inner found member

theorem found_of_resolveAll {find : ρ → Option σ} {items : List (Expr ρ)}
    {resolved : List (Expr σ)} (done : resolveAll find items = .ok resolved) :
    ∀ found ∈ referencesAll resolved, ∃ target, find target = some found := by
  cases items with
  | nil =>
    obtain rfl := Except.ok.inj done
    simp [referencesAll]
  | cons item rest =>
    simp only [resolveAll] at done
    split at done
    next => contradiction
    next item' first =>
      cases inner : resolveAll find rest with
      | error target => simp [inner, Except.map] at done
      | ok rest' =>
        simp only [inner, Except.map, Except.ok.injEq] at done
        subst done
        intro found member
        rcases List.mem_append.mp member with head | tail
        · exact found_of_resolve first found head
        · exact found_of_resolveAll inner found tail

end

end Expr

/-! ## Written form -/

namespace Expr

variable (name : ρ → String)

/-- Whether a body needs parentheses where an item is expected. -/
def isLongSequence : Expr ρ → Bool
  | .seq (_ :: _ :: _) => true
  | _ => false

def parenthesized (needed : Bool) (text : List Char) : List Char :=
  if needed then '(' :: text ++ [')'] else text

mutual

/-- The form in which a body is read from a grammar text. -/
def write : Expr ρ → List Char
  | .terminal pattern => pattern.display.toList
  | .ref target => (name target).toList
  | .seq items => writeItems items
  | .opt body => parenthesized body.isLongSequence body.write ++ ['?']
  | .star body => parenthesized body.isLongSequence body.write ++ ['*']
  | .plus body => parenthesized body.isLongSequence body.write ++ ['+']
  | .longest alternatives => '(' :: writeAlternatives alternatives ++ [')']

/-- Items with a space between them. -/
def writeItems : List (Expr ρ) → List Char
  | [] => []
  | [item] => parenthesized item.isLongSequence item.write
  | item :: rest =>
    parenthesized item.isLongSequence item.write ++ ' ' :: writeItems rest

/-- Alternatives with a bar between them. -/
def writeAlternatives : List (Expr ρ) → List Char
  | [] => []
  | [alternative] => alternative.write
  | alternative :: rest => alternative.write ++ ' ' :: '|' :: ' ' :: writeAlternatives rest

end

def display (body : Expr ρ) : String := String.ofList (body.write name)

end Expr

def Rule.write (name : ρ → String) (rule : Rule ρ) : List Char :=
  rule.name.toList ++ " -> ".toList ++ rule.body.write name ++ [';']

end Constituency
