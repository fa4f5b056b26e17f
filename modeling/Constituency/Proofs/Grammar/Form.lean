import Constituency.Proofs.Grammar.Language

/-!
# The form of bodies

What a body has to look like for its written form to be in the language of grammar texts, and what
a change of its references leaves alone. A resolved body with the names of its references in their
place is the body that was resolved.
-/
namespace Constituency

open Constituency.Text

variable {ρ σ : Type}

namespace Expr

/-! ### Bodies that can be written -/

def isSuffixed : Expr ρ → Bool
  | .opt _ => true
  | .star _ => true
  | .plus _ => true
  | _ => false

mutual

/-- Whether no suffix is applied to a body that has a suffix itself. -/
def isUnstacked : Expr ρ → Bool
  | .terminal _ => true
  | .ref _ => true
  | .seq items => areUnstacked items
  | .opt body => !body.isSuffixed && body.isUnstacked
  | .star body => !body.isSuffixed && body.isUnstacked
  | .plus body => !body.isSuffixed && body.isUnstacked
  | .longest alternatives => areUnstacked alternatives

def areUnstacked : List (Expr ρ) → Bool
  | [] => true
  | item :: rest => item.isUnstacked && areUnstacked rest

end

theorem isUnstacked_suffixed {body : Expr ρ} : (!body.isSuffixed && body.isUnstacked) = true ↔
    body.isSuffixed = false ∧ body.isUnstacked = true := by
  simp

theorem areUnstacked_cons {item : Expr ρ} {rest : List (Expr ρ)} :
    areUnstacked (item :: rest) = true ↔ item.isUnstacked = true ∧ areUnstacked rest = true := by
  simp [areUnstacked]

mutual

/--
Whether the parts of a body have the form that they have in texts: a pattern can stand between
slashes, and sequences and choices have at least two parts.
-/
def IsFormed : Expr ρ → Prop
  | .terminal pattern => GrammarText.IsSource pattern.source.toList
  | .ref _ => True
  | .seq items => 2 ≤ items.length ∧ AreFormed items
  | .opt body => body.IsFormed
  | .star body => body.IsFormed
  | .plus body => body.IsFormed
  | .longest alternatives => 2 ≤ alternatives.length ∧ AreFormed alternatives

def AreFormed : List (Expr ρ) → Prop
  | [] => True
  | item :: rest => item.IsFormed ∧ AreFormed rest

end

instance (source : List Char) : Decidable (GrammarText.IsSource source) :=
  decidable_of_iff (source ≠ [] ∧ '/' ∉ source ∧ '\n' ∉ source)
    ⟨fun ⟨nonempty, noSlash, oneLine⟩ => ⟨nonempty, noSlash, oneLine⟩,
      fun form => ⟨form.nonempty, form.noSlash, form.oneLine⟩⟩

mutual

def decideIsFormed : (body : Expr ρ) → Decidable body.IsFormed
  | .terminal pattern =>
    inferInstanceAs (Decidable (GrammarText.IsSource pattern.source.toList))
  | .ref _ => .isTrue trivial
  | .seq items => @instDecidableAnd _ _ _ (decideAreFormed items)
  | .opt body => decideIsFormed body
  | .star body => decideIsFormed body
  | .plus body => decideIsFormed body
  | .longest alternatives => @instDecidableAnd _ _ _ (decideAreFormed alternatives)

def decideAreFormed : (items : List (Expr ρ)) → Decidable (AreFormed items)
  | [] => .isTrue trivial
  | item :: rest => @instDecidableAnd _ _ (decideIsFormed item) (decideAreFormed rest)

end

instance (body : Expr ρ) : Decidable body.IsFormed := decideIsFormed body

/-! ### Other references -/

mutual

/-- The same body with other references. -/
def mapRefs (change : ρ → σ) : Expr ρ → Expr σ
  | .terminal pattern => .terminal pattern
  | .ref target => .ref (change target)
  | .seq items => .seq (mapRefsAll change items)
  | .opt body => .opt (body.mapRefs change)
  | .star body => .star (body.mapRefs change)
  | .plus body => .plus (body.mapRefs change)
  | .longest alternatives => .longest (mapRefsAll change alternatives)

def mapRefsAll (change : ρ → σ) : List (Expr ρ) → List (Expr σ)
  | [] => []
  | item :: rest => item.mapRefs change :: mapRefsAll change rest

end

mutual

/-- Resolving undoes a change of references that can be found again. -/
theorem resolve_mapRefs {change : ρ → σ} {find : σ → Option ρ} {body : Expr ρ}
    (found : ∀ target ∈ body.references, find (change target) = some target) :
    (body.mapRefs change).resolve find = .ok body := by
  cases body with
  | terminal pattern => rfl
  | ref target => simp [mapRefs, resolve, found target (List.mem_singleton_self _)]
  | seq items => simp [mapRefs, resolve, resolveAll_mapRefsAll found, Except.map]
  | longest alternatives => simp [mapRefs, resolve, resolveAll_mapRefsAll found, Except.map]
  | opt body =>
    have inner : (body.mapRefs change).resolve find = .ok body := resolve_mapRefs found
    simp [mapRefs, resolve, inner, Except.map]
  | star body =>
    have inner : (body.mapRefs change).resolve find = .ok body := resolve_mapRefs found
    simp [mapRefs, resolve, inner, Except.map]
  | plus body =>
    have inner : (body.mapRefs change).resolve find = .ok body := resolve_mapRefs found
    simp [mapRefs, resolve, inner, Except.map]

theorem resolveAll_mapRefsAll {change : ρ → σ} {find : σ → Option ρ} {items : List (Expr ρ)}
    (found : ∀ target ∈ referencesAll items, find (change target) = some target) :
    resolveAll find (mapRefsAll change items) = .ok items := by
  cases items with
  | nil => rfl
  | cons item rest =>
    have head : (item.mapRefs change).resolve find = .ok item :=
      resolve_mapRefs fun target member => found target (List.mem_append_left _ member)
    have tail : resolveAll find (mapRefsAll change rest) = .ok rest :=
      resolveAll_mapRefsAll fun target member => found target (List.mem_append_right _ member)
    simp [mapRefsAll, resolveAll, head, tail, Except.map]

end

mutual

/-- A body stays as it is if its references do. -/
theorem mapRefs_self {change : ρ → ρ} {body : Expr ρ}
    (same : ∀ target ∈ body.references, change target = target) : body.mapRefs change = body := by
  cases body with
  | terminal pattern => rfl
  | ref target => simp [mapRefs, same target (by simp [references])]
  | seq items => rw [mapRefs, mapRefsAll_self same]
  | longest alternatives => rw [mapRefs, mapRefsAll_self same]
  | opt body =>
    have inner : body.mapRefs change = body := mapRefs_self same
    rw [mapRefs, inner]
  | star body =>
    have inner : body.mapRefs change = body := mapRefs_self same
    rw [mapRefs, inner]
  | plus body =>
    have inner : body.mapRefs change = body := mapRefs_self same
    rw [mapRefs, inner]

theorem mapRefsAll_self {change : ρ → ρ} {items : List (Expr ρ)}
    (same : ∀ target ∈ referencesAll items, change target = target) :
    mapRefsAll change items = items := by
  cases items with
  | nil => rfl
  | cons item rest =>
    rw [referencesAll, List.forall_mem_append] at same
    rw [mapRefsAll, mapRefs_self same.1, mapRefsAll_self same.2]

end

mutual

theorem mapRefs_mapRefs {τ : Type} (first : ρ → σ) (second : σ → τ) (body : Expr ρ) :
    (body.mapRefs first).mapRefs second = body.mapRefs (second ∘ first) := by
  cases body with
  | terminal pattern => rfl
  | ref target => rfl
  | seq items => rw [mapRefs, mapRefs, mapRefs, mapRefsAll_mapRefsAll first second items]
  | longest alternatives =>
    rw [mapRefs, mapRefs, mapRefs, mapRefsAll_mapRefsAll first second alternatives]
  | opt body => rw [mapRefs, mapRefs, mapRefs, mapRefs_mapRefs first second body]
  | star body => rw [mapRefs, mapRefs, mapRefs, mapRefs_mapRefs first second body]
  | plus body => rw [mapRefs, mapRefs, mapRefs, mapRefs_mapRefs first second body]

theorem mapRefsAll_mapRefsAll {τ : Type} (first : ρ → σ) (second : σ → τ)
    (items : List (Expr ρ)) :
    mapRefsAll second (mapRefsAll first items) = mapRefsAll (second ∘ first) items := by
  cases items with
  | nil => rfl
  | cons item rest =>
    rw [mapRefsAll, mapRefsAll, mapRefs_mapRefs first second item,
      mapRefsAll_mapRefsAll first second rest, mapRefsAll]

end

mutual

theorem references_mapRefs (change : ρ → σ) (body : Expr ρ) :
    (body.mapRefs change).references = body.references.map change := by
  cases body with
  | terminal pattern => rfl
  | ref target => rfl
  | seq items => exact referencesAll_mapRefsAll change items
  | longest alternatives => exact referencesAll_mapRefsAll change alternatives
  | opt body => exact references_mapRefs change body
  | star body => exact references_mapRefs change body
  | plus body => exact references_mapRefs change body

theorem referencesAll_mapRefsAll (change : ρ → σ) (items : List (Expr ρ)) :
    referencesAll (mapRefsAll change items) = (referencesAll items).map change := by
  cases items with
  | nil => rfl
  | cons item rest =>
    rw [mapRefsAll, referencesAll, references_mapRefs change item,
      referencesAll_mapRefsAll change rest, ← List.map_append, referencesAll]

end

@[simp] theorem length_mapRefsAll {change : ρ → σ} {items : List (Expr ρ)} :
    (mapRefsAll change items).length = items.length := by
  induction items with
  | nil => rfl
  | cons item rest ih => simp [mapRefsAll, ih]

mutual

theorem isFormed_of_mapRefs {change : ρ → σ} {body : Expr ρ}
    (formed : (body.mapRefs change).IsFormed) : body.IsFormed := by
  cases body with
  | terminal pattern => exact formed
  | ref target => trivial
  | seq items => exact ⟨by simpa using formed.1, areFormed_of_mapRefsAll formed.2⟩
  | longest items => exact ⟨by simpa using formed.1, areFormed_of_mapRefsAll formed.2⟩
  | opt body =>
    have inner : body.IsFormed := isFormed_of_mapRefs formed
    exact inner
  | star body =>
    have inner : body.IsFormed := isFormed_of_mapRefs formed
    exact inner
  | plus body =>
    have inner : body.IsFormed := isFormed_of_mapRefs formed
    exact inner

theorem areFormed_of_mapRefsAll {change : ρ → σ} {items : List (Expr ρ)}
    (formed : AreFormed (mapRefsAll change items)) : AreFormed items := by
  cases items with
  | nil => trivial
  | cons item rest => exact ⟨isFormed_of_mapRefs formed.1, areFormed_of_mapRefsAll formed.2⟩

end

mutual

/-- A change of references that undoes finding them undoes resolving. -/
theorem mapRefs_of_resolve {find : σ → Option ρ} {change : ρ → σ}
    (undoes : ∀ target found, find target = some found → change found = target)
    {body : Expr σ} {resolved : Expr ρ} (done : body.resolve find = .ok resolved) :
    resolved.mapRefs change = body := by
  cases body with
  | terminal pattern =>
    obtain rfl := Except.ok.inj done
    rfl
  | ref target =>
    simp only [resolve] at done
    split at done
    next found equal =>
      obtain rfl := Except.ok.inj done
      rw [mapRefs, undoes target found equal]
    next => contradiction
  | seq items =>
    obtain ⟨_, inner, rfl⟩ := map_eq_ok_iff.mp done
    rw [mapRefs, mapRefsAll_of_resolveAll undoes inner]
  | longest items =>
    obtain ⟨_, inner, rfl⟩ := map_eq_ok_iff.mp done
    rw [mapRefs, mapRefsAll_of_resolveAll undoes inner]
  | opt body =>
    obtain ⟨_, inner, rfl⟩ := map_eq_ok_iff.mp done
    rw [mapRefs, mapRefs_of_resolve undoes inner]
  | star body =>
    obtain ⟨_, inner, rfl⟩ := map_eq_ok_iff.mp done
    rw [mapRefs, mapRefs_of_resolve undoes inner]
  | plus body =>
    obtain ⟨_, inner, rfl⟩ := map_eq_ok_iff.mp done
    rw [mapRefs, mapRefs_of_resolve undoes inner]

theorem mapRefsAll_of_resolveAll {find : σ → Option ρ} {change : ρ → σ}
    (undoes : ∀ target found, find target = some found → change found = target)
    {items : List (Expr σ)} {resolved : List (Expr ρ)}
    (done : resolveAll find items = .ok resolved) : mapRefsAll change resolved = items := by
  cases items with
  | nil =>
    obtain rfl := Except.ok.inj done
    rfl
  | cons item rest =>
    simp only [resolveAll] at done
    split at done
    next => contradiction
    next first equal =>
      obtain ⟨_, inner, rfl⟩ := map_eq_ok_iff.mp done
      rw [mapRefsAll, mapRefs_of_resolve undoes equal, mapRefsAll_of_resolveAll undoes inner]

end

end Expr

end Constituency
