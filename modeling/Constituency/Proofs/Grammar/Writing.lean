import Constituency.Proofs.Grammar.Form

/-!
# Writing grammar texts

The written form of a body is in the language of grammar texts and stands for the same body, as long
as no suffix is applied to a body that has one already: the writer puts parentheses around sequences
only, and the language allows one suffix behind an atom.
-/
namespace Constituency

open Constituency.Text

variable {ρ : Type}

namespace Expr

theorem isLongSequence_seq {items : List (Expr ρ)} (long : 2 ≤ items.length) :
    (seq items).isLongSequence = true := by
  match items with
  | _ :: _ :: _ => rfl

end Expr

namespace GrammarText

theorem ItemsAt.several {text rest : List Char} {items : List (Expr String)}
    (derived : ItemsAt text items rest) (long : 2 ≤ items.length) :
    SequenceAt text (.seq items) rest := by
  match items with
  | _ :: _ :: _ => exact .several derived

theorem AlternativesAt.several {text rest : List Char} {alternatives : List (Expr String)}
    (derived : AlternativesAt text alternatives rest) (long : 2 ≤ alternatives.length) :
    BodyAt text (.longest alternatives) rest := by
  match alternatives with
  | _ :: _ :: _ => exact .several derived

/-! ### A gap in front -/

theorem ItemsAt.gap {text next rest : List Char} {items : List (Expr String)}
    (derived : ItemsAt next items rest) (some : items ≠ []) (gap : Gap text next) :
    ItemsAt text items rest := by
  cases derived with
  | none => exact absurd rfl some
  | more before first others => exact .more (gap.trans before) first others

theorem SequenceAt.gap {text next rest : List Char} {body : Expr String}
    (derived : SequenceAt next body rest) (gap : Gap text next) : SequenceAt text body rest := by
  cases derived with
  | single only => exact .single (only.gap (List.cons_ne_nil _ _) gap)
  | several items => exact .several (items.gap (List.cons_ne_nil _ _) gap)

theorem AlternativesAt.gap {text next rest : List Char} {alternatives : List (Expr String)}
    (derived : AlternativesAt next alternatives rest) (gap : Gap text next) :
    AlternativesAt text alternatives rest := by
  cases derived with
  | last only => exact .last (only.gap gap)
  | more first bar others => exact .more (first.gap gap) bar others

/-! ### Written bodies -/

section Bodies

variable {name : ρ → String}

/-- What is known of a body that is written: the form of its parts and of its references. -/
structure Fits (name : ρ → String) (body : Expr ρ) : Prop where
  formed : body.IsFormed
  symbols : ∀ target ∈ body.references, isSymbol (name target).toList = true

structure FitAll (name : ρ → String) (items : List (Expr ρ)) : Prop where
  formed : Expr.AreFormed items
  symbols : ∀ target ∈ Expr.referencesAll items, isSymbol (name target).toList = true

theorem FitAll.head {item : Expr ρ} {rest : List (Expr ρ)} (fit : FitAll name (item :: rest)) :
    Fits name item where
  formed := fit.formed.1
  symbols := fun target member => fit.symbols target (List.mem_append_left _ member)

theorem FitAll.tail {item : Expr ρ} {rest : List (Expr ρ)} (fit : FitAll name (item :: rest)) :
    FitAll name rest where
  formed := fit.formed.2
  symbols := fun target member => fit.symbols target (List.mem_append_right _ member)

theorem Fits.items {items : List (Expr ρ)} (fits : Fits name (.seq items)) :
    FitAll name items ∧ 2 ≤ items.length :=
  ⟨⟨fits.formed.2, fits.symbols⟩, fits.formed.1⟩

theorem Fits.alternatives {alternatives : List (Expr ρ)}
    (fits : Fits name (.longest alternatives)) :
    FitAll name alternatives ∧ 2 ≤ alternatives.length :=
  ⟨⟨fits.formed.2, fits.symbols⟩, fits.formed.1⟩

/-- The text does not go on with a symbol. -/
abbrev Breaks (rest : List Char) : Prop := ∀ c ∈ rest.head?, isSymbolChar c = false

theorem breaks_cons {c : Char} {rest : List Char} (no : isSymbolChar c = false) :
    Breaks (c :: rest) := by
  rintro _ ⟨⟩
  exact no

theorem symbolAt_of_isSymbol {symbol : String} {rest : List Char}
    (form : isSymbol symbol.toList = true) (breaks : Breaks rest) :
    SymbolAt (symbol.toList ++ rest) symbol rest := by
  have there : SymbolAt _ _ _ := .intro form breaks
  rwa [String.ofList_toList] at there

theorem atomAt_pattern {pattern : Pattern} {rest : List Char}
    (form : IsSource pattern.source.toList) :
    AtomAt (pattern.display.toList ++ rest) (.terminal pattern) rest := by
  have read : Pattern.read (String.ofList pattern.source.toList) = .ok pattern := by
    rw [String.ofList_toList, pattern.read_self]
  simpa [Pattern.display] using AtomAt.pattern form read

theorem ne_nil_of_two_le {items : List (Expr ρ)} (long : 2 ≤ items.length) :
    items ≠ [] := by
  rintro rfl
  contradiction

mutual

theorem atomAt_write {body : Expr ρ} {rest : List Char} (fits : Fits name body)
    (unstacked : body.isUnstacked = true) (plain : body.isSuffixed = false)
    (breaks : Breaks rest) :
    AtomAt (Expr.parenthesized body.isLongSequence (body.write name) ++ rest) (body.mapRefs name)
      rest := by
  cases body with
  | terminal pattern => exact atomAt_pattern fits.formed
  | ref target =>
    have form := fits.symbols target (List.mem_singleton_self _)
    exact .symbol (symbolAt_of_isSymbol form breaks)
  | seq items =>
    obtain ⟨fit, long⟩ := fits.items
    have inside : ItemsAt (Expr.writeItems name items ++ ')' :: rest) _ _ :=
      itemsAt_write fit unstacked (ne_nil_of_two_le long) (breaks_cons rfl)
    have group := AtomAt.group (.single (.last (inside.several (by simpa using long)))) (.none _)
    simpa [Expr.parenthesized, Expr.isLongSequence_seq long, Expr.write, Expr.mapRefs] using group
  | longest alternatives =>
    obtain ⟨fit, long⟩ := fits.alternatives
    have inside : AlternativesAt (Expr.writeAlternatives name alternatives ++ ')' :: rest) _ _ :=
      alternativesAt_write fit unstacked (ne_nil_of_two_le long) (breaks_cons rfl)
    have group := AtomAt.group (inside.several (by simpa using long)) (.none _)
    simpa [Expr.parenthesized, Expr.isLongSequence, Expr.write, Expr.mapRefs] using group
  | opt body => contradiction
  | star body => contradiction
  | plus body => contradiction
termination_by 3 * sizeOf body

theorem itemAt_write {item : Expr ρ} {rest : List Char} (fits : Fits name item)
    (unstacked : item.isUnstacked = true) (breaks : Breaks rest) :
    ItemAt (Expr.parenthesized item.isLongSequence (item.write name) ++ rest) (item.mapRefs name)
      rest := by
  cases item with
  | terminal pattern => exact .plain (atomAt_write fits unstacked rfl breaks)
  | ref target => exact .plain (atomAt_write fits unstacked rfl breaks)
  | seq items => exact .plain (atomAt_write fits unstacked rfl breaks)
  | longest alternatives => exact .plain (atomAt_write fits unstacked rfl breaks)
  | opt body =>
    have inner : Fits name body := ⟨fits.formed, fits.symbols⟩
    obtain ⟨plain, unstacked⟩ := Expr.isUnstacked_suffixed.mp unstacked
    have marked : Breaks ('?' :: rest) := breaks_cons rfl
    have item := ItemAt.opt (atomAt_write inner unstacked plain marked)
    simpa [Expr.parenthesized, Expr.isLongSequence, Expr.write, Expr.mapRefs] using item
  | star body =>
    have inner : Fits name body := ⟨fits.formed, fits.symbols⟩
    obtain ⟨plain, unstacked⟩ := Expr.isUnstacked_suffixed.mp unstacked
    have marked : Breaks ('*' :: rest) := breaks_cons rfl
    have item := ItemAt.star (atomAt_write inner unstacked plain marked)
    simpa [Expr.parenthesized, Expr.isLongSequence, Expr.write, Expr.mapRefs] using item
  | plus body =>
    have inner : Fits name body := ⟨fits.formed, fits.symbols⟩
    obtain ⟨plain, unstacked⟩ := Expr.isUnstacked_suffixed.mp unstacked
    have marked : Breaks ('+' :: rest) := breaks_cons rfl
    have item := ItemAt.plus (atomAt_write inner unstacked plain marked)
    simpa [Expr.parenthesized, Expr.isLongSequence, Expr.write, Expr.mapRefs] using item
termination_by 3 * sizeOf item + 1

/-- A sequence needs no parentheses where an alternative is expected. -/
theorem sequenceAt_write {body : Expr ρ} {rest : List Char} (fits : Fits name body)
    (unstacked : body.isUnstacked = true) (breaks : Breaks rest) :
    SequenceAt (body.write name ++ rest) (body.mapRefs name) rest := by
  by_cases long : body.isLongSequence = true
  · cases body with
    | seq items =>
      obtain ⟨fit, long⟩ := fits.items
      have inside := itemsAt_write fit unstacked (ne_nil_of_two_le long) breaks
      exact inside.several (by simpa using long)
    | _ => contradiction
  · have item := itemAt_write fits unstacked breaks
    rw [Expr.parenthesized, if_neg long] at item
    exact .single (.more (.none _) item (.none _))
termination_by 3 * sizeOf body + 2

theorem itemsAt_write {items : List (Expr ρ)} {rest : List Char} (fit : FitAll name items)
    (unstacked : Expr.areUnstacked items = true) (some : items ≠ []) (breaks : Breaks rest) :
    ItemsAt (Expr.writeItems name items ++ rest) (Expr.mapRefsAll name items) rest := by
  match items with
  | [item] =>
    obtain ⟨first, -⟩ := Expr.areUnstacked_cons.mp unstacked
    simpa [Expr.writeItems, Expr.mapRefsAll] using
      ItemsAt.more (.none _) (itemAt_write fit.head first breaks) (.none _)
  | item :: next :: others =>
    obtain ⟨first, later⟩ := Expr.areUnstacked_cons.mp unstacked
    have tail : ItemsAt (Expr.writeItems name (next :: others) ++ rest) _ _ :=
      itemsAt_write fit.tail later (List.cons_ne_nil _ _) breaks
    have blank : Breaks (' ' :: (Expr.writeItems name (next :: others) ++ rest)) := breaks_cons rfl
    have head := itemAt_write fit.head first blank
    have whole := ItemsAt.more (.none _) head (tail.gap (by simp [Expr.mapRefsAll]) (.space _))
    simpa [Expr.writeItems, Expr.mapRefsAll] using whole
termination_by 3 * sizeOf items

theorem alternativesAt_write {alternatives : List (Expr ρ)} {rest : List Char}
    (fit : FitAll name alternatives) (unstacked : Expr.areUnstacked alternatives = true)
    (some : alternatives ≠ []) (breaks : Breaks rest) :
    AlternativesAt (Expr.writeAlternatives name alternatives ++ rest)
      (Expr.mapRefsAll name alternatives) rest := by
  match alternatives with
  | [alternative] =>
    obtain ⟨first, -⟩ := Expr.areUnstacked_cons.mp unstacked
    simpa [Expr.writeAlternatives, Expr.mapRefsAll] using
      AlternativesAt.last (sequenceAt_write fit.head first breaks)
  | alternative :: next :: others =>
    obtain ⟨first, later⟩ := Expr.areUnstacked_cons.mp unstacked
    have tail : AlternativesAt (Expr.writeAlternatives name (next :: others) ++ rest) _ _ :=
      alternativesAt_write fit.tail later (List.cons_ne_nil _ _) breaks
    have blank : Breaks (' ' :: '|' :: ' ' ::
        (Expr.writeAlternatives name (next :: others) ++ rest)) := breaks_cons rfl
    have head := sequenceAt_write fit.head first blank
    have whole := AlternativesAt.more head (.space _) (tail.gap (.space _))
    simpa [Expr.writeAlternatives, Expr.mapRefsAll] using whole
termination_by 3 * sizeOf alternatives

end

end Bodies

end GrammarText

end Constituency
