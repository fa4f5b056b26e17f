import Constituency.Proofs.Grammar.RoundTrip

/-!
# Printed grammars that cannot be read

The writer puts no parentheses around a body with a suffix, and the language allows one suffix
behind an atom. So nothing derives the written form of a body in which a suffix stands on a suffix:
behind the first of them an item would have to end, and neither an item nor the end of a sequence
begins with the second one.
-/
namespace Constituency

open Constituency.Text

variable {ρ : Type}

namespace GrammarText

/-! ### One reading -/

theorem AtomAt.unique {text rest rest' : List Char} {atom atom' : Expr String}
    (first : AtomAt text atom rest) (second : AtomAt text atom' rest') :
    atom = atom' ∧ rest = rest' := by
  have read := (readAtom_eq first (Nat.le_refl _)).symm.trans (readAtom_eq second (Nat.le_refl _))
  exact Prod.mk.inj (Except.ok.inj read)

theorem ItemAt.unique {text rest rest' : List Char} {item item' : Expr String}
    (first : ItemAt text item rest) (no : NoSuffix rest)
    (second : ItemAt text item' rest') (no' : NoSuffix rest') : rest = rest' := by
  obtain ⟨atom, behind, derived, suffixed⟩ := first.readSuffix_eq no
  obtain ⟨atom', behind', derived', suffixed'⟩ := second.readSuffix_eq no'
  obtain ⟨rfl, rfl⟩ := derived.unique derived'
  exact (Prod.mk.inj (suffixed.symm.trans suffixed')).2

theorem ItemsAt.unique {text behind behind' rest rest' : List Char}
    {items items' : List (Expr String)} (first : ItemsAt text items behind)
    (gap : Gap behind rest) (ends : endsSequence rest = true) (second : ItemsAt text items' behind')
    (gap' : Gap behind' rest') (ends' : endsSequence rest' = true) : rest = rest' := by
  have read := (readItems_eq first gap ends (Nat.le_refl _)).symm.trans
    (readItems_eq second gap' ends' (Nat.le_refl _))
  exact (Prod.mk.inj (Except.ok.inj read)).2

theorem AtomAt.inside {text rest : List Char} {body : Expr String}
    (derived : AtomAt ('(' :: text) body rest) :
    ∃ behind, BodyAt text body behind ∧ Gap behind (')' :: rest) := by
  generalize equal : '(' :: text = whole at derived
  cases derived with
  | symbol symbol =>
    rw [← equal] at symbol
    exact absurd (wordAt_cons_iff.mp symbol).1 (by decide)
  | pattern => simp at equal
  | group inside close =>
    obtain rfl := (List.cons.inj equal).2
    exact ⟨_, inside, close⟩

/-- The items of the first alternative, and what ends it. -/
theorem AlternativesAt.first {text behind rest : List Char} {alternatives : List (Expr String)}
    (derived : AlternativesAt text alternatives behind) (gap : Gap behind rest)
    (ends : endsSequence rest = true) :
    ∃ items behind' rest', ItemsAt text items behind' ∧ Gap behind' rest' ∧
      endsSequence rest' = true := by
  cases derived with
  | last only =>
    obtain ⟨items, -, derived, -⟩ := sequenceAt_iff.mp only
    exact ⟨items, behind, rest, derived, gap, ends⟩
  | more first bar others =>
    obtain ⟨items, -, derived, -⟩ := sequenceAt_iff.mp first
    exact ⟨items, _, _, derived, bar, rfl⟩

/-! ### Written bodies -/

section Bodies

variable {name : ρ → String}

/-- A body with a suffix is written as the body inside it and one mark. -/
theorem exists_inner {item : Expr ρ} (suffixed : item.isSuffixed = true) (fits : Fits name item) :
    ∃ body mark, isSuffix mark = true ∧ Fits name body ∧ sizeOf body < sizeOf item ∧
      item.isUnstacked = (!body.isSuffixed && body.isUnstacked) ∧
      ∀ rest, item.write name ++ rest =
        Expr.parenthesized body.isLongSequence (body.write name) ++ mark :: rest := by
  cases item with
  | opt body =>
    have inner : Fits name body := ⟨fits.formed, fits.symbols⟩
    exact ⟨body, '?', rfl, inner, by simp, rfl, by simp [Expr.write]⟩
  | star body =>
    have inner : Fits name body := ⟨fits.formed, fits.symbols⟩
    exact ⟨body, '*', rfl, inner, by simp, rfl, by simp [Expr.write]⟩
  | plus body =>
    have inner : Fits name body := ⟨fits.formed, fits.symbols⟩
    exact ⟨body, '+', rfl, inner, by simp, rfl, by simp [Expr.write]⟩
  | _ => contradiction

theorem breaks_of_isSuffix {mark : Char} {rest : List Char} (suffix : isSuffix mark = true) :
    Breaks (mark :: rest) := by
  refine breaks_cons ?_
  simp only [isSuffix, Bool.or_eq_true, beq_iff_eq] at suffix
  rcases suffix with (rfl | rfl) | rfl <;> rfl

theorem rest_of_readSuffix {mark : Char} {rest behind : List Char} {atom item : Expr String}
    (suffix : isSuffix mark = true) (read : readSuffix atom (mark :: rest) = (item, behind)) :
    behind = rest := by
  simp only [isSuffix, Bool.or_eq_true, beq_iff_eq] at suffix
  rcases suffix with (rfl | rfl) | rfl <;> exact (Prod.mk.inj read).2.symm

theorem parenthesized_of_isSuffixed {item : Expr ρ} (suffixed : item.isSuffixed = true) :
    Expr.parenthesized item.isLongSequence (item.write name) = item.write name := by
  cases item <;> first | contradiction | rfl

/-- A written item begins with something else than a gap or the end of a sequence. -/
theorem begins_write {item : Expr ρ} {rest : List Char} (fits : Fits name item)
    (breaks : Breaks rest) :
    beginsGap (Expr.parenthesized item.isLongSequence (item.write name) ++ rest) = false ∧
      endsSequence (Expr.parenthesized item.isLongSequence (item.write name) ++ rest) = false := by
  by_cases suffixed : item.isSuffixed = true
  · obtain ⟨body, mark, suffix, inner, smaller, -, equal⟩ := exists_inner suffixed fits
    rw [parenthesized_of_isSuffixed suffixed, equal]
    exact begins_write inner (breaks_of_isSuffix suffix)
  · cases item with
    | terminal pattern => exact (atomAt_write fits rfl rfl breaks).begins.imp_right And.left
    | ref target => exact (atomAt_write fits rfl rfl breaks).begins.imp_right And.left
    | seq items =>
      rw [Expr.isLongSequence_seq fits.items.2]
      exact ⟨rfl, rfl⟩
    | longest alternatives => exact ⟨rfl, rfl⟩
    | _ => exact absurd rfl suffixed
termination_by sizeOf item

/-- Where items are derived in front of a written item, the first of them begins with it. -/
theorem ItemsAt.first_of_write {item : Expr ρ} {text behind next rest : List Char}
    {items : List (Expr String)} (fits : Fits name item) (breaks : Breaks rest)
    (gap : Gap text (Expr.parenthesized item.isLongSequence (item.write name) ++ rest))
    (derived : ItemsAt text items behind) (close : Gap behind next)
    (ends : endsSequence next = true) :
    ∃ first others middle,
      ItemAt (Expr.parenthesized item.isLongSequence (item.write name) ++ rest) first middle ∧
      NoSuffix middle ∧ ItemsAt middle others behind := by
  obtain ⟨settled, stays⟩ := begins_write fits breaks
  cases derived with
  | none =>
    obtain rfl := gap.unique settled close (begins_of_endsSequence ends).1
    exact absurd ends (by simp [stays])
  | more before first others =>
    obtain rfl := gap.unique settled before first.begins.1
    exact ⟨_, _, _, first, others.noSuffix close (begins_of_endsSequence ends).2, others⟩

mutual

/--
Behind the atom of a body with suffixes stand all its marks, more than one if it is stacked. The
atom ends where the innermost body does, as nothing marks off the bodies in between.
-/
theorem marks_of_atomAt {item : Expr ρ} {rest behind : List Char} {atom : Expr String}
    (fits : Fits name item) (suffixed : item.isSuffixed = true)
    (derived : AtomAt (item.write name ++ rest) atom behind) :
    ∃ marks, (∀ mark ∈ marks, isSuffix mark = true) ∧ behind = marks ++ rest ∧
      (item.isUnstacked = true ∨ 2 ≤ marks.length) ∧ marks ≠ [] := by
  obtain ⟨body, mark, suffix, inner, smaller, same, equal⟩ := exists_inner suffixed fits
  rw [equal] at derived
  have breaks : Breaks (mark :: rest) := breaks_of_isSuffix suffix
  by_cases stacked : body.isSuffixed = true
  · rw [parenthesized_of_isSuffixed stacked] at derived
    obtain ⟨marks, all, rfl, -, some⟩ := marks_of_atomAt inner stacked derived
    have longer : 2 ≤ (marks ++ [mark]).length := by
      have := List.length_pos_iff.mpr some
      simp
      omega
    refine ⟨marks ++ [mark], ?_, by simp, .inr longer, by simp⟩
    simpa [or_imp, forall_and] using ⟨all, suffix⟩
  · have plain : body.isSuffixed = false := by simpa using stacked
    have unstacked := isUnstacked_of_atomAt inner plain derived
    obtain ⟨-, rfl⟩ := derived.unique (atomAt_write inner unstacked plain breaks)
    exact ⟨[mark], by simpa using suffix, rfl, .inl (by simp [same, plain, unstacked]), by simp⟩
termination_by 3 * sizeOf item

theorem isUnstacked_of_atomAt {body : Expr ρ} {rest behind : List Char} {atom : Expr String}
    (fits : Fits name body) (plain : body.isSuffixed = false)
    (derived : AtomAt (Expr.parenthesized body.isLongSequence (body.write name) ++ rest) atom
      behind) : body.isUnstacked = true := by
  cases body with
  | terminal pattern => rfl
  | ref target => rfl
  | seq items =>
    obtain ⟨fit, long⟩ := fits.items
    have group : AtomAt ('(' :: (Expr.writeItems name items ++ ')' :: rest)) atom behind := by
      simpa [Expr.parenthesized, Expr.isLongSequence_seq long, Expr.write] using derived
    obtain ⟨last, inside, close⟩ := group.inside
    obtain ⟨alternatives, several, -⟩ := bodyAt_iff.mp inside
    obtain ⟨items', _, _, listed, gap, ends⟩ := several.first close rfl
    exact areUnstacked_of_itemsAt fit (breaks_cons rfl) (.none _) listed gap ends
  | longest alternatives =>
    obtain ⟨fit, long⟩ := fits.alternatives
    have group : AtomAt ('(' :: (Expr.writeAlternatives name alternatives ++ ')' :: rest)) atom
        behind := by
      simpa [Expr.parenthesized, Expr.isLongSequence, Expr.write] using derived
    obtain ⟨last, inside, close⟩ := group.inside
    obtain ⟨alternatives', several, -⟩ := bodyAt_iff.mp inside
    exact areUnstacked_of_alternativesAt fit (breaks_cons rfl) (.none _) several close rfl (by simp)
  | opt body => contradiction
  | star body => contradiction
  | plus body => contradiction
termination_by 3 * sizeOf body

theorem isUnstacked_of_itemAt {item : Expr ρ} {rest behind : List Char} {derivedItem : Expr String}
    (fits : Fits name item)
    (derived : ItemAt (Expr.parenthesized item.isLongSequence (item.write name) ++ rest) derivedItem
      behind) (no : NoSuffix behind) : item.isUnstacked = true := by
  obtain ⟨atom, after, derived, read⟩ := derived.readSuffix_eq no
  by_cases suffixed : item.isSuffixed = true
  · rw [parenthesized_of_isSuffixed suffixed] at derived
    obtain ⟨marks, all, rfl, unstacked | longer, -⟩ := marks_of_atomAt fits suffixed derived
    · exact unstacked
    -- The item takes the first mark only, and no item may end in front of the second one.
    · match marks with
      | first :: second :: marks =>
        have left : behind = second :: (marks ++ rest) :=
          rest_of_readSuffix (all first (List.mem_cons_self ..)) read
        exact absurd (no second (by simp [left])) (by simp [all])
  · exact isUnstacked_of_atomAt fits (by simpa using suffixed) derived
termination_by 3 * sizeOf item + 1

theorem isUnstacked_of_sequenceAt {body : Expr ρ} {text rest behind next : List Char}
    {items : List (Expr String)} (fits : Fits name body) (breaks : Breaks rest)
    (gap : Gap text (body.write name ++ rest)) (derived : ItemsAt text items behind)
    (close : Gap behind next) (ends : endsSequence next = true) : body.isUnstacked = true := by
  by_cases long : body.isLongSequence = true
  · cases body with
    | seq items => exact areUnstacked_of_itemsAt fits.items.1 breaks gap derived close ends
    | _ => contradiction
  · have written : Gap text
        (Expr.parenthesized body.isLongSequence (body.write name) ++ rest) := by
      rwa [Expr.parenthesized, if_neg long]
    obtain ⟨_, _, _, first, no, -⟩ := derived.first_of_write fits breaks written close ends
    exact isUnstacked_of_itemAt fits first no
termination_by 3 * sizeOf body + 2

theorem areUnstacked_of_itemsAt {items : List (Expr ρ)} {text rest behind next : List Char}
    {derivedItems : List (Expr String)} (fit : FitAll name items) (breaks : Breaks rest)
    (gap : Gap text (Expr.writeItems name items ++ rest))
    (derived : ItemsAt text derivedItems behind) (close : Gap behind next)
    (ends : endsSequence next = true) : Expr.areUnstacked items = true := by
  match items with
  | [] => rfl
  | [item] =>
    obtain ⟨_, _, _, first, no, -⟩ := derived.first_of_write fit.head breaks gap close ends
    exact Expr.areUnstacked_cons.mpr ⟨isUnstacked_of_itemAt fit.head first no, rfl⟩
  | item :: second :: others =>
    have blank : Breaks (' ' :: (Expr.writeItems name (second :: others) ++ rest)) :=
      breaks_cons rfl
    have gap : Gap text (Expr.parenthesized item.isLongSequence (item.write name) ++
        ' ' :: (Expr.writeItems name (second :: others) ++ rest)) := by
      simpa [Expr.writeItems] using gap
    obtain ⟨_, _, middle, first, no, later⟩ :=
      derived.first_of_write fit.head blank gap close ends
    have unstacked := isUnstacked_of_itemAt fit.head first no
    -- The first item is as it should be, so it ends at the blank and the others begin behind it.
    have noBlank : NoSuffix (' ' :: (Expr.writeItems name (second :: others) ++ rest)) := by
      rintro _ ⟨⟩
      decide
    obtain rfl := first.unique no (itemAt_write fit.head unstacked blank) noBlank
    have others := areUnstacked_of_itemsAt fit.tail breaks (.space _) later close ends
    exact Expr.areUnstacked_cons.mpr ⟨unstacked, others⟩
termination_by 3 * sizeOf items

theorem areUnstacked_of_alternativesAt {alternatives : List (Expr ρ)}
    {text rest behind next : List Char} {derivedAlternatives : List (Expr String)}
    (fit : FitAll name alternatives) (breaks : Breaks rest)
    (gap : Gap text (Expr.writeAlternatives name alternatives ++ rest))
    (derived : AlternativesAt text derivedAlternatives behind) (close : Gap behind next)
    (ends : endsSequence next = true) (noBar : next.head? ≠ some '|') :
    Expr.areUnstacked alternatives = true := by
  match alternatives with
  | [] => rfl
  | [alternative] =>
    obtain ⟨_, _, _, listed, close, ends⟩ := derived.first close ends
    have unstacked := isUnstacked_of_sequenceAt fit.head breaks gap listed close ends
    exact Expr.areUnstacked_cons.mpr ⟨unstacked, rfl⟩
  | alternative :: second :: others =>
    have blank : Breaks (' ' :: '|' :: ' ' ::
        (Expr.writeAlternatives name (second :: others) ++ rest)) := breaks_cons rfl
    have gap : Gap text (alternative.write name ++ ' ' :: '|' :: ' ' ::
        (Expr.writeAlternatives name (second :: others) ++ rest)) := by
      simpa [Expr.writeAlternatives] using gap
    obtain ⟨_, _, _, listed, close', ends'⟩ := derived.first close ends
    have unstacked := isUnstacked_of_sequenceAt fit.head blank gap listed close' ends'
    obtain ⟨items, some, written, -⟩ :=
      sequenceAt_iff.mp (sequenceAt_write fit.head unstacked blank)
    have bar : Gap (' ' :: '|' :: ' ' :: (Expr.writeAlternatives name (second :: others) ++ rest))
        ('|' :: ' ' :: (Expr.writeAlternatives name (second :: others) ++ rest)) :=
      .space _
    -- The first alternative as written ends at its bar, so the derived one ends there too.
    cases derived with
    | last only =>
      obtain ⟨_, -, listed, -⟩ := sequenceAt_iff.mp only
      obtain rfl := listed.unique close ends (written.gap some gap) bar rfl
      exact absurd rfl noBar
    | more first bar' later =>
      obtain ⟨_, -, listed, -⟩ := sequenceAt_iff.mp first
      obtain rfl := (List.cons.inj (listed.unique bar' rfl (written.gap some gap) bar rfl)).2
      have others := areUnstacked_of_alternativesAt fit.tail breaks (.space _) later
        close ends noBar
      exact Expr.areUnstacked_cons.mpr ⟨unstacked, others⟩
termination_by 3 * sizeOf alternatives

end

end Bodies

/-! ### Written grammars -/

theorem RuleAt.unique {text rest rest' : List Char} {rule rule' : Rule String}
    (first : RuleAt text rule rest) (second : RuleAt text rule' rest') : rest = rest' := by
  have read := (readRule_eq_ok_iff.mpr first).symm.trans (readRule_eq_ok_iff.mpr second)
  exact (Prod.mk.inj (Except.ok.inj read)).2

theorem DirectiveAt.unique {text rest rest' : List Char} {directive directive' : Directive}
    (first : DirectiveAt text directive rest) (second : DirectiveAt text directive' rest') :
    rest = rest' := by
  obtain ⟨behind, rfl⟩ := first.begins
  have read := (readDirective_eq_ok_iff.mpr first).symm.trans (readDirective_eq_ok_iff.mpr second)
  exact (Prod.mk.inj (Except.ok.inj read)).2

/-- A derivation of statements goes on behind a gap. -/
theorem Says.drop {text rest : List Char} {said : GrammarText} (derived : Says text said)
    (gap : Gap text rest) : Says rest said := by
  cases derived with
  | nothing whole => exact .nothing (whole.remainder rfl gap)
  | rule before first others => exact .rule (before.remainder first.begins.1 gap) first others
  | directive before first others =>
    obtain ⟨behind, rfl⟩ := first.begins
    exact .directive (before.remainder rfl gap) first others

theorem Says.behind_directive {text rest : List Char} {said : GrammarText} {directive : Directive}
    (derived : Says text said) (line : DirectiveAt text directive rest) :
    ∃ others, Says rest others := by
  obtain ⟨behind, rfl⟩ := line.begins
  cases derived with
  | nothing gap => cases gap.eq_of_beginsGap rfl
  | rule gap first others =>
    obtain rfl := gap.eq_of_beginsGap rfl
    exact absurd rfl first.begins.2
  | directive gap first others =>
    obtain rfl := gap.eq_of_beginsGap rfl
    obtain rfl := first.unique line
    exact ⟨_, others⟩

theorem Says.first_rule {text behind : List Char} {said : GrammarText} {name : String}
    (derived : Says text said) (symbol : SymbolAt text name behind) :
    ∃ rule rest others, RuleAt text rule rest ∧ Says rest others := by
  obtain ⟨settled, noPercent⟩ := begins_of_symbolAt symbol
  cases derived with
  | nothing gap =>
    obtain rfl := gap.eq_of_beginsGap settled
    exact absurd symbol not_wordAt_nil
  | rule gap first others =>
    obtain rfl := gap.eq_of_beginsGap settled
    exact ⟨_, _, _, first, others⟩
  | directive gap first others =>
    obtain rfl := gap.eq_of_beginsGap settled
    obtain ⟨behind, rfl⟩ := first.begins
    exact absurd rfl noPercent

theorem isUnstacked_of_ruleAt {name : ρ → String} {rule : Rule ρ} {rest behind : List Char}
    {derivedRule : Rule String} (symbol : isSymbol rule.name.toList = true)
    (fits : Fits name rule.body) (derived : RuleAt (rule.write name ++ rest) derivedRule behind) :
    rule.body.isUnstacked = true := by
  obtain ⟨named, arrow, inside, close⟩ := derived
  obtain rfl := named.unique (symbolAt_write symbol rest)
  obtain rfl := (List.cons.inj (List.cons.inj (arrow.unique rfl (.space _) rfl)).2).2
  obtain ⟨alternatives, several, -⟩ := bodyAt_iff.mp inside
  obtain ⟨_, _, _, listed, gap, ends⟩ := several.first close rfl
  exact isUnstacked_of_sequenceAt fits (breaks_cons rfl) (.space _) listed gap ends

theorem areUnstacked_of_says {name : ρ → String} {rules : List (Rule ρ)} {said : GrammarText}
    (symbols : ∀ rule ∈ rules, isSymbol rule.name.toList = true)
    (fits : ∀ rule ∈ rules, Fits name rule.body)
    (derived : Says (String.join
      (rules.map fun rule => String.ofList (rule.write name) ++ "\n")).toList said) :
    ∀ rule ∈ rules, rule.body.isUnstacked = true := by
  induction rules generalizing said with
  | nil => simp
  | cons rule others ih =>
    obtain ⟨symbol, symbols⟩ := List.forall_mem_cons.mp symbols
    obtain ⟨fit, fits⟩ := List.forall_mem_cons.mp fits
    have derived : Says (rule.write name ++ '\n' :: (String.join
        (others.map fun rule => String.ofList (rule.write name) ++ "\n")).toList) said := by
      simpa using derived
    obtain ⟨_, rest, later, first, behind⟩ := derived.first_rule (symbolAt_write symbol _)
    have unstacked := isUnstacked_of_ruleAt symbol fit first
    obtain rfl := first.unique (ruleAt_write symbol fit unstacked _)
    exact List.forall_mem_cons.mpr ⟨unstacked, ih symbols fits (behind.drop (.lineFeed _))⟩

end GrammarText

namespace Grammar

open GrammarText

theorem says_behind_labels {kind : String} {directive : List String → Directive}
    (form : ∀ labels, Directs kind labels (directive labels)) {set : LabelSet}
    (symbols : ∀ label ∈ set, isSymbol label.toList = true) {rest : List Char}
    {said : GrammarText} (derived : Says ((writeLabels kind set).toList ++ rest) said) :
    ∃ others, Says rest others := by
  cases listed : set.labels with
  | nil => exact ⟨said, by simpa [writeLabels, listed] using derived⟩
  | cons label labels =>
    have line := directiveAt_write (form set.labels) (listed ▸ List.cons_ne_nil _ _) symbols rest
    rw [listed] at line
    rw [writeLabels, listed] at derived
    obtain ⟨others, behind⟩ := derived.behind_directive line
    exact ⟨others, behind.drop (.lineFeed _)⟩

/-- A printed grammar in which a suffix stands on a suffix says nothing. -/
theorem isUnstacked_of_says {grammar : Grammar} (formed : grammar.IsFormed) {said : GrammarText}
    (derived : Says grammar.display.toList said) : grammar.IsUnstacked := by
  rw [toList_display] at derived
  obtain ⟨_, derived⟩ := derived.behind_directive (formed.startLine _)
  obtain ⟨_, derived⟩ := says_behind_labels .flatten formed.flatten (derived.drop (.lineFeed _))
  obtain ⟨_, derived⟩ := says_behind_labels .hide formed.hidden derived
  exact areUnstacked_of_says formed.names (fun _ member => formed.fits member) derived

end Grammar

end Constituency
