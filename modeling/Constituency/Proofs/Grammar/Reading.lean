import Constituency.Proofs.Grammar.Bodies

/-!
# Reading grammar texts

The reader accepts exactly the language of grammar texts, and what it gives is what the text says.
A statement is told from the next by its semicolon, a directive from a rule by its percent sign, and
each statement takes up at least one character, so the length of the text bounds their number.
-/
namespace Constituency.GrammarText

open Constituency.Text

/-! ### Statements -/

theorem bodyAt_of_readBody {text rest : List Char} {body : Expr String}
    (done : readBody text = .ok (body, rest)) :
    ∃ behind, BodyAt text body behind ∧ Gap behind rest := by
  obtain ⟨⟨alternatives, next⟩, read, done⟩ := bind_eq_ok_iff.mp done
  obtain ⟨rfl, rfl⟩ := Prod.mk.inj (Except.ok.inj done)
  obtain ⟨behind, derived, gap⟩ := alternativesAt_of_read read
  exact ⟨behind, bodyAt_iff.mpr ⟨alternatives, derived, rfl⟩, gap⟩

theorem readBody_eq {text behind rest : List Char} {body : Expr String}
    (derived : BodyAt text body behind) (gap : Gap behind (';' :: rest)) :
    readBody text = .ok (body, ';' :: rest) := by
  obtain ⟨alternatives, several, rfl⟩ := bodyAt_iff.mp derived
  have read : readAlternatives (3 * text.length + 3) text = .ok (alternatives, ';' :: rest) :=
    readAlternatives_eq several gap rfl (by simp) (Nat.le_refl _)
  simp [readBody, read, bind, Except.bind, pure, Except.pure]

theorem readRule_eq_ok_iff {text rest : List Char} {rule : Rule String} :
    readRule text = .ok (rule, rest) ↔ RuleAt text rule rest := by
  constructor
  · intro done
    obtain ⟨⟨name, behindName⟩, symbol, done⟩ := bind_eq_ok_iff.mp done
    obtain ⟨next, arrow, done⟩ := bind_eq_ok_iff.mp done
    obtain ⟨⟨body, behind⟩, read, done⟩ := bind_eq_ok_iff.mp done
    obtain ⟨last, close, done⟩ := bind_eq_ok_iff.mp done
    obtain ⟨rfl, rfl⟩ := Prod.mk.inj (Except.ok.inj done)
    have symbol := readSymbol_eq_ok_iff.mp (mapError_eq_ok_iff.mp symbol)
    have arrow := readArrow_eq_ok_iff.mp (mapError_eq_ok_iff.mp arrow)
    have close := readChar_eq_ok_iff.mp (mapError_eq_ok_iff.mp close)
    obtain ⟨ends, derived, gap⟩ := bodyAt_of_readBody (mapError_eq_ok_iff.mp read)
    have first := (gap_skipBlank behindName).1
    have second := gap.trans (gap_skipBlank behind).1
    rw [arrow] at first
    rw [close] at second
    exact .intro symbol first derived second
  · rintro ⟨symbol, arrow, inside, close⟩
    rename_i behindName next behind name body
    have named := readSymbol_eq_ok_iff.mpr symbol
    have settled : skipBlank behindName = '-' :: '>' :: next := arrow.skipBlank_eq
    have read := readBody_eq inside close
    have last : skipBlank (';' :: rest) = ';' :: rest := rfl
    simp [readRule, named, settled, readArrow, read, last, readChar, bind, Except.bind,
      Except.mapError, pure, Except.pure]

theorem symbolsAt_of_read {room : Nat} {text rest : List Char} {symbols : List String}
    (done : readSymbols room text = .ok (symbols, rest)) :
    ∃ behind, SymbolsAt text symbols behind ∧ Gap behind (';' :: rest) := by
  induction room generalizing text symbols with
  | zero => simp [readSymbols, missing] at done
  | succ room ih =>
    have gap := (gap_skipBlank text).1
    rw [readSymbols] at done
    split at done
    next settled =>
      obtain ⟨rfl, rfl⟩ := Prod.mk.inj (Except.ok.inj done)
      rw [settled] at gap
      exact ⟨text, .none text, gap⟩
    next =>
      obtain ⟨⟨symbol, next⟩, first, done⟩ := bind_eq_ok_iff.mp done
      obtain ⟨⟨others, last⟩, more, done⟩ := bind_eq_ok_iff.mp done
      obtain ⟨rfl, rfl⟩ := Prod.mk.inj (Except.ok.inj done)
      obtain ⟨behind, derived, close⟩ := ih more
      exact ⟨behind, .more gap (readSymbol_eq_ok_iff.mp first) derived, close⟩

theorem readSymbols_eq {room : Nat} {text behind rest : List Char} {symbols : List String}
    (derived : SymbolsAt text symbols behind) (close : Gap behind (';' :: rest))
    (enough : text.length < room) : readSymbols room text = .ok (symbols, rest) := by
  induction derived generalizing room with
  | none =>
    obtain ⟨room, rfl⟩ := Nat.exists_eq_add_one_of_ne_zero (Nat.ne_zero_of_lt enough)
    have settled : skipBlank _ = ';' :: rest := close.skipBlank_eq
    simp [readSymbols, settled]
  | more gap first others ih =>
    obtain ⟨room, rfl⟩ := Nat.exists_eq_add_one_of_ne_zero (Nat.ne_zero_of_lt enough)
    have begins := AtomAt.begins (.symbol first)
    have settled := gap.skipBlank_eq.trans (skipBlank_of_not_beginsGap begins.1)
    have shorter := gap.length_le
    have passed := first.length_lt
    rw [readSymbols, settled]
    split
    next => exact absurd begins.2.1 (by simp [endsSequence])
    next =>
      rw [readSymbol_eq_ok_iff.mpr first]
      simp [bind, Except.bind, ih close (show _ < room by omega), pure, Except.pure]

theorem directiveOf_eq_ok_iff {name : String} {arguments : List String} {directive : Directive} :
    directiveOf name arguments = .ok directive ↔ Directs name arguments directive := by
  constructor
  · intro done
    unfold directiveOf at done
    split at done
    next equal =>
      subst equal
      split at done
      next => exact Except.ok.inj done ▸ .start _
      next => contradiction
    next =>
      split at done
      next equal => exact equal ▸ Except.ok.inj done ▸ .flatten _
      next =>
        split at done
        next equal => exact equal ▸ Except.ok.inj done ▸ .hide _
        next => contradiction
  · rintro (_ | _ | _) <;> simp [directiveOf]

theorem readDirective_eq_ok_iff {text rest : List Char} {directive : Directive} :
    readDirective text = .ok (directive, rest) ↔ DirectiveAt ('%' :: text) directive rest := by
  constructor
  · intro done
    obtain ⟨⟨name, behindName⟩, named, done⟩ := bind_eq_ok_iff.mp done
    obtain ⟨⟨arguments, last⟩, read, done⟩ := bind_eq_ok_iff.mp done
    obtain ⟨directive', form, done⟩ := bind_eq_ok_iff.mp done
    obtain ⟨rfl, rfl⟩ := Prod.mk.inj (Except.ok.inj done)
    have named := readName_eq_ok_iff.mp (mapError_eq_ok_iff.mp named)
    obtain ⟨behind, symbols, close⟩ := symbolsAt_of_read (mapError_eq_ok_iff.mp read)
    exact .intro named symbols close (directiveOf_eq_ok_iff.mp form)
  · rintro ⟨named, symbols, close, form⟩
    have name := readName_eq_ok_iff.mpr named
    have read := readSymbols_eq symbols close (Nat.lt_succ_self _)
    have form := directiveOf_eq_ok_iff.mpr form
    simp [readDirective, name, read, form, bind, Except.bind, Except.mapError, pure, Except.pure]

theorem begins_of_symbolAt {text rest : List Char} {name : String}
    (symbol : SymbolAt text name rest) : beginsGap text = false ∧ text.head? ≠ some '%' := by
  refine ⟨(AtomAt.begins (.symbol symbol)).1, fun percent => ?_⟩
  obtain ⟨behind, rfl⟩ := List.head?_eq_some_iff.mp percent
  exact absurd (wordAt_cons_iff.mp symbol).1 (by decide)

theorem RuleAt.begins {text rest : List Char} {rule : Rule String}
    (derived : RuleAt text rule rest) : beginsGap text = false ∧ text.head? ≠ some '%' := by
  obtain ⟨symbol, -, -, -⟩ := derived
  exact begins_of_symbolAt symbol

theorem DirectiveAt.begins {text rest : List Char} {directive : Directive}
    (derived : DirectiveAt text directive rest) : ∃ behind, text = '%' :: behind := by
  obtain ⟨-, -, -, -⟩ := derived
  exact ⟨_, rfl⟩

theorem says_of_readStatements {room : Nat} {text : List Char} {said : GrammarText}
    (done : readStatements room text = .ok said) (enough : text.length < room) :
    Says text said := by
  induction room generalizing text said with
  | zero => omega
  | succ room ih =>
    have gap := (gap_skipBlank text).1
    have shorter := gap.length_le
    rw [readStatements] at done
    split at done
    next settled =>
      obtain rfl := Except.ok.inj done
      rw [settled] at gap
      exact .nothing gap
    next rest settled =>
      obtain ⟨⟨directive, behind⟩, first, done⟩ := bind_eq_ok_iff.mp done
      obtain ⟨others, more, done⟩ := bind_eq_ok_iff.mp done
      obtain rfl := Except.ok.inj done
      have first := readDirective_eq_ok_iff.mp first
      have passed := first.length_lt
      rw [settled] at gap shorter
      exact .directive gap first (ih more (by omega))
    next =>
      obtain ⟨⟨rule, behind⟩, first, done⟩ := bind_eq_ok_iff.mp done
      obtain ⟨others, more, done⟩ := bind_eq_ok_iff.mp done
      obtain rfl := Except.ok.inj done
      have first := readRule_eq_ok_iff.mp first
      have passed := first.length_lt
      exact .rule gap first (ih more (by omega))

theorem readStatements_eq {room : Nat} {text : List Char} {said : GrammarText}
    (derived : Says text said) (enough : text.length < room) :
    readStatements room text = .ok said := by
  induction derived generalizing room with
  | nothing gap =>
    obtain ⟨room, rfl⟩ := Nat.exists_eq_add_one_of_ne_zero (Nat.ne_zero_of_lt enough)
    have settled : skipBlank _ = [] := gap.skipBlank_eq
    simp [readStatements, settled]
  | rule gap first others ih =>
    obtain ⟨room, rfl⟩ := Nat.exists_eq_add_one_of_ne_zero (Nat.ne_zero_of_lt enough)
    have shorter := gap.length_le
    have passed := first.length_lt
    have read := readRule_eq_ok_iff.mpr first
    obtain ⟨begins, noPercent⟩ := first.begins
    have settled := gap.skipBlank_eq.trans (skipBlank_of_not_beginsGap begins)
    rw [readStatements, settled]
    split
    next => exact absurd passed (Nat.not_lt_zero _)
    next => exact absurd rfl noPercent
    next => simp [read, ih (show _ < room by omega), bind, Except.bind, pure, Except.pure]
  | directive gap first others ih =>
    obtain ⟨room, rfl⟩ := Nat.exists_eq_add_one_of_ne_zero (Nat.ne_zero_of_lt enough)
    have shorter := gap.length_le
    have passed := first.length_lt
    obtain ⟨behind, rfl⟩ := first.begins
    have read := readDirective_eq_ok_iff.mpr first
    have settled : skipBlank _ = '%' :: behind := gap.skipBlank_eq
    simp [readStatements, settled, read, ih (show _ < room by omega), bind, Except.bind, pure,
      Except.pure]

/-! ### The end of the reading -/

theorem readSymbols_succ {room : Nat} {text : List Char} (enough : text.length < room) :
    readSymbols (room + 1) text = readSymbols room text := by
  induction room generalizing text with
  | zero => omega
  | succ room ih =>
    rw [readSymbols, readSymbols]
    have shorter := (gap_skipBlank text).1.length_le
    split
    next => rfl
    next =>
      cases read : readSymbol (skipBlank text) with
      | error what => rfl
      | ok result =>
        obtain ⟨symbol, rest⟩ := result
        have passed := (readSymbol_eq_ok_iff.mp read).length_lt
        simp only [bind, Except.bind]
        rw [ih (by omega)]

theorem readStatements_succ {room : Nat} {text : List Char} (enough : text.length < room) :
    readStatements (room + 1) text = readStatements room text := by
  induction room generalizing text with
  | zero => omega
  | succ room ih =>
    rw [readStatements, readStatements]
    have shorter := (gap_skipBlank text).1.length_le
    split
    next => rfl
    next rest settled =>
      cases read : readDirective rest with
      | error error => rfl
      | ok result =>
        obtain ⟨directive, behind⟩ := result
        have passed := (readDirective_eq_ok_iff.mp read).length_lt
        rw [settled] at shorter
        simp only [bind, Except.bind]
        rw [ih (by omega)]
    next =>
      cases read : readRule (skipBlank text) with
      | error error => rfl
      | ok result =>
        obtain ⟨rule, behind⟩ := result
        have passed := (readRule_eq_ok_iff.mp read).length_lt
        simp only [bind, Except.bind]
        rw [ih (by omega)]

/-- The room from which on a reader gives the same answer is enough for it. -/
private theorem eq_of_succ {α : Type} (answer : Nat → α) {bound : Nat}
    (same : ∀ room, bound ≤ room → answer (room + 1) = answer room) {room : Nat}
    (enough : bound ≤ room) : answer room = answer bound := by
  induction room, enough using Nat.le_induction with
  | base => rfl
  | succ room enough ih => rw [same room enough, ih]

theorem says_of_read {text : List Char} {said : GrammarText} (done : read text = .ok said) :
    Says text said :=
  says_of_readStatements done (Nat.lt_succ_self _)

theorem Says.read_eq {text : List Char} {said : GrammarText} (derived : Says text said) :
    read text = .ok said :=
  readStatements_eq derived (Nat.lt_succ_self _)

/--
The reader accepts exactly the texts of the language, and gives what they say. It ends on every text
by itself: where it reads statements, symbols or alternatives, more room for the recursion never
changes the answer, so no answer is due to a lack of room.
-/
theorem read_eq_ok_iff (text : List Char) :
    (∀ said, read text = .ok said ↔ Says text said) ∧
    (∀ room, text.length < room → readStatements room text = read text) ∧
    (∀ room, text.length < room →
      readSymbols room text = readSymbols (text.length + 1) text) ∧
    (∀ room, 3 * text.length + 3 ≤ room →
      readAlternatives room text = readAlternatives (3 * text.length + 3) text) := by
  refine ⟨fun said => ⟨says_of_read, Says.read_eq⟩, ?_, ?_, ?_⟩
  · intro room enough
    exact eq_of_succ (readStatements · text) (fun _ within => readStatements_succ within) enough
  · intro room enough
    exact eq_of_succ (readSymbols · text) (fun _ within => readSymbols_succ within) enough
  · intro room enough
    exact eq_of_succ (readAlternatives · text) (fun _ within => readAlternatives_succ within) enough

end Constituency.GrammarText
