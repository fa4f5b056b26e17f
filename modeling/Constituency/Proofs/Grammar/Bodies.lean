import Constituency.Proofs.Grammar.Language

/-!
# Reading bodies

The reader of alternatives gives what stands in front of a text, up to the end of the gap behind it.
What it gives was derived from the text, and whatever can be derived in front of an end is what it
gives: an item ends where no suffix stands, so its suffix is the one that the reader finds, and no
gap, item or end of a sequence begins as another of them does. The recursion needs room for three
calls to a character, and more room changes nothing.
-/
namespace Constituency.GrammarText

open Constituency.Text

/-! ### One for itself, several together -/

section Together

variable {text rest : List Char} {body : Expr String}

theorem sequenceAt_iff : SequenceAt text body rest ↔
    ∃ items, items ≠ [] ∧ ItemsAt text items rest ∧ sequenceOf items = body := by
  constructor
  · intro derived
    cases derived with
    | single only => exact ⟨_, List.cons_ne_nil _ _, only, rfl⟩
    | several items => exact ⟨_, List.cons_ne_nil _ _, items, rfl⟩
  · rintro ⟨items, some, derived, rfl⟩
    match items with
    | [] => exact absurd rfl some
    | [_] => exact .single derived
    | _ :: _ :: _ => exact .several derived

theorem bodyAt_iff : BodyAt text body rest ↔
    ∃ alternatives, AlternativesAt text alternatives rest ∧ choiceOf alternatives = body := by
  constructor
  · intro derived
    cases derived with
    | single only => exact ⟨_, only, rfl⟩
    | several alternatives => exact ⟨_, alternatives, rfl⟩
  · rintro ⟨alternatives, derived, rfl⟩
    match alternatives with
    | [] => cases derived
    | [_] => exact .single derived
    | _ :: _ :: _ => exact .several derived

end Together

/-! ### What is read was there -/

-- These go by the room: a reader that answers had room for the calls it made.

/-- The reader's way to tell where a pattern ends. -/
theorem atomAt_of_readTerminal {text behind rest : List Char} {atom : Expr String}
    (done : readTerminal text behind = .ok (atom, rest)) : AtomAt ('/' :: behind) atom rest := by
  have whole := behind.takeWhile_append_dropWhile (p := isPatternChar)
  unfold readTerminal at done
  split at done
  next first others rest' taken left =>
    dsimp only at done
    split at done
    next pattern read =>
      obtain ⟨rfl, rfl⟩ := Prod.mk.inj (Except.ok.inj done)
      rw [taken, left] at whole
      have inside : ∀ c ∈ first :: others, isPatternChar c = true := fun c member =>
        List.mem_takeWhile_imp (taken ▸ member)
      have form : IsSource (first :: others) :=
        ⟨List.cons_ne_nil _ _, fun slash => absurd (inside _ slash) (by decide),
          fun feed => absurd (inside _ feed) (by decide)⟩
      rw [← whole]
      exact .pattern form read
    next => contradiction
  next => contradiction

theorem itemAt_of_readSuffix {text behind : List Char} {atom : Expr String}
    (derived : AtomAt text atom behind) :
    ItemAt text (readSuffix atom behind).1 (readSuffix atom behind).2 := by
  unfold readSuffix
  split
  next => exact .opt derived
  next => exact .star derived
  next => exact .plus derived
  next => exact .plain derived

mutual

theorem alternativesAt_of_read {room : Nat} {text rest : List Char}
    {alternatives : List (Expr String)}
    (done : readAlternatives room text = .ok (alternatives, rest)) :
    ∃ behind, AlternativesAt text alternatives behind ∧ Gap behind rest := by
  match room with
  | 0 => simp [readAlternatives] at done
  | room + 1 =>
    rw [readAlternatives] at done
    obtain ⟨⟨items, next⟩, first, done⟩ := bind_eq_ok_iff.mp done
    obtain ⟨behind, derived, gap⟩ := itemsAt_of_read first
    dsimp only at done
    split at done
    next => contradiction
    next some =>
      have sequence : SequenceAt text (sequenceOf items) behind :=
        sequenceAt_iff.mpr ⟨items, by simpa using some, derived, rfl⟩
      split at done
      next next =>
        obtain ⟨⟨others, last⟩, more, done⟩ := bind_eq_ok_iff.mp done
        obtain ⟨rfl, rfl⟩ := Prod.mk.inj (Except.ok.inj done)
        obtain ⟨behind', derived', gap'⟩ := alternativesAt_of_read more
        exact ⟨behind', .more sequence gap derived', gap'⟩
      next =>
        obtain ⟨rfl, rfl⟩ := Prod.mk.inj (Except.ok.inj done)
        exact ⟨behind, .last sequence, gap⟩

theorem itemsAt_of_read {room : Nat} {text rest : List Char} {items : List (Expr String)}
    (done : readItems room text = .ok (items, rest)) :
    ∃ behind, ItemsAt text items behind ∧ Gap behind rest := by
  match room with
  | 0 => simp [readItems] at done
  | room + 1 =>
    rw [readItems] at done
    dsimp only at done
    split at done
    next =>
      obtain ⟨rfl, rfl⟩ := Prod.mk.inj (Except.ok.inj done)
      exact ⟨text, .none text, (gap_skipBlank text).1⟩
    next =>
      obtain ⟨⟨atom, next⟩, first, done⟩ := bind_eq_ok_iff.mp done
      obtain ⟨⟨others, last⟩, more, done⟩ := bind_eq_ok_iff.mp done
      obtain ⟨rfl, rfl⟩ := Prod.mk.inj (Except.ok.inj done)
      obtain ⟨behind, derived, gap⟩ := itemsAt_of_read more
      have item := itemAt_of_readSuffix (atomAt_of_read first)
      exact ⟨behind, .more (gap_skipBlank text).1 item derived, gap⟩

theorem atomAt_of_read {room : Nat} {text rest : List Char} {atom : Expr String}
    (done : readAtom room text = .ok (atom, rest)) : AtomAt text atom rest := by
  match room with
  | 0 => simp [readAtom] at done
  | room + 1 =>
    rw [readAtom.eq_def] at done
    dsimp only at done
    split at done
    next inside =>
      obtain ⟨⟨alternatives, next⟩, read, done⟩ := bind_eq_ok_iff.mp done
      obtain ⟨rest', closed, done⟩ := bind_eq_ok_iff.mp done
      obtain ⟨rfl, rfl⟩ := Prod.mk.inj (Except.ok.inj done)
      obtain ⟨behind, derived, gap⟩ := alternativesAt_of_read read
      have close := readChar_eq_ok_iff.mp (mapError_eq_ok_iff.mp closed)
      have there := gap.trans (gap_skipBlank next).1
      rw [close] at there
      exact .group (bodyAt_iff.mpr ⟨alternatives, derived, rfl⟩) there
    next inside => exact atomAt_of_readTerminal done
    next =>
      split at done
      next name rest' read =>
        obtain ⟨rfl, rfl⟩ := Prod.mk.inj (Except.ok.inj done)
        exact .symbol (readSymbol_eq_ok_iff.mp read)
      next => contradiction

end

/-! ### What is there is read -/

def isSuffix (c : Char) : Bool := c == '?' || c == '*' || c == '+'

/-- No suffix stands in front, so an item may end there. -/
def NoSuffix (text : List Char) : Prop := ∀ c ∈ text.head?, isSuffix c = false

theorem noSuffix_of_gap {text rest : List Char} (gap : Gap text rest) (no : NoSuffix rest) :
    NoSuffix text := by
  cases gap with
  | none => exact no
  | blank white =>
    rintro _ ⟨⟩
    by_contra suffix
    simp only [isSuffix, Bool.not_eq_false, Bool.or_eq_true, beq_iff_eq] at suffix
    rcases suffix with (rfl | rfl) | rfl <;> exact absurd white (by decide)
  | comment =>
    rintro _ ⟨⟩
    decide

theorem begins_of_endsSequence {rest : List Char} (ends : endsSequence rest = true) :
    beginsGap rest = false ∧ NoSuffix rest := by
  cases rest with
  | nil => exact ⟨rfl, by simp [NoSuffix]⟩
  | cons c rest =>
    simp only [endsSequence, Bool.or_eq_true, beq_iff_eq] at ends
    rcases ends with (rfl | rfl) | rfl <;> exact ⟨rfl, by rintro _ ⟨⟩; decide⟩

theorem isBlank_of_isAlpha {c : Char} (letter : c.isAlpha = true) : isBlank c = false :=
  isBlank_of_isNameChar (by simp [isNameChar, Char.isAlphanum, letter])

/-- An atom begins with something else than a gap, a suffix or the end of a sequence. -/
theorem AtomAt.begins {text rest : List Char} {atom : Expr String}
    (derived : AtomAt text atom rest) :
    beginsGap text = false ∧ endsSequence text = false ∧ NoSuffix text := by
  cases derived with
  | symbol symbol =>
    cases text with
    | nil => exact absurd symbol not_wordAt_nil
    | cons c others =>
      obtain ⟨letter, -, -⟩ := wordAt_cons_iff.mp symbol
      have letters : ∀ mark ∈ ['/', ';', '|', ')', '?', '*', '+'], mark.isAlpha = false := by
        simp
      have other : ∀ mark ∈ ['/', ';', '|', ')', '?', '*', '+'], c ≠ mark := by
        intro mark member equal
        exact absurd (equal ▸ letter) (by simp [letters mark member])
      refine ⟨beginsGap_eq_false (isBlank_of_isAlpha letter) ?_, ?_, ?_⟩
      · exact fun slash => absurd slash (other '/' (by decide))
      · simp [endsSequence, other]
      · rintro _ ⟨⟩
        simp [isSuffix, other]
  | @pattern source rest _ form =>
    obtain ⟨some, noSlash, -⟩ := form
    cases source with
    | nil => exact absurd rfl some
    | cons c source =>
      have other : c ≠ '/' := fun slash => noSlash (slash ▸ List.mem_cons_self ..)
      refine ⟨beginsGap_eq_false (by decide) ?_, rfl, ?_⟩
      · simpa using other
      · rintro _ ⟨⟩
        decide
  | group =>
    refine ⟨rfl, rfl, ?_⟩
    rintro _ ⟨⟩
    decide

theorem ItemAt.begins {text rest : List Char} {item : Expr String}
    (derived : ItemAt text item rest) :
    beginsGap text = false ∧ endsSequence text = false ∧ NoSuffix text := by
  cases derived with
  | plain atom => exact atom.begins
  | opt atom => exact atom.begins
  | star atom => exact atom.begins
  | plus atom => exact atom.begins

theorem ItemsAt.noSuffix {text behind rest : List Char} {items : List (Expr String)}
    (derived : ItemsAt text items behind) (gap : Gap behind rest) (no : NoSuffix rest) :
    NoSuffix text := by
  cases derived with
  | none => exact noSuffix_of_gap gap no
  | more before first => exact noSuffix_of_gap before first.begins.2.2

/-- Where no suffix stands behind it, the suffix of an item is the one that the reader finds. -/
theorem ItemAt.readSuffix_eq {text rest : List Char} {item : Expr String}
    (derived : ItemAt text item rest) (no : NoSuffix rest) :
    ∃ atom behind, AtomAt text atom behind ∧ readSuffix atom behind = (item, rest) := by
  cases derived with
  | plain atom =>
    refine ⟨item, rest, atom, ?_⟩
    unfold readSuffix
    split
    next => exact absurd (no '?' rfl) (by decide)
    next => exact absurd (no '*' rfl) (by decide)
    next => exact absurd (no '+' rfl) (by decide)
    next => rfl
  | opt atom => exact ⟨_, _, atom, rfl⟩
  | star atom => exact ⟨_, _, atom, rfl⟩
  | plus atom => exact ⟨_, _, atom, rfl⟩

theorem readTerminal_eq {source rest text : List Char} {pattern : Pattern} (form : IsSource source)
    (read : Pattern.read (String.ofList source) = .ok pattern) :
    readTerminal text (source ++ '/' :: rest) = .ok (.terminal pattern, rest) := by
  have inside : ∀ c ∈ source, isPatternChar c = true := by
    intro c member
    simp only [isPatternChar, Bool.and_eq_true, bne_iff_ne]
    exact ⟨fun slash => form.noSlash (slash ▸ member), fun feed => form.oneLine (feed ▸ member)⟩
  have stops : ∀ c ∈ ('/' :: rest).head?, isPatternChar c = false := by
    rintro _ ⟨⟩
    decide
  obtain ⟨first, others, rfl⟩ := List.exists_cons_of_ne_nil form.nonempty
  unfold readTerminal
  rw [takeWhile_append_of_stops inside stops, dropWhile_append_of_stops inside stops]
  simp only [read]

/-
Here the derivation leads: it names the rest that each call leaves, and the room that is left is
compared with the length of that rest.
-/
mutual

theorem readAlternatives_eq {room : Nat} {text behind rest : List Char}
    {alternatives : List (Expr String)} (derived : AlternativesAt text alternatives behind)
    (gap : Gap behind rest) (ends : endsSequence rest = true) (noBar : rest.head? ≠ some '|')
    (enough : 3 * text.length + 3 ≤ room) :
    readAlternatives room text = .ok (alternatives, rest) := by
  match room with
  | 0 => omega
  | room + 1 =>
    rw [readAlternatives]
    cases derived with
    | last only =>
      obtain ⟨items, some, derived, rfl⟩ := sequenceAt_iff.mp only
      have read : readItems room text = .ok (items, rest) :=
        readItems_eq derived gap ends (by omega)
      simp only [read, bind, Except.bind, List.isEmpty_iff, some, if_false]
      split
      next => exact absurd rfl noBar
      next => rfl
    | @more _ middle next _ _ _ first bar others =>
      obtain ⟨items, some, derived, rfl⟩ := sequenceAt_iff.mp first
      have shorter : next.length < middle.length := bar.length_le
      have passed := first.length_lt
      have head : readItems room text = .ok (items, '|' :: next) :=
        readItems_eq derived bar rfl (by omega)
      have tail : readAlternatives room next = .ok (_, rest) :=
        readAlternatives_eq others gap ends noBar (by omega)
      simp [head, tail, bind, Except.bind, some, pure, Except.pure]

theorem readItems_eq {room : Nat} {text behind rest : List Char} {items : List (Expr String)}
    (derived : ItemsAt text items behind) (gap : Gap behind rest)
    (ends : endsSequence rest = true) (enough : 3 * text.length + 2 ≤ room) :
    readItems room text = .ok (items, rest) := by
  match room with
  | 0 => omega
  | room + 1 =>
    rw [readItems]
    cases derived with
    | none =>
      -- No item begins where a sequence ends, so the reader stops here as well.
      have settled : skipBlank text = rest := by
        rw [gap.skipBlank_eq, skipBlank_of_not_beginsGap (begins_of_endsSequence ends).1]
      simp [settled, ends]
    | @more _ next behind _ item items before first others =>
      have settled : skipBlank text = next := by
        rw [before.skipBlank_eq, skipBlank_of_not_beginsGap first.begins.1]
      have shorter := before.length_le
      have passed := first.length_lt
      -- Whatever follows the item, it is no suffix, so the reader leaves no part of the item.
      obtain ⟨atom, after, derived, suffixed⟩ :=
        first.readSuffix_eq (others.noSuffix gap (begins_of_endsSequence ends).2)
      have head : readAtom room next = .ok (atom, after) := readAtom_eq derived (by omega)
      have tail : readItems room behind = .ok (items, rest) :=
        readItems_eq others gap ends (by omega)
      simp [settled, first.begins.2.1, head, suffixed, tail, bind, Except.bind, pure, Except.pure]

theorem readAtom_eq {room : Nat} {text rest : List Char} {atom : Expr String}
    (derived : AtomAt text atom rest) (enough : 3 * text.length + 1 ≤ room) :
    readAtom room text = .ok (atom, rest) := by
  match room with
  | 0 => omega
  | room + 1 =>
    rw [readAtom.eq_def]
    cases derived with
    | symbol symbol =>
      cases text with
      | nil => exact absurd symbol not_wordAt_nil
      | cons first others =>
        obtain ⟨letter, -, -⟩ := wordAt_cons_iff.mp symbol
        have read := readSymbol_eq_ok_iff.mpr symbol
        dsimp only
        split
        next equal => exact absurd ((List.cons.inj equal).1 ▸ letter) (by decide)
        next equal => exact absurd ((List.cons.inj equal).1 ▸ letter) (by decide)
        next => simp only [read]
    | pattern form read => exact readTerminal_eq form read
    | @group text behind _ _ inside close =>
      obtain ⟨alternatives, derived, rfl⟩ := bodyAt_iff.mp inside
      have read : readAlternatives room text = .ok (alternatives, ')' :: rest) :=
        readAlternatives_eq derived close rfl (by simp) (Nat.le_of_succ_le_succ enough)
      have settled : skipBlank (')' :: rest) = ')' :: rest := rfl
      simp [read, bind, Except.bind, settled, readChar, Except.mapError, pure, Except.pure]

end

/-! ### Room -/

mutual

theorem readAlternatives_succ {room : Nat} {text : List Char}
    (enough : 3 * text.length + 3 ≤ room) :
    readAlternatives (room + 1) text = readAlternatives room text := by
  match room with
  | 0 => omega
  | room + 1 =>
    have head : readItems (room + 1) text = readItems room text := readItems_succ (by omega)
    rw [readAlternatives, readAlternatives, head]
    cases read : readItems room text with
    | error error => rfl
    | ok result =>
      obtain ⟨items, rest⟩ := result
      simp only [bind, Except.bind]
      split
      next => rfl
      next some =>
        split
        next next =>
          obtain ⟨behind, derived, gap⟩ := itemsAt_of_read read
          have passed := derived.length_le.2 (by simpa using some)
          have shorter : next.length < behind.length := gap.length_le
          rw [readAlternatives_succ (by omega)]
        next => rfl

theorem readItems_succ {room : Nat} {text : List Char} (enough : 3 * text.length + 2 ≤ room) :
    readItems (room + 1) text = readItems room text := by
  match room with
  | 0 => omega
  | room + 1 =>
    have shorter := (gap_skipBlank text).1.length_le
    have head : readAtom (room + 1) (skipBlank text) = readAtom room (skipBlank text) :=
      readAtom_succ (by omega)
    rw [readItems, readItems]
    dsimp only
    split
    next => rfl
    next =>
      rw [head]
      cases read : readAtom room (skipBlank text) with
      | error error => rfl
      | ok result =>
        obtain ⟨atom, rest⟩ := result
        have passed := (itemAt_of_readSuffix (atomAt_of_read read)).length_lt
        simp only [bind, Except.bind]
        rw [readItems_succ (by omega)]

theorem readAtom_succ {room : Nat} {text : List Char} (enough : 3 * text.length + 1 ≤ room) :
    readAtom (room + 1) text = readAtom room text := by
  match room with
  | 0 => omega
  | room + 1 =>
    rw [readAtom.eq_def, readAtom.eq_def]
    dsimp only
    split
    next inside =>
      rw [readAlternatives_succ (Nat.le_of_succ_le_succ enough)]
    next => rfl
    next => rfl

end

end Constituency.GrammarText
