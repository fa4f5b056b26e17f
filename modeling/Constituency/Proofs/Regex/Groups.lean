import Constituency.Proofs.Regex.Classes
import Constituency.Proofs.Regex.Repetitions

/-!
# Groups and what stands behind them

A sequence of alternatives ends at the first parenthesis that closes nothing inside of it, and what
is read up to there is what would be read if the text ended there. So a pattern that stands between
the parentheses of a group is read as it is read on its own, up to the parenthesis that ends it.
-/
namespace Constituency.Regex

open Constituency.Text

variable {behind : List Char}

/-! ### Parts -/

/-- Whether something stands in the braces that come next, if braces do. -/
def Scan.IsBounded (scan : Scan) : Prop :=
  ∀ rest, scan.rest = '\x7b' :: rest → (scan.goOn rest).rest ≠ []

theorem Escaped.isBounded {found : Escaped} {out : Scan} (bounded : out.IsBounded) :
    found.IsBounded out := fun _ rest _ brace => bounded rest brace

/-- Braces that repetitions are read out of hold something. -/
theorem isBounded_of_readRepeats {part found : Part} {scan out : Scan}
    (done : readRepeats scan.rest.length part scan = .ok (found, out)) : scan.IsBounded := by
  intro rest brace
  have solid : scan.skipBlanks = scan := by
    rw [Scan.skipBlanks, brace]
    split <;> simp [dropVerbose, ← brace, show isBlank '\x7b' = false by decide]
  rw [brace, List.length_cons, readRepeats] at done
  simp only [solid, brace] at done
  obtain ⟨⟨bounds, counted⟩, count, -⟩ := bind_eq_ok_iff.mp done
  exact rest_ne_nil_of_readCount count

theorem readPart_reads {part : Part} {scan out : Scan} (done : readPart scan = .ok (part, out)) :
    Reads behind (fun scan out => out.IsBounded → readPart scan = .ok (part, out)) scan out := by
  rw [readPart] at done
  split at done
  next => contradiction
  next c rest shape =>
    dsimp only at done
    split at done
    next =>
      obtain ⟨⟨inner, between⟩, read, done⟩ := bind_eq_ok_iff.mp done
      obtain ⟨rfl, rfl⟩ := Prod.mk.inj (Except.ok.inj done)
      refine (Reads.after shape ((class_reads _).1 _ _ _ read)).mono ?_
      rintro _ left - ⟨front, rfl, again⟩ -
      have again := again (2 * front.length + 2) (Nat.le_refl _)
      simp [readPart, again, bind, Except.bind, pure, Except.pure]
    next =>
      obtain ⟨⟨found, between⟩, read, done⟩ := bind_eq_ok_iff.mp done
      cases found with
      | char | set | look =>
        obtain ⟨rfl, rfl⟩ := Prod.mk.inj (Except.ok.inj done)
        refine (Reads.after shape (readEscape_reads read)).mono ?_
        rintro _ left - ⟨front, rfl, again⟩ bounded
        have again := again (Escaped.isBounded bounded)
        simp [readPart, again, bind, Except.bind, pure, Except.pure]
    next =>
      obtain ⟨set, dot, done⟩ := bind_eq_ok_iff.mp done
      obtain ⟨rfl, rfl⟩ := Prod.mk.inj (Except.ok.inj done)
      refine .one shape fun left _ => ?_
      simp [readPart, dot, bind, Except.bind, pure, Except.pure]
    case h_4 | h_5 =>
      obtain ⟨rfl, rfl⟩ := Prod.mk.inj (Except.ok.inj done)
      exact .one shape fun left _ => rfl
    next noClass noEscape noDot noStart noStop =>
      split at done
      next => contradiction
      next noOperator =>
        obtain ⟨rfl, rfl⟩ := Prod.mk.inj (Except.ok.inj done)
        refine .one shape fun left _ => ?_
        simp [readPart, noOperator]

theorem length_lt_of_readPart {part : Part} {scan out : Scan}
    (done : readPart scan = .ok (part, out)) : out.rest.length < scan.rest.length := by
  rw [readPart] at done
  split at done
  next => contradiction
  next c rest shape =>
    rw [shape, List.length_cons]
    refine Nat.lt_succ_of_le ?_
    dsimp only at done
    split at done
    next =>
      obtain ⟨⟨inner, between⟩, read, done⟩ := bind_eq_ok_iff.mp done
      obtain ⟨rfl, rfl⟩ := Prod.mk.inj (Except.ok.inj done)
      exact ((class_reads _).1 _ _ _ read : Reads [] _ _ _).length_le
    next =>
      obtain ⟨⟨found, between⟩, read, done⟩ := bind_eq_ok_iff.mp done
      have shorter := (readEscape_reads read : Reads [] _ _ _).length_le
      cases found with
      | char | set | look =>
        obtain ⟨rfl, rfl⟩ := Prod.mk.inj (Except.ok.inj done)
        exact shorter
    next =>
      obtain ⟨set, dot, done⟩ := bind_eq_ok_iff.mp done
      obtain ⟨rfl, rfl⟩ := Prod.mk.inj (Except.ok.inj done)
      exact Nat.le_refl _
    case h_4 | h_5 =>
      obtain ⟨rfl, rfl⟩ := Prod.mk.inj (Except.ok.inj done)
      exact Nat.le_refl _
    next =>
      split at done
      next => contradiction
      next =>
        obtain ⟨rfl, rfl⟩ := Prod.mk.inj (Except.ok.inj done)
        exact Nat.le_refl _

/-! ### Openings -/

theorem readFlags_cases {flags found : Flags} {named text rest : List Char}
    (done : readFlags flags named text = .ok (found, rest)) :
    ∃ taken c last, rest = c :: last ∧ text = taken ++ c :: last ∧
      ∀ left, readFlags flags named (taken ++ c :: left) = .ok (found, c :: left) := by
  induction text generalizing flags named with
  | nil => contradiction
  | cons c text ih =>
    -- A step that takes one character leaves the rest to the induction hypothesis.
    have further {flags' : Flags} {named' : List Char}
        (step : ∀ more, readFlags flags named (c :: more) = readFlags flags' named' more) :
        ∃ taken d last, rest = d :: last ∧ c :: text = taken ++ d :: last ∧
          ∀ left, readFlags flags named (taken ++ d :: left) = .ok (found, d :: left) := by
      obtain ⟨taken, d, last, ended, shape, again⟩ := ih (step text ▸ done)
      exact ⟨c :: taken, d, last, ended, by rw [shape]; rfl, fun left => (step _).trans (again left)⟩
    by_cases ends : c = ':' ∨ c = ')'
    · by_cases dangling : named.head? = some '-'
      · simp [readFlags, ends, dangling] at done
      have here (more : List Char) : readFlags flags named (c :: more) = .ok (flags, c :: more) := by
        rw [readFlags, if_pos ends, if_neg dangling]
      obtain ⟨rfl, rfl⟩ := Prod.mk.inj (Except.ok.inj ((here text).symm.trans done))
      exact ⟨[], c, text, rfl, rfl, here⟩
    by_cases repeated : named.contains c = true
    · simp only [readFlags, if_neg ends, if_pos repeated] at done
      contradiction
    by_cases minus : c = '-'
    · exact further fun more => by rw [readFlags, if_neg ends, if_neg repeated, if_pos minus]
    cases changed : flags.set (!named.contains '-') c with
    | none =>
      simp only [readFlags, if_neg ends, if_neg repeated, if_neg minus, changed] at done
      contradiction
    | some next =>
      have step (more : List Char) :
          readFlags flags named (c :: more) = readFlags next (c :: named) more := by
        simp only [readFlags, if_neg ends, if_neg repeated, if_neg minus, changed]
      exact further step

/-- Flags begin with no character that asks for something else behind a question mark. -/
theorem flag_of_readFlags {flags found : Flags} {c : Char} {text rest : List Char}
    (done : readFlags flags [] (c :: text) = .ok (found, rest)) :
    c ≠ '=' ∧ c ≠ '!' ∧ c ≠ '<' ∧ c ≠ 'P' := by
  refine ⟨?_, ?_, ?_, ?_⟩ <;>
  · rintro rfl
    simp [readFlags, Flags.set] at done

theorem isNameChar_of_isNameStart {c : Char} (first : isNameStart c = true) :
    isNameChar c = true := by
  simp only [isNameStart, Bool.or_eq_true, isNameChar] at first ⊢
  rcases first with underscore | letter
  · simp [underscore]
  · simp [letter]

/-- A group name is made of the characters of names, and is new; a bracket stands behind it. -/
theorem exists_of_readGroupName {name : String} {scan out : Scan}
    (done : readGroupName scan = .ok (name, out)) :
    ∃ rest, scan.rest.dropWhile (· != '>') = '>' :: rest ∧ out = { scan with rest := rest } ∧
      (∀ c ∈ name.toList, isNameChar c = true) ∧ ∀ left,
        readGroupName { scan with rest := scan.rest.takeWhile (· != '>') ++ '>' :: left } =
          .ok (name, { scan with rest := left }) := by
  rw [readGroupName] at done
  dsimp only at done
  split at done
  next mark rest first others cut word =>
    have stop := List.head?_dropWhile_not (· != '>') scan.rest
    rw [cut, List.head?_cons] at stop
    obtain rfl : mark = '>' := by simpa using stop
    split at done
    next => contradiction
    next proper =>
      split at done
      next => contradiction
      next fresh =>
        obtain ⟨rfl, rfl⟩ := Prod.mk.inj (Except.ok.inj done)
        refine ⟨rest, cut, rfl, ?_, fun left => ?_⟩
        · simp only [Bool.or_eq_true, Bool.not_eq_true', not_or, Bool.not_eq_false] at proper
          intro c inside
          rw [String.toList_ofList, word, List.mem_cons] at inside
          rcases inside with rfl | later
          · exact isNameChar_of_isNameStart proper.1
          · exact List.all_eq_true.mp proper.2 c later
        · obtain ⟨before, behind⟩ := (cut_append cut).2 left
          rw [word] at fresh before behind ⊢
          simp only [readGroupName, before, behind]
          rw [if_neg proper, if_neg fresh]
  next => contradiction

theorem readGroupName_reads {name : String} {scan out : Scan}
    (done : readGroupName scan = .ok (name, out)) :
    Reads behind (fun scan out => readGroupName scan = .ok (name, out)) scan out := by
  obtain ⟨rest, cut, rfl, -, again⟩ := exists_of_readGroupName done
  refine ⟨id, scan.rest.takeWhile (· != '>') ++ ['>'], ?_, fun left _ => ?_⟩
  · rw [List.append_assoc, List.singleton_append, ← cut, List.takeWhile_append_dropWhile]
  · rw [List.append_assoc, List.singleton_append]
    exact again left

theorem capture_reads {name : Option String} {opening : Opening} {scan out : Scan}
    (proper : ∀ text ∈ name, ∀ c ∈ text.toList, isNameChar c = true)
    (done : scan.capture name = (opening, out)) :
    Reads behind (fun scan out => scan.capture name = (opening, out)) scan out := by
  obtain ⟨rfl, rfl⟩ := Prod.mk.inj done
  refine ⟨fun known text inside => ?_, [], rfl, fun left _ => rfl⟩
  rcases List.mem_append.mp inside with former | own
  · exact known text former
  · exact proper text (List.mem_singleton.mp own).symm

theorem namedGroup_reads {name : String} {opening : Opening} {scan between out : Scan}
    (read : readGroupName scan = .ok (name, between))
    (done : between.capture (some name) = (opening, out)) :
    Reads behind (Relation.Comp (fun scan out => readGroupName scan = .ok (name, out))
      (fun scan out => scan.capture (some name) = (opening, out))) scan out := by
  obtain ⟨-, -, -, proper, -⟩ := exists_of_readGroupName read
  exact (readGroupName_reads read).trans
    (capture_reads (fun text own => Option.some.inj own ▸ proper) done)

theorem readFlags_reads {found : Flags} {rest : List Char} {scan : Scan}
    (done : readFlags scan.flags [] scan.rest = .ok (found, rest)) : ∃ c last, rest = c :: last ∧
      Reads behind (fun inside out => readFlags inside.flags [] inside.rest =
          .ok (found, c :: out.rest) ∧ { inside with flags := found, rest := out.rest } = out)
        scan { scan with flags := found, rest := last } := by
  obtain ⟨taken, c, last, rfl, shape, again⟩ := readFlags_cases done
  refine ⟨c, last, rfl, id, taken ++ [c], by simp [shape], fun left _ => ⟨?_, rfl⟩⟩
  have here := again left
  rwa [← List.singleton_append, ← List.append_assoc] at here

theorem readOpening_reads {opening : Opening} {scan out : Scan}
    (done : readOpening scan = .ok (opening, out)) :
    Reads behind (fun scan out => readOpening scan = .ok (opening, out)) scan out := by
  rw [readOpening] at done
  have skip : Reads behind _ scan scan.skipBlanks := scan.skipBlanks_reads
  dsimp only at done
  split at done
  case h_1 | h_2 | h_3 | h_4 | h_7 => contradiction
  next rest named =>
    obtain ⟨⟨name, inside⟩, read, done⟩ := bind_eq_ok_iff.mp done
    have captured : Reads behind _ _ out := namedGroup_reads read (Except.ok.inj done)
    refine (skip.trans (.after named (.after rfl (.after rfl captured)))).mono ?_
    rintro front left - ⟨_, blanks, _, mark, _, rfl, _, rfl, _, read, capture⟩
    simp [readOpening, blanks, mark, read, capture, bind, Except.bind, pure, Except.pure]
  next rest noAhead noBehind named =>
    obtain ⟨⟨name, inside⟩, read, done⟩ := bind_eq_ok_iff.mp done
    have captured : Reads behind _ _ out := namedGroup_reads read (Except.ok.inj done)
    refine skip.andThen (.after named (.after rfl captured)) ?_
    rintro front between left - shape blanks ⟨_, rfl, rest, rfl, _, reread, capture⟩
    rw [named, List.cons_append, List.cons_append, List.cons.injEq, List.cons.injEq] at shape
    obtain ⟨-, -, rfl⟩ := shape
    -- What is left of the name is not cut so short that another mark stands first.
    have noAhead := not_cons_of_append noAhead rfl
    have noBehind := not_cons_of_append noBehind rfl
    simp [readOpening, blanks, reread, capture, bind, Except.bind, pure, Except.pure]
  next rest _ _ _ _ _ _ noClose asked =>
    obtain ⟨⟨flags, last⟩, read, done⟩ := bind_eq_ok_iff.mp done
    obtain ⟨c, left, rfl, set⟩ :=
      @readFlags_reads behind _ _ { scan.skipBlanks with rest := rest } read
    dsimp only [List.head?_cons, List.tail_cons] at done
    have ended : out = { scan.skipBlanks with flags := flags, rest := left } ∧
        opening = if c = ')' then .flags else .group none := by
      by_cases close : c = ')'
      · simp only [close, if_true, pure, Except.pure, Except.ok.injEq, Prod.mk.injEq] at done
        exact ⟨done.2.symm, by simp [close, done.1]⟩
      · simp only [Option.some.injEq, close, if_false, pure, Except.pure, Except.ok.injEq,
          Prod.mk.injEq] at done
        exact ⟨done.2.symm, by simp [close, done.1]⟩
    obtain ⟨rfl, rfl⟩ := ended
    refine skip.andThen (.after asked set) ?_
    rintro front between left - shape blanks ⟨rest, rfl, reread, same⟩
    obtain _ | ⟨d, rest⟩ := rest
    · simp [readFlags] at reread
    -- The first flag rules out the other openings that begin with a question mark.
    obtain ⟨noEqual, noMark, noAngle, noName⟩ := flag_of_readFlags reread
    rw [asked, List.cons_append, List.cons.injEq] at shape
    have other : d ≠ ')' := fun close => noClose _ (by rw [shape.2, close]; rfl)
    by_cases close : c = ')' <;>
      simp [readOpening, blanks, noEqual, noMark, noAngle, noName, other, reread, close, bind,
        Except.bind, pure, Except.pure]
  next plain =>
    refine skip.andThen (capture_reads (by simp) (Except.ok.inj done)) ?_
    rintro front between left - shape blanks capture
    have plain := not_cons_of_append plain shape
    simp [readOpening, blanks, plain, capture]

/-! ### Groups -/

/-- The readers of alternatives, sequences and groups, with enough room for all of the text. -/
def AlternativesRead (behind : List Char) (room : Nat) : Prop :=
  ∀ scan parts out, readAlternatives room scan = .ok (parts, out) →
    Reads behind (fun scan out => ∀ room, 3 * scan.rest.length + 3 ≤ room →
      readAlternatives room scan = .ok (parts, out)) scan out

def SequenceReads (behind : List Char) (room : Nat) : Prop :=
  ∀ scan parts out, readSequence room scan = .ok (parts, out) →
    Reads behind (fun scan out => ∀ room, 3 * scan.rest.length + 2 ≤ room →
      readSequence room scan = .ok (parts, out)) scan out

def GroupReads (behind : List Char) (room : Nat) : Prop :=
  ∀ scan part out, readGroup room scan = .ok (part, out) →
    Reads behind (fun scan out => ∀ room, 3 * scan.rest.length + 4 ≤ room →
      readGroup room scan = .ok (part, out)) scan out

theorem alternativesRead_succ {room : Nat} (sequence : SequenceReads behind room)
    (others : AlternativesRead behind room) : AlternativesRead behind (room + 1) := by
  intro scan parts out done
  rw [readAlternatives] at done
  obtain ⟨⟨first, between⟩, read, done⟩ := bind_eq_ok_iff.mp done
  have front := sequence _ _ _ read
  dsimp only at done
  split at done
  next rest bar =>
    obtain ⟨⟨later, last⟩, read', done⟩ := bind_eq_ok_iff.mp done
    obtain ⟨rfl, rfl⟩ := Prod.mk.inj (Except.ok.inj done)
    refine (front.shrinks.trans (.after bar (others _ _ _ read'))).mono ?_
    rintro front left - ⟨middle, ⟨le, read⟩, rest, bar, read'⟩ room enough
    obtain _ | room := room
    · contradiction
    rw [bar, List.length_cons] at le
    dsimp only at le enough read'
    have read := read room (by dsimp only; omega)
    have read' := read' room (by omega)
    simp [readAlternatives, read, bar, read', bind, Except.bind, pure, Except.pure]
  next noBar =>
    obtain ⟨rfl, rfl⟩ := Prod.mk.inj (Except.ok.inj done)
    have here : Reads behind Eq between between := .stay fun _ _ => rfl
    refine front.andThen here ?_
    rintro front middle left - shape read same room enough
    rw [Scan.mk.injEq] at same
    obtain ⟨rfl, -⟩ := same
    obtain _ | room := room
    · contradiction
    have noBar := not_cons_of_append noBar shape
    have read := read room (by omega)
    simp [readAlternatives, read, bind, Except.bind, pure, Except.pure]

theorem groupReads_succ {room : Nat} (inside : AlternativesRead behind room) :
    GroupReads behind (room + 1) := by
  intro scan part out done
  rw [readGroup] at done
  obtain ⟨⟨opening, inner⟩, opened, done⟩ := bind_eq_ok_iff.mp done
  have front : Reads behind _ scan inner := readOpening_reads opened
  cases opening with
  | flags =>
    obtain ⟨rfl, rfl⟩ := Prod.mk.inj (Except.ok.inj done)
    refine front.mono fun front left _ opened room enough => ?_
    obtain _ | room := room
    · contradiction
    simp [readGroup, opened, bind, Except.bind, pure, Except.pure]
  | group index =>
    obtain ⟨⟨parts, between⟩, read, done⟩ := bind_eq_ok_iff.mp done
    dsimp only at done
    split at done
    next rest closed =>
      obtain ⟨rfl, rfl⟩ := Prod.mk.inj (Except.ok.inj done)
      -- The flags of the group around it come back.
      have closing : Reads behind (fun scan' out => ∃ rest, scan'.rest = ')' :: rest ∧
          { scan' with rest := rest, flags := scan.flags } = out) between
          { between with rest := rest, flags := scan.flags } :=
        ⟨id, [')'], closed, fun left _ => ⟨left, rfl, rfl⟩⟩
      refine (front.shrinks.trans ((inside _ _ _ read).trans closing)).mono ?_
      rintro front left - ⟨_, ⟨le, opened⟩, _, read, rest, closed, same⟩ room enough
      obtain _ | room := room
      · contradiction
      have read := read room (by dsimp only at le enough; omega)
      simp [readGroup, opened, read, closed, same, bind, Except.bind, pure, Except.pure]
    next => contradiction

theorem sequenceReads_succ {room : Nat} (group : GroupReads behind room)
    (others : SequenceReads behind room) : SequenceReads behind (room + 1) := by
  intro scan parts out done
  rw [readSequence] at done
  have skip : Reads behind _ scan scan.skipBlanks := scan.skipBlanks_reads
  dsimp only at done
  split at done
  next ended =>
    obtain ⟨rfl, rfl⟩ := Prod.mk.inj (Except.ok.inj done)
    have here : Reads behind Eq scan.skipBlanks scan.skipBlanks := .stay fun _ _ => rfl
    exact skip.andThen here fun _ _ _ _ shape => by simp [ended] at shape
  case h_2 | h_3 =>
    rename_i rest ending
    obtain ⟨rfl, rfl⟩ := Prod.mk.inj (Except.ok.inj done)
    have here : Reads behind Eq scan.skipBlanks scan.skipBlanks := .stay fun _ _ => rfl
    refine skip.andThen here ?_
    rintro front middle left - shape blanks same room enough
    rw [Scan.mk.injEq] at same
    obtain ⟨rfl, -⟩ := same
    obtain _ | room := room
    · contradiction
    -- The alternative ends at the same mark, or else at the end of the text.
    rw [ending] at shape
    obtain _ | ⟨c, middle⟩ := middle
    · simp [readSequence, blanks]
    obtain ⟨rfl, -⟩ := List.cons.inj shape
    simp [readSequence, blanks]
  next rest paren =>
    obtain ⟨⟨part?, inner⟩, read, done⟩ := bind_eq_ok_iff.mp done
    have grouped := (group _ _ _ read).shrinks
    cases part? with
    | none =>
      -- Flags give no part, and nothing can be repeated.
      obtain ⟨⟨later, last⟩, read', done⟩ := bind_eq_ok_iff.mp done
      obtain ⟨rfl, rfl⟩ := Prod.mk.inj (Except.ok.inj done)
      refine (skip.shrinks.trans (.after paren (grouped.trans (others _ _ _ read')))).mono ?_
      rintro front left - ⟨_, ⟨le, blanks⟩, rest, paren, _, ⟨le', read⟩, read'⟩ room enough
      obtain _ | room := room
      · contradiction
      rw [paren, List.length_cons] at le
      dsimp only at le le' enough
      have read := read room (by dsimp only; omega)
      have read' := read' room (by omega)
      simp [readSequence, blanks, paren, read, read', bind, Except.bind, pure, Except.pure]
    | some part =>
      obtain ⟨⟨whole, between⟩, repeated, done⟩ := bind_eq_ok_iff.mp done
      obtain ⟨⟨later, last⟩, read', done⟩ := bind_eq_ok_iff.mp done
      obtain ⟨rfl, rfl⟩ := Prod.mk.inj (Except.ok.inj done)
      have repeats : Reads behind _ inner between := readRepeats_reads (Nat.le_refl _) repeated
      refine (skip.shrinks.trans (.after paren (grouped.trans
        (repeats.shrinks.trans (others _ _ _ read'))))).mono ?_
      rintro front left - ⟨_, ⟨le, blanks⟩, rest, paren, _, ⟨le', read⟩, _, ⟨le'', repeated⟩, read'⟩
        room enough
      obtain _ | room := room
      · contradiction
      rw [paren, List.length_cons] at le
      dsimp only at le le' enough
      have read := read room (by dsimp only; omega)
      have repeated := repeated _ (Nat.le_refl _)
      have read' := read' room (by omega)
      simp [readSequence, blanks, paren, read, repeated, read', bind, Except.bind, pure,
        Except.pure]
  next noEnd noBar noClose noParen =>
    obtain ⟨⟨part, inner⟩, read, done⟩ := bind_eq_ok_iff.mp done
    obtain ⟨⟨whole, between⟩, repeated, done⟩ := bind_eq_ok_iff.mp done
    obtain ⟨⟨later, last⟩, read', done⟩ := bind_eq_ok_iff.mp done
    obtain ⟨rfl, rfl⟩ := Prod.mk.inj (Except.ok.inj done)
    have repeats : Reads behind _ inner between := readRepeats_reads (Nat.le_refl _) repeated
    refine skip.andThen ((readPart_reads read).trans
      (repeats.shrinks.trans (others _ _ _ read'))) ?_
    rintro front middle left le shape blanks ⟨_, read, _, ⟨le', repeated⟩, read'⟩ room enough
    obtain _ | room := room
    · contradiction
    have repeated := repeated _ (Nat.le_refl _)
    -- Braces behind the part are a count that could be read, so the part reads them as before.
    have read := read (isBounded_of_readRepeats repeated)
    have fewer := length_lt_of_readPart read
    dsimp only at fewer enough
    have read' := read' room (by omega)
    -- What is left of the text is not empty, and begins with no other mark than before.
    rw [readSequence]
    simp only [blanks]
    split
    next => simp at fewer
    next => exact (noBar _ shape).elim
    next => exact (noClose _ shape).elim
    next => exact (noParen _ shape).elim
    next => simp [read, repeated, read', bind, Except.bind, pure, Except.pure]

theorem group_reads (room : Nat) :
    AlternativesRead behind room ∧ SequenceReads behind room ∧ GroupReads behind room := by
  induction room with
  | zero =>
    exact ⟨fun _ _ _ done => by simp [readAlternatives] at done,
      fun _ _ _ done => by simp [readSequence] at done,
      fun _ _ _ done => by simp [readGroup] at done⟩
  | succ room ih =>
    obtain ⟨alternatives, sequence, group⟩ := ih
    exact ⟨alternativesRead_succ sequence alternatives, sequenceReads_succ group sequence,
      groupReads_succ alternatives⟩

/-- The names of the groups of an expression. -/
theorem areGroupNames_of_read {text : List Char} {regex : Regex} (done : read text = .ok regex) :
    AreGroupNames regex.names := by
  obtain ⟨⟨parts, out⟩, alternatives, done⟩ := bind_eq_ok_iff.mp done
  have reads : Reads [] _ _ _ := (group_reads _).1 _ _ _ alternatives
  have names : AreGroupNames out.names := reads.names fun name member => by simp at member
  dsimp only at done
  split at done
  next => contradiction
  next =>
    split at done
    next => contradiction
    next =>
      split at done
      next => contradiction
      next => exact Except.ok.inj done ▸ names

end Constituency.Regex
