import Constituency.Proofs.Regex.Locality

/-!
# Repetitions and what stands behind them

The operators behind a part, with their counts and the question marks that turn them round, are read
without regard to the text behind a closing parenthesis. Braces behind a word boundary either name
it or hold a count, so where a repetition is read out of them they are not the end of the text.
-/
namespace Constituency.Regex

open Constituency.Text

variable {behind : List Char}

/-! ### Counts -/

theorem readCountNumber_reads {n : Nat} {scan out : Scan}
    (done : readCountNumber scan = .ok (n, out)) :
    Reads behind (fun scan out => readCountNumber scan = .ok (n, out)) scan out := by
  rw [readCountNumber] at done
  generalize loose : Scan.takeLoose _ isDigit = taken at done
  obtain ⟨digits, between⟩ := taken
  dsimp only at done
  split at done
  next number value =>
    obtain ⟨rfl, rfl⟩ := Prod.mk.inj (Except.ok.inj done)
    refine (((dropWhile_reads isBlank scan).trans (Scan.takeLoose_reads loose)).trans
      (dropWhile_reads isBlank between)).mono ?_
    rintro front left - ⟨_, ⟨_, rfl, loose⟩, blanks⟩
    simp only [readCountNumber, trimStart, loose, value, blanks]
  next => contradiction

/-- A count begins with a digit, behind blanks. -/
theorem exists_isDigit_of_readCountNumber {n : Nat} {scan out : Scan}
    (done : readCountNumber scan = .ok (n, out)) :
    ∃ c rest, trimStart scan.rest = c :: rest ∧ isDigit c = true := by
  rw [readCountNumber] at done
  generalize loose : Scan.takeLoose _ isDigit = taken at done
  obtain ⟨_ | ⟨c, others⟩, between⟩ := taken
  · simp [readDecimal] at done
  · obtain ⟨rest, begins, digit⟩ := Scan.exists_of_takeLoose loose
    exact ⟨c, rest, begins, digit⟩

theorem head?_ne_of_readCountNumber {n : Nat} {scan out : Scan}
    (done : readCountNumber scan = .ok (n, out)) : scan.rest.head? ≠ some '\x7d' := by
  obtain ⟨c, rest, begins, digit⟩ := exists_isDigit_of_readCountNumber done
  intro brace
  obtain ⟨more, shape⟩ := List.head?_eq_some_iff.mp brace
  have solid : isBlank '\x7d' = false := by decide
  rw [shape, trimStart, List.dropWhile_cons_of_neg (by simp [solid])] at begins
  obtain ⟨rfl, -⟩ := List.cons.inj begins
  contradiction

/-- A counted repetition ends at its closing brace. -/
theorem exists_closing {bounds found : Nat × Option Nat} {scan out : Scan}
    (done : (match scan.rest with
      | '\x7d' :: rest => (pure (bounds, scan.goOn rest) : Except Error _)
      | _ => .error .repeatCount) = .ok (found, out)) :
    found = bounds ∧ ∃ rest, scan.rest = '\x7d' :: rest ∧ scan.goOn rest = out := by
  split at done
  next rest closed =>
    obtain ⟨rfl, rfl⟩ := Prod.mk.inj (Except.ok.inj done)
    exact ⟨rfl, rest, closed, rfl⟩
  next => contradiction

theorem readCount_reads {bounds : Nat × Option Nat} {scan out : Scan}
    (done : readCount scan = .ok (bounds, out)) :
    Reads behind (fun scan out => readCount scan = .ok (bounds, out)) scan out := by
  rw [readCount] at done
  obtain ⟨⟨low, between⟩, number, done⟩ := bind_eq_ok_iff.mp done
  have first : Reads behind _ scan between :=
    scan.skipBlanks_reads.trans (readCountNumber_reads number)
  dsimp only at done
  split at done
  next rest comma =>
    split at done
    next brace =>
      -- Nothing stands between the comma and the brace.
      obtain ⟨rfl, rest', closed, rfl⟩ := exists_closing done
      refine ((first.trans (Scan.goOn_reads comma)).trans (Scan.goOn_reads closed)).mono ?_
      rintro front left - ⟨_, ⟨_, ⟨_, rfl, number⟩, more, comma, blanks⟩, others, closed, blanks'⟩
      subst blanks
      simp [readCount, number, comma, closed, blanks', bind, Except.bind, pure, Except.pure]
    next noBrace =>
      obtain ⟨⟨high, last⟩, second, done⟩ := bind_eq_ok_iff.mp done
      dsimp only at done
      split at done
      next ordered =>
        obtain ⟨rfl, rest', closed, rfl⟩ := exists_closing done
        refine (((first.trans (Scan.goOn_reads comma)).trans (readCountNumber_reads second)).trans
          (Scan.goOn_reads closed)).mono ?_
        rintro front left - ⟨_, ⟨_, ⟨_, ⟨_, rfl, number⟩, more, comma, blanks⟩, second⟩, others,
          closed, blanks'⟩
        subst blanks
        have noBrace := head?_ne_of_readCountNumber second
        simp [readCount, number, comma, noBrace, second, ordered, closed, blanks', bind,
          Except.bind, pure, Except.pure]
      next => contradiction
  next other =>
    obtain ⟨rfl, rest', closed, rfl⟩ := exists_closing done
    refine (first.trans (Scan.goOn_reads closed)).mono ?_
    rintro front left - ⟨_, ⟨_, rfl, number⟩, others, closed, blanks⟩
    simp [readCount, number, closed, blanks, bind, Except.bind, pure, Except.pure]

/-- Something stands in braces that hold a count. -/
theorem rest_ne_nil_of_readCount {bounds : Nat × Option Nat} {scan out : Scan}
    (done : readCount scan = .ok (bounds, out)) : scan.skipBlanks.rest ≠ [] := by
  rw [readCount] at done
  obtain ⟨⟨low, between⟩, number, -⟩ := bind_eq_ok_iff.mp done
  obtain ⟨c, rest, begins, -⟩ := exists_isDigit_of_readCountNumber number
  intro none
  rw [none] at begins
  contradiction

/-! ### Operators -/

theorem readGreed_reads {greedy : Bool} {scan out : Scan} (done : readGreed scan = (greedy, out)) :
    Reads behind (fun scan out => readGreed scan = (greedy, out)) scan out := by
  unfold readGreed at done
  split at done
  next rest mark =>
    obtain ⟨rfl, rfl⟩ := Prod.mk.inj done
    exact .one mark fun left => rfl
  next noMark =>
    obtain ⟨rfl, rfl⟩ := Prod.mk.inj done
    refine .stay fun left shape => ?_
    have noMark := not_cons_of_append noMark shape
    simp [readGreed]

theorem readRepeats_reads {room : Nat} {part found : Part} {scan out : Scan}
    (enough : scan.rest.length ≤ room) (done : readRepeats room part scan = .ok (found, out)) :
    Reads behind (fun scan out => ∀ room, scan.rest.length ≤ room →
      readRepeats room part scan = .ok (found, out)) scan out := by
  induction room generalizing part scan with
  | zero =>
    -- Without room there is no text, so no parenthesis stands behind it.
    obtain ⟨rfl, rfl⟩ := Prod.mk.inj (Except.ok.inj done)
    refine .stay fun left shape => ?_
    rw [List.length_eq_zero_iff.mp (Nat.le_zero.mp enough)] at shape
    simp at shape
  | succ room ih =>
    rw [readRepeats] at done
    have skip : Reads behind _ scan scan.skipBlanks := scan.skipBlanks_reads
    dsimp only at done
    split at done
    case h_1 | h_2 | h_3 =>
      -- The three operators of one character differ only in the bounds they give.
      rename_i rest mark
      rcases greed : readGreed { scan.skipBlanks with rest := rest } with ⟨greedy, between⟩
      rw [greed] at done
      have turned : Reads behind _ _ between := readGreed_reads greed
      have fewer : between.rest.length ≤ room := by
        have := skip.length_le
        rw [mark, List.length_cons] at this
        exact turned.length_le.trans (by dsimp only; omega)
      refine (skip.shrinks.trans (.after mark (turned.shrinks.trans (ih fewer done)))).mono ?_
      rintro front left - ⟨_, ⟨le, blanks⟩, rest, mark, _, ⟨le', greed⟩, again⟩ room enough
      obtain _ | room := room
      · rw [mark, List.length_cons] at le
        exact absurd (le.trans enough) (by omega)
      rw [mark, List.length_cons] at le
      have again := again room (by dsimp only at le le' enough ⊢; omega)
      simp only [readRepeats, blanks, mark, greed, again]
    next rest brace =>
      obtain ⟨⟨⟨low, high⟩, counted⟩, count, done⟩ := bind_eq_ok_iff.mp done
      rcases greed : readGreed counted with ⟨greedy, between⟩
      dsimp only at done
      rw [greed] at done
      have turned : Reads behind _ _ between := readGreed_reads greed
      have bounded : Reads behind _ _ counted := readCount_reads count
      have fewer : between.rest.length ≤ room := by
        have := skip.length_le
        rw [brace, List.length_cons] at this
        exact (turned.length_le.trans bounded.length_le).trans (by dsimp only; omega)
      refine (skip.shrinks.trans (.after brace (bounded.shrinks.trans
        (turned.shrinks.trans (ih fewer done))))).mono ?_
      rintro front left - ⟨_, ⟨le, blanks⟩, rest, brace, _, ⟨le', count⟩, _, ⟨le'', greed⟩, again⟩
        room enough
      obtain _ | room := room
      · rw [brace, List.length_cons] at le
        exact absurd (le.trans enough) (by omega)
      rw [brace, List.length_cons] at le
      have again := again room (by dsimp only at le le' enough ⊢; omega)
      simp [readRepeats, blanks, brace, count, greed, again, bind, Except.bind]
    next noOption noStar noPlus noBrace =>
      obtain ⟨rfl, rfl⟩ := Prod.mk.inj (Except.ok.inj done)
      have here : Reads behind Eq scan.skipBlanks scan.skipBlanks := .stay fun _ _ => rfl
      refine skip.andThen here ?_
      rintro front between left shorter shape blanks same room enough
      rw [Scan.mk.injEq] at same
      obtain ⟨rfl, -⟩ := same
      obtain _ | room := room
      · -- With no text left there is nothing to skip either.
        obtain rfl : front = [] := List.length_eq_zero_iff.mp (Nat.le_zero.mp enough)
        rw [readRepeats, ← blanks, Scan.skipBlanks]
        split <;> rfl
      rw [readRepeats]
      simp only [blanks]
      split
      next => exact (noOption _ shape).elim
      next => exact (noStar _ shape).elim
      next => exact (noPlus _ shape).elim
      next => exact (noBrace _ shape).elim
      next => rfl

end Constituency.Regex
