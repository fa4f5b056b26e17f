import Constituency.Proofs.Regex.Frame

/-!
# The text of a pattern, part by part

The reader of patterns drops the text it reads and simplifies what it builds. A form keeps both: the
text of each part, and the part before it is repeated, put in a group or joined with others. Forms
are read along with the parts that the reader builds, and write the text that was read.
-/
namespace Constituency.Regex

open Constituency.Text

/-! ### Forms -/

/-- A repetition, with the text that asks for it. -/
structure Repetition where
  text : List Char
  greedy : Bool
  low : Nat
  high : Option Nat
deriving Repr

/-- What stands in a pattern or in a group up to its end, alternatives included. -/
inductive Form where
  | done
  /-- What verbose patterns have between their parts. -/
  | gap (text : List Char) (rest : Form)
  /-- A part that is no group, with its repetitions. -/
  | atom (text : List Char) (part : Part) (marks : List Repetition) (rest : Form)
  /-- Flags for what follows. The text begins behind a parenthesis. -/
  | flags (text : List Char) (rest : Form)
  /-- A group with its repetitions. Its opening begins behind the parenthesis. -/
  | group (opening : List Char) (index : Option Nat) (inside : Form) (marks : List Repetition)
    (rest : Form)
  /-- The next alternative. -/
  | bar (rest : Form)
deriving Repr

namespace Form

def writeMarks (marks : List Repetition) : List Char := marks.flatMap Repetition.text

def write : Form → List Char
  | done => []
  | gap text rest => text ++ rest.write
  | atom text _ marks rest => text ++ (writeMarks marks ++ rest.write)
  | flags text rest => '(' :: (text ++ rest.write)
  | group opening _ inside marks rest =>
    '(' :: (opening ++ (inside.write ++ ')' :: (writeMarks marks ++ rest.write)))
  | bar rest => '|' :: rest.write

/-- A part with its repetitions, the innermost one first. -/
def marked (marks : List Repetition) (part : Part) : Part :=
  marks.foldl (fun part mark => part.repeated mark.greedy mark.low mark.high) part

/-- The parts of the first alternative, and the other alternatives. -/
def build : Form → List Part × List Part
  | done => ([], [])
  | gap _ rest => rest.build
  | atom _ part marks rest => (marked marks part :: rest.build.1, rest.build.2)
  | flags _ rest => (Part.flags :: rest.build.1, rest.build.2)
  | group _ index inside marks rest =>
    let alternatives := Part.concat inside.build.1 :: inside.build.2
    (marked marks ((Part.alternation alternatives).group index) :: rest.build.1, rest.build.2)
  | bar rest => ([], Part.concat rest.build.1 :: rest.build.2)

def alternatives (form : Form) : List Part := Part.concat form.build.1 :: form.build.2

/-- One form behind the other. -/
def append : Form → Form → Form
  | done, later => later
  | gap text rest, later => gap text (rest.append later)
  | atom text part marks rest, later => atom text part marks (rest.append later)
  | flags text rest, later => flags text (rest.append later)
  | group opening index inside marks rest, later =>
    group opening index inside marks (rest.append later)
  | bar rest, later => bar (rest.append later)

theorem write_append (form later : Form) : (form.append later).write = form.write ++ later.write := by
  induction form with
  | done => rfl
  | gap | atom | flags | group | bar => simp [append, write, *]

/-- Another alternative behind the only one. -/
theorem build_append_bar {form : Form} (single : form.build.2 = []) (later : Form) :
    (form.append (.bar later)).build = (form.build.1, later.alternatives) := by
  induction form with
  | done => rfl
  | gap _ _ ih | atom _ _ _ _ ih | flags _ _ ih | group _ _ _ _ _ _ ih =>
    rw [append, build, ih single]
    rfl
  | bar => contradiction

end Form

/-! ### Reading forms -/

/-- The text between two places of a scan. -/
def Scan.until (scan out : Scan) : List Char :=
  scan.rest.take (scan.rest.length - out.rest.length)

/-- Reads the repetitions behind a part, and the gap behind them. -/
def formMarks : Nat → Scan → Except Error ((List Repetition × List Char) × Scan)
  | 0, scan => .ok (([], []), scan)
  | room + 1, start => do
    let scan := start.skipBlanks
    let simple (low : Nat) (high : Option Nat) (rest : List Char) := do
      let (greedy, scan) := readGreed { scan with rest := rest }
      let ((marks, gap), out) ← formMarks room scan
      return ((⟨start.until scan, greedy, low, high⟩ :: marks, gap), out)
    match scan.rest with
    | '?' :: rest => simple 0 (some 1) rest
    | '*' :: rest => simple 0 none rest
    | '+' :: rest => simple 1 none rest
    | '\x7b' :: rest =>
      let ((low, high), scan) ← readCount { scan with rest := rest }
      let (greedy, scan) := readGreed scan
      let ((marks, gap), out) ← formMarks room scan
      return ((⟨start.until scan, greedy, low, high⟩ :: marks, gap), out)
    | _ => return (([], start.until scan), scan)

/-- What a parenthesis opens: flags, or a group. -/
inductive Opened where
  | flags (text : List Char)
  | group (opening : List Char) (index : Option Nat) (inside : Form)

namespace Opened

/-- The part that is a group, if it is one. -/
def part? : Opened → Option Part
  | flags _ => none
  | group _ index inside => some ((Part.alternation inside.alternatives).group index)

end Opened

mutual

/-- Reads alternatives up to the end of the group or of the text. -/
def formAlternatives (room : Nat) (scan : Scan) : Except Error (Form × Scan) :=
  match room with
  | 0 => .error .nestedTooDeep
  | room + 1 => do
    let (form, scan) ← formSequence room scan
    match scan.rest with
    | '|' :: rest =>
      let (others, scan) ← formAlternatives room { scan with rest := rest }
      return (form.append (.bar others), scan)
    | _ => return (form, scan)
termination_by structural room

/-- Reads one alternative. -/
def formSequence (room : Nat) (start : Scan) : Except Error (Form × Scan) :=
  match room with
  | 0 => .error .nestedTooDeep
  | room + 1 =>
    let scan := start.skipBlanks
    match scan.rest with
    | [] => .ok (.gap (start.until scan) .done, scan)
    | '|' :: _ => .ok (.gap (start.until scan) .done, scan)
    | ')' :: _ => .ok (.gap (start.until scan) .done, scan)
    | '(' :: rest => do
      match ← formGroup room { scan with rest := rest } with
      | (.flags text, behind) =>
        let (others, out) ← formSequence room behind
        return (.gap (start.until scan) (.flags text others), out)
      | (.group opening index inside, behind) =>
        let ((marks, gap), behind) ← formMarks behind.rest.length behind
        let (others, out) ← formSequence room behind
        return (.gap (start.until scan) (.group opening index inside marks (.gap gap others)), out)
    | _ => do
      let (part, behind) ← readPart scan
      let text := scan.until behind
      let ((marks, gap), behind) ← formMarks behind.rest.length behind
      let (others, out) ← formSequence room behind
      return (.gap (start.until scan) (.atom text part marks (.gap gap others)), out)
termination_by structural room

/-- Reads what stands behind a parenthesis, up to the one that closes it. -/
def formGroup (room : Nat) (scan : Scan) : Except Error (Opened × Scan) :=
  match room with
  | 0 => .error .nestedTooDeep
  | room + 1 => do
    match ← readOpening scan with
    | (.flags, behind) => return (.flags (scan.until behind), behind)
    | (.group index, start) =>
      let (inside, behind) ← formAlternatives room start
      match behind.rest with
      | ')' :: rest =>
        return (.group (scan.until start) index inside,
          { behind with rest := rest, flags := scan.flags })
      | _ => .error .unclosedGroup
termination_by structural room

end

/-- The form of a whole pattern. -/
def formOf (text : List Char) : Except Error Form := do
  let (form, scan) ← formAlternatives (3 * text.length + 3) { rest := text }
  if !scan.rest.isEmpty then .error .unopenedGroup else return form

/-! ### Forms and parts -/

theorem readRepeats_eq (room : Nat) (part : Part) (scan : Scan) :
    readRepeats room part scan = do
      let ((marks, _), out) ← formMarks room scan
      return (Form.marked marks part, out) := by
  induction room generalizing part scan with
  | zero => rfl
  | succ room ih =>
    rw [formMarks]
    generalize skipped : scan.skipBlanks = inner
    dsimp only
    split
    iterate 4
      next begins =>
        simp only [readRepeats, skipped, begins, ih, bind_assoc, pure_bind, Form.marked,
          List.foldl_cons]
    next noQuestion noStar noPlus noBrace =>
      -- No operator stands here, so both readers stop.
      simp only [readRepeats, skipped]
      rfl

/-! ### Texts -/

theorem Reads.suffix {behind : List Char} {step : Scan → Scan → Prop} {scan out : Scan}
    (reads : Reads behind step scan out) : out.rest <:+ scan.rest := by
  obtain ⟨taken, shape, -⟩ := reads.text
  exact ⟨taken, shape.symm⟩

theorem Scan.until_append {scan out : Scan} (passed : out.rest <:+ scan.rest) :
    scan.until out ++ out.rest = scan.rest := by
  obtain ⟨taken, shape⟩ := passed
  rw [Scan.until, ← shape, List.length_append, Nat.add_sub_cancel_right, List.take_left]

theorem skipBlanks_suffix (scan : Scan) : scan.skipBlanks.rest <:+ scan.rest :=
  Reads.suffix (scan.skipBlanks_reads : Reads [] _ _ _)

theorem readGreed_suffix (scan : Scan) : (readGreed scan).2.rest <:+ scan.rest := by
  unfold readGreed
  split
  next shape => exact shape ▸ List.suffix_cons _ _
  next => exact List.suffix_refl _

theorem write_formMarks {room : Nat} {scan out : Scan} {marks : List Repetition} {gap : List Char}
    (done : formMarks room scan = .ok ((marks, gap), out)) :
    scan.rest = Form.writeMarks marks ++ (gap ++ out.rest) := by
  induction room generalizing scan marks gap out with
  | zero =>
    rw [formMarks, Except.ok.injEq, Prod.mk.injEq, Prod.mk.injEq] at done
    obtain ⟨⟨rfl, rfl⟩, rfl⟩ := done
    rfl
  | succ room ih =>
    -- Whatever the operator is, the text up to the next one belongs to it.
    have step {between : Scan} {greedy : Bool} {low : Nat} {high : Option Nat}
        (passed : between.rest <:+ scan.rest) (done : (do
          let ((marks, gap), out) ← formMarks room between
          return ((⟨scan.until between, greedy, low, high⟩ :: marks, gap), out)) =
            Except.ok ((marks, gap), out)) :
        scan.rest = Form.writeMarks marks ++ (gap ++ out.rest) := by
      obtain ⟨⟨⟨marks', gap'⟩, out'⟩, later, done⟩ := bind_eq_ok_iff.mp done
      simp only [pure, Except.pure, Except.ok.injEq, Prod.mk.injEq] at done
      obtain ⟨⟨rfl, rfl⟩, rfl⟩ := done
      rw [Form.writeMarks, List.flatMap_cons, List.append_assoc, ← Form.writeMarks, ← ih later,
        Scan.until_append passed]
    have start := skipBlanks_suffix scan
    rw [formMarks] at done
    generalize scan.skipBlanks = inner at done start
    dsimp only at done
    split at done
    iterate 3
      next rest begins =>
        exact step ((readGreed_suffix _).trans ((begins ▸ List.suffix_cons _ _).trans start)) done
    next rest begins =>
      obtain ⟨⟨⟨low, high⟩, counted⟩, count, done⟩ := bind_eq_ok_iff.mp done
      have within := Reads.suffix (readCount_reads count : Reads [] _ _ _)
      exact step ((readGreed_suffix _).trans (within.trans
        ((begins ▸ List.suffix_cons _ _).trans start))) done
    next =>
      simp only [pure, Except.pure, Except.ok.injEq, Prod.mk.injEq] at done
      obtain ⟨⟨rfl, rfl⟩, rfl⟩ := done
      exact (Scan.until_append start).symm

/-- A separator that stands for itself is read as the one character it is. -/
theorem part_of_semicolon {scan out : Scan} {part : Part} (done : readPart scan = .ok (part, out))
    (own : scan.until out = [';']) : ∃ flags : Flags, part = .ofSet (flags.foldSet (.single ';')) := by
  have passed := Scan.until_append (Reads.suffix (readPart_reads done : Reads [] _ _ _))
  rw [own] at passed
  have shape : scan.rest = ';' :: out.rest := passed.symm
  rw [readPart, shape] at done
  obtain ⟨rfl, -⟩ := Prod.mk.inj (Except.ok.inj done)
  exact ⟨scan.flags, rfl⟩

/-! ### Forms and parts -/

/-- Whether the separators of a form are read as what they are. -/
def Form.IsRead : Form → Prop
  | done => True
  | gap _ rest | flags _ rest | bar rest => rest.IsRead
  | atom text part _ rest =>
    (text = [';'] → ∃ flags : Flags, part = .ofSet (flags.foldSet (.single ';'))) ∧ rest.IsRead
  | group _ _ inside _ rest => inside.IsRead ∧ rest.IsRead

theorem Form.IsRead.append {form later : Form} (first : form.IsRead) (second : later.IsRead) :
    (form.append later).IsRead := by
  induction form with
  | done => exact second
  | gap _ _ ih | flags _ _ ih | bar _ ih => exact ih first
  | atom _ _ _ _ ih | group _ _ _ _ _ _ ih => exact ⟨first.1, ih first.2⟩

/-- A form is what stands between two places of a scan. -/
structure Form.Covers (form : Form) (scan out : Scan) : Prop where
  text : scan.rest = form.write ++ out.rest
  read : form.IsRead

/-- What a parenthesis opens stands between two places, the closing parenthesis included. -/
def Opened.Covers (scan out : Scan) : Opened → Prop
  | flags text => scan.rest = text ++ out.rest
  | group opening _ inside =>
    scan.rest = opening ++ (inside.write ++ ')' :: out.rest) ∧ inside.IsRead

/-- The readers build the parts of the forms, which cover the text that they read. -/
def AlternativesFormed (room : Nat) : Prop :=
  ∀ scan form out, formAlternatives room scan = .ok (form, out) →
    form.Covers scan out ∧ readAlternatives room scan = .ok (form.alternatives, out)

/-- A sequence has no other alternatives. -/
def SequenceFormed (room : Nat) : Prop :=
  ∀ scan form out, formSequence room scan = .ok (form, out) →
    form.Covers scan out ∧ form.build.2 = [] ∧ readSequence room scan = .ok (form.build.1, out)

def GroupFormed (room : Nat) : Prop :=
  ∀ scan opened out, formGroup room scan = .ok (opened, out) →
    opened.Covers scan out ∧ readGroup room scan = .ok (opened.part?, out)

theorem alternativesFormed_succ {room : Nat} (sequence : SequenceFormed room)
    (others : AlternativesFormed room) : AlternativesFormed (room + 1) := by
  intro scan form out done
  rw [formAlternatives] at done
  obtain ⟨⟨first, between⟩, read, done⟩ := bind_eq_ok_iff.mp done
  obtain ⟨⟨text, isRead⟩, single, built⟩ := sequence _ _ _ read
  dsimp only at done
  split at done
  next rest bar =>
    obtain ⟨⟨later, last⟩, read', done⟩ := bind_eq_ok_iff.mp done
    obtain ⟨rfl, rfl⟩ := Prod.mk.inj (Except.ok.inj done)
    obtain ⟨⟨text', isRead'⟩, built'⟩ := others _ _ _ read'
    -- The first alternative is written in front of the bar, and the others behind it.
    refine ⟨⟨?_, isRead.append isRead'⟩, ?_⟩
    · dsimp only at text'
      rw [text, bar, text', Form.write_append, List.append_assoc]
      rfl
    · simp [readAlternatives, built, bar, built', bind, Except.bind, pure, Except.pure,
        Form.alternatives, Form.build_append_bar single]
  next noBar =>
    obtain ⟨rfl, rfl⟩ := Prod.mk.inj (Except.ok.inj done)
    refine ⟨⟨text, isRead⟩, ?_⟩
    simp [readAlternatives, built, bind, Except.bind, pure, Except.pure, Form.alternatives, single]

theorem groupFormed_succ {room : Nat} (inside : AlternativesFormed room) :
    GroupFormed (room + 1) := by
  intro scan opened out done
  rw [formGroup] at done
  obtain ⟨⟨opening, start⟩, opens, done⟩ := bind_eq_ok_iff.mp done
  have begins := Scan.until_append (Reads.suffix (readOpening_reads opens : Reads [] _ _ _))
  cases opening with
  | flags =>
    obtain ⟨rfl, rfl⟩ := Prod.mk.inj (Except.ok.inj done)
    refine ⟨begins.symm, ?_⟩
    simp [readGroup, opens, bind, Except.bind, pure, Except.pure, Opened.part?]
  | group index =>
    obtain ⟨⟨form, between⟩, read, done⟩ := bind_eq_ok_iff.mp done
    obtain ⟨⟨text, isRead⟩, built⟩ := inside _ _ _ read
    dsimp only at done
    split at done
    next rest closed =>
      obtain ⟨rfl, rfl⟩ := Prod.mk.inj (Except.ok.inj done)
      refine ⟨⟨?_, isRead⟩, ?_⟩
      · rw [← begins, text, closed]
      · simp [readGroup, opens, built, closed, bind, Except.bind, pure, Except.pure, Opened.part?]
    next => contradiction

theorem sequenceFormed_succ {room : Nat} (group : GroupFormed room)
    (sequence : SequenceFormed room) : SequenceFormed (room + 1) := by
  intro scan form out done
  rw [formSequence] at done
  have start := Scan.until_append (skipBlanks_suffix scan)
  generalize skipped : scan.skipBlanks = inner at done start
  dsimp only at done
  split at done
  -- At the end of an alternative, a group or the text there is nothing left but a gap.
  iterate 3
    next shape =>
      obtain ⟨rfl, rfl⟩ := Prod.mk.inj (Except.ok.inj done)
      refine ⟨⟨?_, trivial⟩, rfl, ?_⟩
      · simpa [Form.write] using start.symm
      · simp [readSequence, skipped, shape, Form.build]
  next rest paren =>
    obtain ⟨⟨opened, behind⟩, opens, done⟩ := bind_eq_ok_iff.mp done
    obtain ⟨covers, built⟩ := group _ _ _ opens
    cases opened with
    | flags text =>
      -- Flags are a part of their own, and nothing repeats them.
      obtain ⟨⟨others, last⟩, read, done⟩ := bind_eq_ok_iff.mp done
      obtain ⟨rfl, rfl⟩ := Prod.mk.inj (Except.ok.inj done)
      obtain ⟨⟨text', isRead⟩, single, built'⟩ := sequence _ _ _ read
      refine ⟨⟨?_, isRead⟩, single, ?_⟩
      · dsimp only [Opened.Covers] at covers
        rw [← start, paren, covers, text']
        simp [Form.write]
      · simp [readSequence, skipped, paren, built, built', Opened.part?, Form.build, bind,
          Except.bind, pure, Except.pure]
    | group opening index inside =>
      obtain ⟨⟨⟨marks, gap⟩, between⟩, repeats, done⟩ := bind_eq_ok_iff.mp done
      obtain ⟨⟨others, last⟩, read, done⟩ := bind_eq_ok_iff.mp done
      obtain ⟨rfl, rfl⟩ := Prod.mk.inj (Except.ok.inj done)
      obtain ⟨⟨text', isRead⟩, single, built'⟩ := sequence _ _ _ read
      obtain ⟨text, isRead'⟩ := covers
      refine ⟨⟨?_, isRead', isRead⟩, single, ?_⟩
      · dsimp only at text text'
        rw [← start, paren, text, write_formMarks repeats, text']
        simp [Form.write]
      · simp [readSequence, skipped, paren, built, built', readRepeats_eq, repeats, Opened.part?,
          Form.build, Form.alternatives, bind, Except.bind, pure, Except.pure]
  next noEnd noBar noClose noParen =>
    obtain ⟨⟨part, behind⟩, own, done⟩ := bind_eq_ok_iff.mp done
    obtain ⟨⟨⟨marks, gap⟩, between⟩, repeats, done⟩ := bind_eq_ok_iff.mp done
    obtain ⟨⟨others, last⟩, read, done⟩ := bind_eq_ok_iff.mp done
    obtain ⟨rfl, rfl⟩ := Prod.mk.inj (Except.ok.inj done)
    obtain ⟨⟨text', isRead⟩, single, built'⟩ := sequence _ _ _ read
    have passed := Scan.until_append (Reads.suffix (readPart_reads own : Reads [] _ _ _))
    -- The text is the gap, the part, its repetitions, the gap behind them and the others.
    refine ⟨⟨?_, part_of_semicolon own, isRead⟩, single, ?_⟩
    · rw [← start, ← passed, write_formMarks repeats, text']
      simp [Form.write]
    · rw [readSequence, skipped]
      dsimp only
      split
      next shape => exact (noEnd shape).elim
      next shape => exact (noBar _ shape).elim
      next shape => exact (noClose _ shape).elim
      next shape => exact (noParen _ shape).elim
      next =>
        simp [own, built', readRepeats_eq, repeats, Form.build, bind, Except.bind, pure,
          Except.pure]

theorem forms_built (room : Nat) :
    AlternativesFormed room ∧ SequenceFormed room ∧ GroupFormed room := by
  induction room with
  | zero =>
    exact ⟨fun _ _ _ done => by simp [formAlternatives] at done,
      fun _ _ _ done => by simp [formSequence] at done,
      fun _ _ _ done => by simp [formGroup] at done⟩
  | succ room ih =>
    obtain ⟨alternatives, sequence, group⟩ := ih
    exact ⟨alternativesFormed_succ sequence alternatives, sequenceFormed_succ group sequence,
      groupFormed_succ alternatives⟩

/-! ### Failures -/

theorem bind_eq_error_iff {ε α β : Type} {result : Except ε α} {next : α → Except ε β} {error : ε} :
    result >>= next = .error error ↔
      result = .error error ∨ ∃ value, result = .ok value ∧ next value = .error error := by
  cases result <;> simp [bind, Except.bind]

/-- What cannot be read as a form cannot be read at all. -/
def AlternativesFail (room : Nat) : Prop :=
  ∀ scan error, formAlternatives room scan = .error error →
    readAlternatives room scan = .error error

def SequenceFails (room : Nat) : Prop :=
  ∀ scan error, formSequence room scan = .error error → readSequence room scan = .error error

def GroupFails (room : Nat) : Prop :=
  ∀ scan error, formGroup room scan = .error error → readGroup room scan = .error error

theorem alternativesFail_succ {room : Nat} (sequence : SequenceFails room)
    (others : AlternativesFail room) : AlternativesFail (room + 1) := by
  intro scan error failed
  rw [formAlternatives] at failed
  rcases bind_eq_error_iff.mp failed with failed | ⟨⟨first, between⟩, read, failed⟩
  · simp [readAlternatives, sequence _ _ failed, bind, Except.bind]
  · obtain ⟨-, -, built⟩ := (forms_built room).2.1 _ _ _ read
    dsimp only at failed
    split at failed
    next rest bar =>
      rcases bind_eq_error_iff.mp failed with failed | ⟨_, _, failed⟩
      · simp [readAlternatives, built, bar, others _ _ failed, bind, Except.bind]
      · contradiction
    next => contradiction

theorem groupFails_succ {room : Nat} (inside : AlternativesFail room) : GroupFails (room + 1) := by
  intro scan error failed
  rw [formGroup] at failed
  rcases bind_eq_error_iff.mp failed with failed | ⟨⟨opening, start⟩, opens, failed⟩
  · simp [readGroup, failed, bind, Except.bind]
  cases opening with
  | flags => contradiction
  | group index =>
    -- The inside fails, or no parenthesis stands behind it.
    rcases bind_eq_error_iff.mp failed with failed | ⟨⟨form, between⟩, read, failed⟩
    · simp [readGroup, opens, inside _ _ failed, bind, Except.bind]
    · obtain ⟨-, built⟩ := (forms_built room).1 _ _ _ read
      dsimp only at failed
      split at failed
      next => contradiction
      next unclosed =>
        obtain rfl := Except.error.inj failed
        simp only [readGroup, opens, built, bind, Except.bind]

theorem sequenceFails_succ {room : Nat} (group : GroupFails room) (sequence : SequenceFails room) :
    SequenceFails (room + 1) := by
  intro scan error failed
  rw [formSequence] at failed
  generalize skipped : scan.skipBlanks = inner at failed
  dsimp only at failed
  split at failed
  iterate 3
    next => contradiction
  next rest paren =>
    rcases bind_eq_error_iff.mp failed with failed | ⟨⟨opened, behind⟩, opens, failed⟩
    · simp [readSequence, skipped, paren, group _ _ failed, bind, Except.bind]
    obtain ⟨-, built⟩ := (forms_built room).2.2 _ _ _ opens
    cases opened with
    | flags text =>
      rcases bind_eq_error_iff.mp failed with failed | ⟨_, _, failed⟩
      · simp [readSequence, skipped, paren, built, Opened.part?, sequence _ _ failed, bind,
          Except.bind]
      · contradiction
    | group opening index inside =>
      rcases bind_eq_error_iff.mp failed with failed | ⟨⟨⟨marks, gap⟩, between⟩, repeats, failed⟩
      · simp [readSequence, skipped, paren, built, Opened.part?, readRepeats_eq, failed, bind,
          Except.bind]
      rcases bind_eq_error_iff.mp failed with failed | ⟨_, _, failed⟩
      · simp [readSequence, skipped, paren, built, Opened.part?, readRepeats_eq, repeats,
          sequence _ _ failed, bind, Except.bind, pure, Except.pure]
      · contradiction
  next noEnd noBar noClose noParen =>
    simp only [readSequence, skipped]
    rcases bind_eq_error_iff.mp failed with failed | ⟨⟨part, behind⟩, own, failed⟩
    · simp [failed, bind, Except.bind]
    rcases bind_eq_error_iff.mp failed with failed | ⟨⟨⟨marks, gap⟩, between⟩, repeats, failed⟩
    · simp [own, readRepeats_eq, failed, bind, Except.bind]
    rcases bind_eq_error_iff.mp failed with failed | ⟨_, _, failed⟩
    · simp [own, readRepeats_eq, repeats, sequence _ _ failed, bind, Except.bind, pure,
        Except.pure]
    · contradiction

theorem forms_fail (room : Nat) :
    AlternativesFail room ∧ SequenceFails room ∧ GroupFails room := by
  induction room with
  | zero =>
    exact ⟨fun _ _ failed => by simpa [formAlternatives, readAlternatives] using failed,
      fun _ _ failed => by simpa [formSequence, readSequence] using failed,
      fun _ _ failed => by simpa [formGroup, readGroup] using failed⟩
  | succ room ih =>
    obtain ⟨alternatives, sequence, group⟩ := ih
    exact ⟨alternativesFail_succ sequence alternatives, sequenceFails_succ group sequence,
      groupFails_succ alternatives⟩

/-- Every pattern has a form, which writes the pattern and is what its tree is built from. -/
theorem exists_formOf {text : List Char} {part : Part} {names : List (Option String)}
    (done : readPattern text = .ok (part, names)) :
    ∃ form, formOf text = .ok form ∧ form.write = text ∧ form.IsRead ∧
      part = Part.alternation form.alternatives := by
  obtain ⟨⟨parts, out⟩, read, done⟩ := bind_eq_ok_iff.mp done
  dsimp only at done
  split at done
  next => contradiction
  next ended =>
    obtain ⟨rfl, rfl⟩ := Prod.mk.inj (Except.ok.inj done)
    cases forms : formAlternatives (3 * text.length + 3) { rest := text } with
    | error error => exact absurd (read.symm.trans ((forms_fail _).1 _ _ forms)) (by simp)
    | ok result =>
      obtain ⟨form, last⟩ := result
      obtain ⟨⟨covered, isRead⟩, built⟩ := (forms_built _).1 _ _ _ forms
      obtain ⟨rfl, rfl⟩ := Prod.mk.inj (Except.ok.inj (read.symm.trans built))
      have none : out.rest = [] := by simpa using ended
      refine ⟨form, ?_, by simpa [none] using covered.symm, isRead, rfl⟩
      simp [formOf, forms, none, bind, Except.bind, pure, Except.pure]

end Constituency.Regex
