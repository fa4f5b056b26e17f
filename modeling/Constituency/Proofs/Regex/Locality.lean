import Constituency.Proofs.Text.Lexeme
import Constituency.Regex.Reader
import Mathlib.Logic.Relation

/-!
# Pieces of a pattern and what stands behind them

A pattern is read from the left, one piece after the other. Where the text behind a piece begins
with a closing parenthesis, the piece is read in the same way when the text ends there, since
neither a parenthesis nor the end of the text goes on with anything. This module says so of every
reader below the level of groups. On the way it sees that a reader takes a beginning of the text,
and that the names of groups stay names that a group can have.
-/
namespace Constituency.Regex

open Constituency.Text

/-! ### Steps of a scan -/

/-- Whether all names are made of the characters that the names of groups are made of. -/
def AreGroupNames (names : List (Option String)) : Prop :=
  ∀ name, some name ∈ names → ∀ c ∈ name.toList, isNameChar c = true

/--
A scan goes on by taking a beginning of its text. The step holds of it again when the text behind
is cut off in front of a parenthesis that closes the group around it.
-/
structure Reads (behind : List Char) (step : Scan → Scan → Prop) (scan out : Scan) : Prop where
  names : AreGroupNames scan.names → AreGroupNames out.names
  text : ∃ taken, scan.rest = taken ++ out.rest ∧ ∀ left, out.rest = left ++ ')' :: behind →
    step { scan with rest := taken ++ left } { out with rest := left }

namespace Reads

variable {behind : List Char} {step step' whole : Scan → Scan → Prop} {scan middle out : Scan}

theorem length_le (reads : Reads behind step scan out) : out.rest.length ≤ scan.rest.length := by
  obtain ⟨taken, shape, -⟩ := reads.text
  rw [shape, List.length_append]
  exact Nat.le_add_left ..

/-- The text that is left is no longer than the text before. -/
theorem shrinks (reads : Reads behind step scan out) :
    Reads behind (fun scan out => out.rest.length ≤ scan.rest.length ∧ step scan out) scan out := by
  obtain ⟨names, taken, shape, again⟩ := reads
  refine ⟨names, taken, shape, fun left rest => ⟨?_, again left rest⟩⟩
  rw [List.length_append]
  exact Nat.le_add_left ..

theorem stay (again : ∀ left, scan.rest = left ++ ')' :: behind →
    step { scan with rest := left } { scan with rest := left }) : Reads behind step scan scan :=
  ⟨id, [], rfl, again⟩

theorem mono (reads : Reads behind step scan out) (implied : ∀ front left,
    scan.rest = front ++ ')' :: behind → step { scan with rest := front } { out with rest := left } →
      whole { scan with rest := front } { out with rest := left }) : Reads behind whole scan out := by
  obtain ⟨names, taken, shape, again⟩ := reads
  refine ⟨names, taken, shape, fun left rest => implied _ _ ?_ (again left rest)⟩
  rw [shape, rest, List.append_assoc]

theorem cons {c : Char} {rest : List Char} (shape : scan.rest = c :: rest)
    (later : Reads behind step { scan with rest := rest } out) (goesOn : ∀ front left,
      step { scan with rest := front } { out with rest := left } →
        whole { scan with rest := c :: front } { out with rest := left }) :
    Reads behind whole scan out := by
  obtain ⟨names, taken, shape', again⟩ := later
  dsimp only at shape'
  exact ⟨names, c :: taken, by rw [shape, shape', List.cons_append],
    fun left rest => goesOn _ _ (again left rest)⟩

theorem after {c : Char} {rest : List Char} (shape : scan.rest = c :: rest)
    (later : Reads behind step { scan with rest := rest } out) :
    Reads behind (fun scan out => ∃ rest, scan.rest = c :: rest ∧ step { scan with rest := rest } out)
      scan out :=
  cons shape later fun front _ again => ⟨front, rfl, again⟩

/-- A single character is taken, whatever stands behind it. -/
theorem one {c : Char} {rest : List Char} (shape : scan.rest = c :: rest)
    (again : ∀ left, step { scan with rest := c :: left } { scan with rest := left }) :
    Reads behind step scan { scan with rest := rest } :=
  ⟨id, [c], by rw [shape, List.singleton_append], fun left _ => again left⟩

theorem char {c : Char} {rest : List Char} (shape : scan.rest = c :: rest) :
    Reads behind (fun scan out => scan = { out with rest := c :: out.rest }) scan
      { scan with rest := rest } :=
  one shape fun _ => rfl

theorem andThen (first : Reads behind step scan middle) (second : Reads behind step' middle out)
    (goesOn : ∀ front between left, between.length ≤ front.length →
      middle.rest = between ++ ')' :: behind →
      step { scan with rest := front } { middle with rest := between } →
      step' { middle with rest := between } { out with rest := left } →
      whole { scan with rest := front } { out with rest := left }) : Reads behind whole scan out := by
  obtain ⟨names, taken, shape, again⟩ := first
  obtain ⟨names', taken', shape', again'⟩ := second
  refine ⟨names' ∘ names, taken ++ taken', by rw [shape, shape', List.append_assoc],
    fun left rest => ?_⟩
  have mid : middle.rest = (taken' ++ left) ++ ')' :: behind := by
    rw [shape', rest, List.append_assoc]
  rw [List.append_assoc]
  exact goesOn _ _ _ (by simp) mid (again _ mid) (again' left rest)

theorem trans (first : Reads behind step scan middle) (second : Reads behind step' middle out) :
    Reads behind (Relation.Comp step step') scan out :=
  first.andThen second fun _ _ _ _ _ again again' => ⟨_, again, again'⟩

end Reads

variable {behind : List Char}

/-- A text that does not begin with a character has no beginning that begins with it. -/
theorem not_cons_of_append {c : Char} {text left rest : List Char}
    (other : ∀ more, text = c :: more → False) (shape : text = left ++ rest) (more : List Char) :
    left ≠ c :: more := fun same => other (more ++ rest) (by rw [shape, same, List.cons_append])

/-! ### Blanks -/

theorem dropWhile_reads (skips : Char → Bool) (scan : Scan) :
    Reads behind (fun scan out => { scan with rest := scan.rest.dropWhile skips } = out) scan
      { scan with rest := scan.rest.dropWhile skips } := by
  refine ⟨id, scan.rest.takeWhile skips, (List.takeWhile_append_dropWhile).symm, ?_⟩
  intro left shape
  have stop := List.head?_dropWhile_not skips scan.rest
  refine congrArg (Scan.mk · scan.flags scan.names) ?_
  rw [List.dropWhile_append_of_pos fun c inside => List.mem_takeWhile_imp inside]
  cases left with
  | nil => rfl
  | cons c left =>
    rw [show scan.rest.dropWhile skips = _ from shape, List.cons_append, List.head?_cons] at stop
    rw [List.dropWhile_cons_of_neg (by simpa using stop)]

theorem dropVerbose_reads (inComment : Bool) (scan : Scan) :
    Reads behind (fun scan out => dropVerbose inComment scan.rest = out.rest) scan
      { scan with rest := dropVerbose inComment scan.rest } := by
  obtain ⟨text, flags, names⟩ := scan
  induction text generalizing inComment with
  | nil => cases inComment <;> exact .stay fun _ shape => by simp at shape
  | cons c rest ih =>
    -- Either the character is passed over, or the text begins with it.
    have passed (next : Bool)
        (step : ∀ more, dropVerbose inComment (c :: more) = dropVerbose next more) :
        Reads behind (fun scan out => dropVerbose inComment scan.rest = out.rest)
          ⟨c :: rest, flags, names⟩ ⟨dropVerbose inComment (c :: rest), flags, names⟩ :=
      step rest ▸ .cons rfl (ih next) fun front _ again => (step front).trans again
    cases inComment with
    | true => exact passed (c != '\n') fun more => rfl
    | false =>
      by_cases blank : isBlank c = true
      · exact passed false fun more => by rw [dropVerbose, if_pos blank]
      by_cases comment : c = '#'
      · exact passed true fun more => by rw [dropVerbose, if_neg blank, if_pos comment]
      have kept (more : List Char) : dropVerbose false (c :: more) = c :: more := by
        rw [dropVerbose, if_neg blank, if_neg comment]
      rw [kept]
      refine .stay fun left shape => ?_
      cases left with
      | nil => rfl
      | cons d left =>
        obtain ⟨rfl, -⟩ := List.cons.inj shape
        exact kept left

namespace Scan

theorem skipBlanks_reads (scan : Scan) :
    Reads behind (fun scan out => scan.skipBlanks = out) scan scan.skipBlanks := by
  by_cases verbose : scan.flags.verbose = true
  · have dropped (rest : List Char) : { scan with rest := rest }.skipBlanks =
        { scan with rest := dropVerbose false rest } := by
      rw [skipBlanks, if_pos verbose]
    rw [show scan.skipBlanks = _ from dropped scan.rest]
    refine (dropVerbose_reads false scan).mono fun front left _ again => ?_
    dsimp only at again
    rw [dropped, again]
  · have kept (rest : List Char) : { scan with rest := rest }.skipBlanks =
        { scan with rest := rest } := by
      rw [skipBlanks, if_neg verbose]
    rw [show scan.skipBlanks = _ from kept scan.rest]
    exact .stay fun left _ => kept left

theorem length_goOn_le (scan : Scan) (rest : List Char) :
    (scan.goOn rest).rest.length ≤ rest.length :=
  (skipBlanks_reads { scan with rest := rest } : Reads [] _ _ _).length_le

/-- Behind a character the scan goes on with blanks skipped. -/
theorem goOn_reads {scan : Scan} {c : Char} {rest : List Char} (shape : scan.rest = c :: rest) :
    Reads behind (fun scan out => ∃ front, scan.rest = c :: front ∧ scan.goOn front = out) scan
      (scan.goOn rest) :=
  .cons shape (skipBlanks_reads _) fun front _ again => ⟨front, rfl, again⟩

/-- A loop goes on behind a character and the blanks there, with less text than before. -/
theorem goOn_andThen {step whole : Scan → Scan → Prop} {scan out : Scan} {c : Char}
    {rest : List Char} (shape : scan.rest = c :: rest)
    (later : Reads behind step (scan.goOn rest) out) (goesOn : ∀ front between left,
      between.rest.length ≤ front.length → { scan with rest := c :: front }.goOn front = between →
      step between { out with rest := left } →
      whole { scan with rest := c :: front } { out with rest := left }) :
    Reads behind whole scan out := by
  refine (goOn_reads shape).andThen later ?_
  rintro _ between left - - ⟨front, rfl, again⟩ again'
  exact goesOn front _ left (again ▸ length_goOn_le _ front) again again'

theorem takeLoose_go_reads {kind : Char → Bool} {room : Nat} {scan out : Scan}
    {found : List Char} (enough : scan.rest.length ≤ room)
    (done : takeLoose.go kind room scan = (found, out)) :
    Reads behind (fun scan out => ∀ room, scan.rest.length ≤ room →
      takeLoose.go kind room scan = (found, out)) scan out := by
  induction room generalizing scan found with
  | zero =>
    obtain ⟨rfl, rfl⟩ := Prod.mk.inj done
    refine .stay fun left shape => ?_
    rw [List.length_eq_zero_iff.mp (Nat.le_zero.mp enough)] at shape
    simp at shape
  | succ room ih =>
    rw [takeLoose.go] at done
    split at done
    next shape =>
      obtain ⟨rfl, rfl⟩ := Prod.mk.inj done
      exact .stay fun left shape' => by simp [shape] at shape'
    next c rest shape =>
      split at done
      next own =>
        obtain ⟨rfl, rfl⟩ := Prod.mk.inj done
        rw [shape, List.length_cons] at enough
        have fewer := (scan.length_goOn_le rest).trans (Nat.le_of_succ_le_succ enough)
        refine goOn_andThen shape (ih fewer rfl) ?_
        rintro front between left shorter again again' (_ | room) enough
        · contradiction
        have fewer := shorter.trans (Nat.le_of_succ_le_succ enough)
        simp only [takeLoose.go, own, if_true, again, again' room fewer]
      next other =>
        obtain ⟨rfl, rfl⟩ := Prod.mk.inj done
        refine .stay fun left shape' room _ => ?_
        -- What comes next is of another kind, or the parenthesis.
        cases room with
        | zero => rfl
        | succ room =>
          cases left with
          | nil => rfl
          | cons d left =>
            obtain ⟨rfl, -⟩ := List.cons.inj (shape.symm.trans shape')
            simp [takeLoose.go, other]

theorem takeLoose_reads {kind : Char → Bool} {scan out : Scan} {found : List Char}
    (done : scan.takeLoose kind = (found, out)) :
    Reads behind (fun scan out => scan.takeLoose kind = (found, out)) scan out :=
  (takeLoose_go_reads (Nat.le_refl _) done).mono fun _ _ _ again => again _ (Nat.le_refl _)

theorem takeBraced_reads {scan out : Scan} {found : List Char}
    (done : scan.takeBraced = .ok (found, out)) :
    Reads behind (fun scan out => scan.takeBraced = .ok (found, out)) scan out := by
  rw [takeBraced] at done
  dsimp only at done
  split at done
  next c rest shape =>
    obtain ⟨rfl, rfl⟩ := Prod.mk.inj (Except.ok.inj done)
    refine (((skipBlanks_reads scan).trans (takeLoose_reads (Prod.eta _).symm)).trans
      (.char shape)).mono ?_
    rintro front left - ⟨_, ⟨_, blanks, loose⟩, mark⟩
    rw [takeBraced, blanks, loose, mark]
  next => contradiction

end Scan

/-! ### Code points -/

theorem readHexDigits_reads {count value n : Nat} {scan out : Scan}
    (done : readHexDigits count value scan = .ok (n, out)) :
    Reads behind (fun scan out => readHexDigits count value scan = .ok (n, out)) scan out := by
  induction count generalizing value scan with
  | zero =>
    obtain ⟨rfl, rfl⟩ := Prod.mk.inj (Except.ok.inj done)
    exact .stay fun _ _ => rfl
  | succ count ih =>
    rw [readHexDigits] at done
    split at done
    next => contradiction
    next c rest shape =>
      split at done
      next digit value' =>
        refine ((Scan.goOn_reads shape).trans (ih done)).mono ?_
        rintro _ left - ⟨_, ⟨rest, rfl, blanks⟩, later⟩
        simp only [readHexDigits, value', blanks, later]
      next => contradiction

/-- Where digits are read there is one. -/
theorem exists_hexValue_of_readHexDigits {count value n : Nat} {scan out : Scan}
    (done : readHexDigits (count + 1) value scan = .ok (n, out)) :
    ∃ c rest, scan.rest = c :: rest ∧ (hexValue c).isSome := by
  rw [readHexDigits] at done
  split at done
  next => contradiction
  next c rest shape =>
    split at done
    next digit value' => exact ⟨c, rest, shape, by rw [value']; rfl⟩
    next => contradiction

theorem readCodePoint_reads {count : Nat} {c : Char} {scan out : Scan}
    (done : readCodePoint (count + 1) scan = .ok (c, out)) :
    Reads behind (fun scan out => readCodePoint (count + 1) scan = .ok (c, out)) scan out := by
  rw [readCodePoint] at done
  split at done
  next => contradiction
  next rest shape =>
    obtain ⟨⟨digits, inside⟩, braced, done⟩ := bind_eq_ok_iff.mp done
    dsimp only at done
    split at done
    next d others n value =>
      obtain ⟨code, valid, done⟩ := bind_eq_ok_iff.mp done
      obtain ⟨rfl, rfl⟩ := Prod.mk.inj (Except.ok.inj done)
      refine .cons shape ((Scan.takeBraced_reads braced).trans inside.skipBlanks_reads) ?_
      rintro front left ⟨_, braced, blanks⟩
      simp [readCodePoint, braced, value, valid, blanks, bind, Except.bind, pure, Except.pure]
    next => contradiction
  next bare =>
    obtain ⟨⟨n, digits⟩, read, done⟩ := bind_eq_ok_iff.mp done
    obtain ⟨code, valid, done⟩ := bind_eq_ok_iff.mp done
    obtain ⟨rfl, rfl⟩ := Prod.mk.inj (Except.ok.inj done)
    refine (readHexDigits_reads read).mono fun front left _ again => ?_
    obtain ⟨d, rest, rfl, digit⟩ := exists_hexValue_of_readHexDigits again
    have ordinary : d ≠ '\x7b' := by
      rintro rfl
      contradiction
    simp [readCodePoint, ordinary, again, valid, bind, Except.bind, pure, Except.pure]

theorem readByteOrCode_reads {c : Char} {scan out : Scan}
    (done : readByteOrCode scan = .ok (c, out)) :
    Reads behind (fun scan out => readByteOrCode scan = .ok (c, out)) scan out := by
  rw [readByteOrCode] at done
  obtain ⟨⟨d, inside⟩, read, done⟩ := bind_eq_ok_iff.mp done
  dsimp only at done
  split at done
  next text =>
    obtain ⟨rfl, rfl⟩ := Prod.mk.inj (Except.ok.inj done)
    refine (readCodePoint_reads read).mono fun front left shape again => ?_
    -- The text that is left still begins with the same character.
    obtain _ | ⟨first, front⟩ := front
    · contradiction
    simp only [shape, List.cons_append, List.head?_cons] at text
    simp only [readByteOrCode, again, List.head?_cons, bind, Except.bind, pure, Except.pure]
    exact if_pos text
  next => contradiction

/-! ### Properties and word boundaries -/

/-- The set of a property is found whatever stands behind its name. -/
theorem exists_propertySet {negated : Bool} {text : List Char} {found : Escaped} {inside out : Scan}
    (done : (if !inside.flags.unicode then Except.error Error.notText
      else match propertySet? text with
        | some s => do
          return (Escaped.set (← inside.flags.complementIf negated (inside.flags.foldSet s)), inside)
        | none => .error (.unknownProperty (String.ofList text))) = .ok (found, out)) :
    out = inside ∧ inside.flags.unicode = true ∧ ∃ s set, propertySet? text = some s ∧
      inside.flags.complementIf negated (inside.flags.foldSet s) = .ok set ∧ found = .set set := by
  split at done
  next => contradiction
  next unicode =>
    split at done
    next s known =>
      obtain ⟨set, whole, done⟩ := bind_eq_ok_iff.mp done
      obtain ⟨rfl, rfl⟩ := Prod.mk.inj (Except.ok.inj done)
      exact ⟨rfl, by simpa using unicode, s, set, known, whole, rfl⟩
    next => contradiction

theorem readProperty_reads {negated : Bool} {found : Escaped} {scan out : Scan}
    (done : readProperty negated scan = .ok (found, out)) :
    Reads behind (fun scan out => readProperty negated scan = .ok (found, out)) scan out := by
  rw [readProperty] at done
  split at done
  next => contradiction
  next rest shape =>
    obtain ⟨⟨text, inside⟩, braced, done⟩ := bind_eq_ok_iff.mp done
    obtain ⟨rfl, unicode, s, set, known, whole, rfl⟩ := exists_propertySet done
    refine .cons shape (Scan.takeBraced_reads braced) fun front left braced => ?_
    simp [readProperty, braced, unicode, known, whole, bind, Except.bind, pure, Except.pure]
  next c rest other shape =>
    obtain ⟨⟨text, inside⟩, single, done⟩ := bind_eq_ok_iff.mp done
    obtain ⟨rfl, unicode, s, set, known, whole, rfl⟩ := exists_propertySet done
    obtain ⟨rfl, rfl⟩ := Prod.mk.inj (Except.ok.inj single)
    refine (Scan.goOn_reads shape).mono ?_
    rintro _ left - ⟨front, rfl, blanks⟩
    simp [readProperty, blanks, unicode, known, whole, bind, Except.bind, pure,
      Except.pure]

/-- Whether something stands in the braces behind a condition, if there are any. -/
def Escaped.IsBounded (found : Escaped) (out : Scan) : Prop :=
  ∀ condition rest, found = .look condition → out.rest = '\x7b' :: rest → (out.goOn rest).rest ≠ []

theorem dropVerbose_append {inComment : Bool} {text : List Char} (rest : List Char)
    (some : dropVerbose inComment text ≠ []) :
    dropVerbose inComment (text ++ rest) = dropVerbose inComment text ++ rest := by
  induction text generalizing inComment with
  | nil => cases inComment <;> exact absurd rfl some
  | cons c text ih =>
    cases inComment with
    | true => exact ih some
    | false =>
      simp only [dropVerbose, List.cons_append] at some ⊢
      split
      next blank =>
        rw [if_pos blank] at some
        exact ih some
      next solid =>
        rw [if_neg solid] at some
        split
        next mark =>
          rw [if_pos mark] at some
          exact ih some
        next => rfl

theorem Scan.goOn_append {scan : Scan} {text : List Char} (rest : List Char)
    (some : (scan.goOn text).rest ≠ []) :
    (scan.goOn (text ++ rest)).rest = (scan.goOn text).rest ++ rest := by
  simp only [goOn, skipBlanks] at some ⊢
  split
  next verbose =>
    rw [if_pos verbose] at some
    exact dropVerbose_append rest some
  next => rfl

theorem Scan.exists_of_takeLoose {kind : Char → Bool} {scan out : Scan} {c : Char}
    {found : List Char} (done : scan.takeLoose kind = (c :: found, out)) :
    ∃ rest, scan.rest = c :: rest ∧ kind c = true := by
  rw [takeLoose] at done
  cases shape : scan.rest with
  | nil => simp [shape, takeLoose.go] at done
  | cons d rest =>
    rw [shape, List.length_cons, takeLoose.go] at done
    simp only [shape] at done
    split at done
    next own =>
      obtain ⟨rfl, -⟩ := List.cons.inj (Prod.mk.inj done).1
      exact ⟨rest, rfl, own⟩
    next => simp at done

theorem readBoundary_reads {found : Escaped} {scan out : Scan}
    (done : readBoundary scan = .ok (found, out)) :
    Reads behind (fun scan out => found.IsBounded out → readBoundary scan = .ok (found, out))
      scan out := by
  rw [readBoundary] at done
  dsimp only at done
  split at done
  next rest shape =>
    split at done
    next => contradiction
    next c more inside =>
      split at done
      next other =>
        obtain ⟨rfl, rfl⟩ := Prod.mk.inj (Except.ok.inj done)
        refine .stay fun left shape' bounded => ?_
        obtain _ | ⟨d, left⟩ := left
        · simp [shape] at shape'
        rw [shape, List.cons_append, List.cons.injEq] at shape'
        obtain ⟨rfl, rfl⟩ := shape'
        -- What stands in the braces begins with the same character.
        have some : (scan.goOn left).rest ≠ [] := bounded _ left rfl rfl
        obtain ⟨e, text, begins⟩ := List.exists_cons_of_ne_nil some
        rw [Scan.goOn_append _ some, begins, List.cons_append] at inside
        obtain ⟨rfl, -⟩ := List.cons.inj inside
        have again : (Scan.goOn { scan with rest := '\x7b' :: left } left).rest = e :: text := begins
        simp [readBoundary, again, other]
      next own =>
        generalize loose : (scan.goOn rest).takeLoose isEdgeNameChar = taken at done
        obtain ⟨name, between⟩ := taken
        dsimp only at done
        split at done
        next behind' edge closed named =>
          obtain ⟨rfl, rfl⟩ := Prod.mk.inj (Except.ok.inj done)
          refine (((Scan.goOn_reads shape).trans (Scan.takeLoose_reads loose)).trans
            (.char closed)).mono ?_
          rintro _ left - ⟨_, ⟨_, ⟨front, rfl, blanks⟩, loose⟩, rfl⟩ -
          obtain _ | ⟨d, others⟩ := name
          · contradiction
          obtain ⟨rest, begins, edgeName⟩ := Scan.exists_of_takeLoose loose
          subst blanks
          simp [readBoundary, begins, edgeName, loose, named]
        next => contradiction
  next bare =>
    obtain ⟨rfl, rfl⟩ := Prod.mk.inj (Except.ok.inj done)
    refine .stay fun left shape _ => ?_
    have bare := not_cons_of_append bare shape
    simp [readBoundary]

/-- Behind the letter of an escape, blanks may stand in front of what it asks for. -/
theorem Reads.escape {step whole : Scan → Scan → Prop} {scan out : Scan} {c : Char}
    {rest : List Char} (shape : scan.rest = c :: rest)
    (later : Reads behind step (Scan.skipBlanks { scan with rest := rest }) out)
    (goesOn : ∀ front left, step (Scan.skipBlanks { scan with rest := front })
      { out with rest := left } → whole { scan with rest := c :: front } { out with rest := left }) :
    Reads behind whole scan out := by
  refine .cons shape ((Scan.skipBlanks_reads _).trans later) ?_
  rintro front left ⟨_, rfl, again⟩
  exact goesOn front left again

theorem readEscape_reads {found : Escaped} {scan out : Scan}
    (done : readEscape scan = .ok (found, out)) :
    Reads behind (fun scan out => found.IsBounded out → readEscape scan = .ok (found, out))
      scan out := by
  rw [readEscape] at done
  split at done
  next => contradiction
  next c rest shape =>
    dsimp only at done
    split at done
    next => contradiction
    next noDigit =>
      split at done
      case h_1 =>
        obtain ⟨⟨d, inside⟩, code, done⟩ := bind_eq_ok_iff.mp done
        obtain ⟨rfl, rfl⟩ := Prod.mk.inj (Except.ok.inj done)
        refine .escape shape (readByteOrCode_reads code) fun front left again _ => ?_
        simp [readEscape, noDigit, again, bind, Except.bind, pure, Except.pure]
      case h_2 | h_3 =>
        obtain ⟨⟨d, inside⟩, code, done⟩ := bind_eq_ok_iff.mp done
        obtain ⟨rfl, rfl⟩ := Prod.mk.inj (Except.ok.inj done)
        refine .escape shape (readCodePoint_reads code) fun front left again _ => ?_
        simp [readEscape, noDigit, again, bind, Except.bind, pure, Except.pure]
      case h_4 | h_5 =>
        refine .escape shape (readProperty_reads done) fun front left again _ => ?_
        simp [readEscape, noDigit, again]
      case h_14 =>
        refine .cons shape (readBoundary_reads done) fun front left again bounded => ?_
        simp [readEscape, noDigit, again bounded]
      case h_6 | h_7 | h_8 | h_9 | h_10 | h_11 =>
        obtain ⟨found, letter, done⟩ := bind_eq_ok_iff.mp done
        obtain ⟨rfl, rfl⟩ := Prod.mk.inj (Except.ok.inj done)
        refine .one shape fun left _ => ?_
        simp [readEscape, noDigit, letter, bind, Except.bind, pure, Except.pure]
      case h_12 | h_13 | h_15 | h_16 | h_17 =>
        obtain ⟨rfl, rfl⟩ := Prod.mk.inj (Except.ok.inj done)
        refine .one shape fun left _ => ?_
        simp [readEscape, noDigit]
      next =>
        split at done
        next control known =>
          obtain ⟨rfl, rfl⟩ := Prod.mk.inj (Except.ok.inj done)
          refine .one shape fun left _ => ?_
          simp [readEscape, noDigit, known]
        next unknown =>
          split at done
          next own =>
            obtain ⟨rfl, rfl⟩ := Prod.mk.inj (Except.ok.inj done)
            refine .one shape fun left _ => ?_
            simp [readEscape, noDigit, unknown, own]
          next => contradiction

end Constituency.Regex
