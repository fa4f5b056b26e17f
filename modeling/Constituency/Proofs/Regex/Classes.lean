import Constituency.Proofs.Regex.Locality
import Constituency.Proofs.Text.Trimming

/-!
# Classes and what stands behind them

Bracketed classes are read without regard to the text behind a closing parenthesis, as the other
pieces of a pattern are. A parenthesis inside a class is a member like any other, so what a class
looks ahead at is followed up to that parenthesis and no further.
-/
namespace Constituency.Regex

open Constituency.Text

variable {behind : List Char}

/-! ### Members and ranges -/

/-- Whether a member can stand in a class of characters under these flags. -/
def Escaped.IsText (flags : Flags) : Escaped → Bool
  | .char c => flags.unicode || c.toNat < 128
  | .set _ | .look _ => true

theorem exists_member {flags : Flags} {member found : Escaped} {inside out : Scan}
    (done : (match member with
      | .char c => if flags.unicode || c.toNat < 128 then (pure (member, inside) : Except Error _)
        else .error .notText
      | _ => pure (member, inside)) = .ok (found, out)) :
    member = found ∧ inside = out ∧ member.IsText flags = true := by
  cases member with
  | char c =>
    dsimp only at done
    split at done
    next text =>
      obtain ⟨rfl, rfl⟩ := Prod.mk.inj (Except.ok.inj done)
      exact ⟨rfl, rfl, text⟩
    next => contradiction
  | set s | look condition =>
    obtain ⟨rfl, rfl⟩ := Prod.mk.inj (Except.ok.inj done)
    exact ⟨rfl, rfl, rfl⟩

theorem readMember_reads {found : Escaped} {scan out : Scan}
    (done : readMember scan = .ok (found, out)) :
    Reads behind (fun scan out => found.IsBounded out → readMember scan = .ok (found, out))
      scan out := by
  rw [readMember] at done
  split at done
  next => contradiction
  next rest shape =>
    obtain ⟨⟨member, inside⟩, escape, done⟩ := bind_eq_ok_iff.mp done
    obtain ⟨rfl, rfl, text⟩ := exists_member done
    refine .cons shape (readEscape_reads escape) fun front left again bounded => ?_
    cases member <;> simp_all [readMember, Escaped.IsText, bind, Except.bind, pure, Except.pure]
  next c rest ordinary shape =>
    obtain ⟨⟨member, inside⟩, single, done⟩ := bind_eq_ok_iff.mp done
    obtain ⟨rfl, rfl, text⟩ := exists_member done
    obtain ⟨rfl, rfl⟩ := Prod.mk.inj (Except.ok.inj single)
    refine .one shape fun left _ => ?_
    simp_all [readMember, Escaped.IsText, bind, Except.bind, pure, Except.pure]

/-- What is no blank and comes first is not dropped. -/
theorem head?_dropWhile_of_solid {text : List Char} {c : Char} (solid : isBlank c = false)
    (first : text.head? = some c) : (text.dropWhile isBlank).head? = some c := by
  obtain ⟨rest, rfl⟩ := List.head?_eq_some_iff.mp first
  rw [List.dropWhile_cons_of_neg (by simp [solid])]
  rfl

/-- Neither a parenthesis nor the end of the text decides what a minus sign means. -/
theorem Scan.behindMinus_append {scan : Scan} {c : Char} (text : List Char)
    (solid : isBlank c = false) (noMark : c ≠ '#') (noEnd : c ≠ ')') :
    scan.behindMinus (text ++ ')' :: behind) = some c ↔ scan.behindMinus text = some c := by
  have paren : isBlank ')' = false := by decide
  have noEnd' : ')' ≠ c := noEnd.symm
  unfold behindMinus
  split
  next verbose =>
    have first : text.head? = some c → (text.dropWhile isBlank).head? = some c :=
      head?_dropWhile_of_solid solid
    rw [dropWhile_append_cons text behind paren]
    cases shown : text.dropWhile isBlank with
    | nil =>
      -- Only blanks stand in front of the parenthesis.
      have other : text.head? ≠ some c := fun here => by simpa [shown] using first here
      simp [other, noEnd']
    | cons d rest =>
      by_cases mark : d = '#'
      · -- Behind the sign of a comment, blanks are skipped a second time.
        subst mark
        simp only [List.cons_append, dropWhile_append_cons rest behind paren]
        cases inside : rest.dropWhile isBlank with
        | nil =>
          have other : text.head? ≠ some c := fun here => by
            rw [shown] at first
            exact noMark (Option.some.inj (first here)).symm
          simp [other, noEnd']
        | cons e rest => simp
      · simp [mark]
  next =>
    cases text with
    | nil => simp [noEnd']
    | cons d text => simp

/-- Whether a minus sign in front of a text is a member rather than part of a range. -/
def Scan.IsDash (scan : Scan) (rest : List Char) : Prop :=
  scan.behindMinus rest = some ']' ∨ scan.behindMinus rest = some '-'

theorem Scan.isDash_append {scan : Scan} (text : List Char) :
    scan.IsDash (text ++ ')' :: behind) ↔ scan.IsDash text := by
  unfold IsDash
  rw [behindMinus_append text (by decide) (by decide) (by decide),
    behindMinus_append text (by decide) (by decide) (by decide)]

/-- The characters that a member stands for where it is no end of a range. -/
def Escaped.alone? : Escaped → Option CharSet
  | .char c => some (.single c)
  | .set s => some s
  | .look _ => none

theorem exists_alone {first : Escaped} {s : CharSet} {inside out : Scan}
    (done : (match first with
      | .char c => (.ok (.single c, inside) : Except Error (CharSet × Scan))
      | .set s => .ok (s, inside)
      | .look _ => .error .classItem) = .ok (s, out)) :
    inside = out ∧ first.alone? = some s := by
  cases first with
  | char c | set s' =>
    obtain ⟨rfl, rfl⟩ := Prod.mk.inj (Except.ok.inj done)
    exact ⟨rfl, rfl⟩
  | look condition => contradiction

/-- What can stand in a class is no condition, so braces behind it belong to nothing. -/
theorem Escaped.isBounded_of_alone {first : Escaped} {s : CharSet} (alone : first.alone? = some s)
    (out : Scan) : first.IsBounded out := by
  rintro condition rest rfl
  contradiction

theorem length_lt_of_readMember {found : Escaped} {scan out : Scan}
    (done : readMember scan = .ok (found, out)) : out.rest.length < scan.rest.length := by
  rw [readMember] at done
  split at done
  next => contradiction
  next rest shape =>
    obtain ⟨⟨member, inside⟩, escape, done⟩ := bind_eq_ok_iff.mp done
    obtain ⟨rfl, rfl, -⟩ := exists_member done
    rw [shape]
    exact Nat.lt_succ_of_le (readEscape_reads escape : Reads [] _ _ _).length_le
  next c rest ordinary shape =>
    obtain ⟨⟨member, inside⟩, single, done⟩ := bind_eq_ok_iff.mp done
    obtain ⟨rfl, rfl, -⟩ := exists_member done
    obtain ⟨rfl, rfl⟩ := Prod.mk.inj (Except.ok.inj single)
    rw [shape]
    exact Nat.lt_succ_self _

theorem length_lt_of_readRange {s : CharSet} {scan out : Scan}
    (done : readRange scan = .ok (s, out)) : out.rest.length < scan.rest.length := by
  rw [readRange] at done
  obtain ⟨⟨first, between⟩, member, done⟩ := bind_eq_ok_iff.mp done
  have fewer := length_lt_of_readMember member
  have blanks := (between.skipBlanks_reads : Reads [] _ _ _).length_le
  dsimp only at done
  split at done
  next rest minus =>
    split at done
    next dash =>
      obtain ⟨rfl, -⟩ := exists_alone done
      omega
    next range =>
      obtain ⟨⟨last, inside⟩, member', done⟩ := bind_eq_ok_iff.mp done
      have fewer' := length_lt_of_readMember member'
      have blanks' := between.skipBlanks.length_goOn_le rest
      rw [minus, List.length_cons] at blanks
      dsimp only at done
      split at done
      next =>
        split at done
        next =>
          obtain ⟨rfl, rfl⟩ := Prod.mk.inj (Except.ok.inj done)
          omega
        next => contradiction
      next => contradiction
  next =>
    obtain ⟨rfl, -⟩ := exists_alone done
    omega

theorem readRange_reads {s : CharSet} {scan out : Scan} (done : readRange scan = .ok (s, out)) :
    Reads behind (fun scan out => readRange scan = .ok (s, out)) scan out := by
  rw [readRange] at done
  obtain ⟨⟨first, between⟩, member, done⟩ := bind_eq_ok_iff.mp done
  have front : Reads behind _ scan between.skipBlanks :=
    (readMember_reads member).trans between.skipBlanks_reads
  dsimp only at done
  split at done
  next rest minus =>
    split at done
    next dash =>
      -- The minus sign belongs to what comes next, and the member stands alone.
      obtain ⟨rfl, alone⟩ := exists_alone done
      have here : Reads behind (fun scan out =>
          (∃ rest, scan.rest = '-' :: rest ∧ scan.IsDash rest) ∧ scan = out)
          between.skipBlanks between.skipBlanks := .stay fun left shape => by
        obtain _ | ⟨d, left⟩ := left
        · simp [minus] at shape
        rw [minus, List.cons_append, List.cons.injEq] at shape
        obtain ⟨rfl, rfl⟩ := shape
        exact ⟨⟨left, rfl, (Scan.isDash_append left).mp dash⟩, rfl⟩
      refine (front.trans here).mono ?_
      rintro front left - ⟨_, ⟨between, member, rfl⟩, ⟨rest, minus, dash⟩, same⟩
      have member := member (Escaped.isBounded_of_alone alone _)
      cases first <;> simp_all [readRange, Scan.IsDash, Escaped.alone?, bind, Except.bind]
    next range =>
      obtain ⟨⟨last, inside⟩, member', done⟩ := bind_eq_ok_iff.mp done
      dsimp only at done
      split at done
      next =>
        split at done
        next ordered =>
          obtain ⟨rfl, rfl⟩ := Prod.mk.inj (Except.ok.inj done)
          refine front.andThen ((Scan.goOn_reads minus).trans (readMember_reads member')) ?_
          rintro front middle left - shape ⟨_, member, blanks⟩ ⟨_, ⟨rest, rfl, rfl⟩, member'⟩
          have member := member nofun
          have member' := member' nofun
          rw [minus, List.cons_append, List.cons.injEq] at shape
          obtain ⟨-, rfl⟩ := shape
          have range : ¬ Scan.IsDash { between.skipBlanks with rest := '-' :: rest } rest :=
            fun dash => range ((Scan.isDash_append rest).mpr dash)
          simp_all [readRange, Scan.IsDash, bind, Except.bind]
        next => contradiction
      next => contradiction
  next noMinus =>
    obtain ⟨rfl, alone⟩ := exists_alone done
    have here : Reads behind (fun scan out => (∀ rest, scan.rest ≠ '-' :: rest) ∧ scan = out)
        between.skipBlanks between.skipBlanks := .stay fun left shape =>
      ⟨not_cons_of_append noMinus shape, rfl⟩
    refine (front.trans here).mono ?_
    rintro front left - ⟨_, ⟨between, member, rfl⟩, noMinus, same⟩
    have member := member (Escaped.isBounded_of_alone alone _)
    cases first <;> simp_all [readRange, Escaped.alone?, bind, Except.bind]

/-! ### Leading dashes and named sets -/

theorem readLeadingDashes_reads {room : Nat} {members found : Members} {scan out : Scan}
    (enough : scan.rest.length ≤ room) (done : readLeadingDashes room members scan = (found, out)) :
    Reads behind (fun scan out => ∀ room, scan.rest.length ≤ room →
      readLeadingDashes room members scan = (found, out)) scan out := by
  induction room generalizing scan members with
  | zero =>
    -- Without room there is no text, so no parenthesis stands behind it.
    obtain ⟨rfl, rfl⟩ := Prod.mk.inj done
    refine .stay fun left shape => ?_
    rw [List.length_eq_zero_iff.mp (Nat.le_zero.mp enough)] at shape
    simp at shape
  | succ room ih =>
    rw [readLeadingDashes] at done
    split at done
    next rest minus =>
      rw [minus, List.length_cons] at enough
      have fewer := (scan.length_goOn_le rest).trans (Nat.le_of_succ_le_succ enough)
      refine Scan.goOn_andThen minus (ih fewer done) ?_
      rintro front between left shorter again again' (_ | room) enough
      · contradiction
      have fewer := shorter.trans (Nat.le_of_succ_le_succ enough)
      simp only [readLeadingDashes, again, again' room fewer]
    next noMinus =>
      obtain ⟨rfl, rfl⟩ := Prod.mk.inj done
      refine .stay fun left shape room _ => ?_
      obtain _ | room := room
      · rfl
      have noMinus := not_cons_of_append noMinus shape
      simp [readLeadingDashes]

/-- What is found up to a mark is the same whatever stands behind the mark. -/
theorem cut_append {mark : Char} {text rest : List Char}
    (found : text.dropWhile (· != mark) = mark :: rest) :
    text = text.takeWhile (· != mark) ++ mark :: rest ∧ ∀ left,
      (text.takeWhile (· != mark) ++ mark :: left).takeWhile (· != mark) =
        text.takeWhile (· != mark) ∧
      (text.takeWhile (· != mark) ++ mark :: left).dropWhile (· != mark) = mark :: left := by
  have others : ∀ c ∈ text.takeWhile (· != mark), (c != mark) = true :=
    fun c inside => List.mem_takeWhile_imp (p := (· != mark)) inside
  have stop (rest : List Char) : (mark :: rest).takeWhile (· != mark) = [] ∧
      (mark :: rest).dropWhile (· != mark) = mark :: rest := by simp
  refine ⟨?_, fun left => ⟨?_, ?_⟩⟩
  · rw [← found, List.takeWhile_append_dropWhile]
  · rw [List.takeWhile_append_of_pos others, (stop left).1, List.append_nil]
  · rw [List.dropWhile_append_of_pos others, (stop left).2]

/-- Whether a circumflex stands in front of a name, and the text behind it. -/
def splitSign : List Char → Bool × List Char
  | '^' :: rest => (true, rest)
  | rest => (false, rest)

theorem readNamedSet_colon (inside : List Char) : readNamedSet (':' :: inside) =
    match (splitSign inside).2.dropWhile (· != ':') with
    | ':' :: ']' :: behind => (CharSet.ofName ((splitSign inside).2.takeWhile (· != ':'))).map
        fun s => ((s, (splitSign inside).1), behind)
    | _ => none := rfl

/-- The sign is seen in front of the mark, and does not depend on what stands behind it. -/
theorem splitSign_append {mark : Char} {text rest : List Char} (noSign : mark ≠ '^')
    (found : (splitSign text).2.dropWhile (· != mark) = mark :: rest) : ∃ front,
      text = front ++ mark :: rest ∧ ∀ left, splitSign (front ++ mark :: left) =
        ((splitSign text).1, (splitSign text).2.takeWhile (· != mark) ++ mark :: left) := by
  obtain ⟨shape, -⟩ := cut_append found
  generalize word : (splitSign text).2.takeWhile (· != mark) = before at shape ⊢
  unfold splitSign at shape ⊢
  split at shape
  next inside =>
    dsimp only at shape
    exact ⟨'^' :: before, by rw [shape]; rfl, fun left => rfl⟩
  next bare =>
    dsimp only at shape
    refine ⟨before, shape, fun left => ?_⟩
    split
    next rest same =>
      -- A circumflex here would be the mark or stand in the text already.
      obtain _ | ⟨d, before⟩ := before
      · exact absurd (List.cons.inj same).1 noSign
      · obtain ⟨rfl, -⟩ := List.cons.inj same
        exact (bare _ shape).elim
    next => rfl

theorem exists_of_readNamedSet {text rest : List Char} {found : CharSet × Bool}
    (done : readNamedSet text = some (found, rest)) :
    ∃ taken, text = taken ++ rest ∧ ∀ left, readNamedSet (taken ++ left) = some (found, left) := by
  obtain _ | ⟨c, inside⟩ := text
  · contradiction
  by_cases colon : c = ':'
  · subst colon
    rw [readNamedSet_colon] at done
    split at done
    next last closed =>
      obtain ⟨s, known, same⟩ := Option.map_eq_some_iff.mp done
      obtain ⟨rfl, rfl⟩ := Prod.mk.inj same
      obtain ⟨front, shape, sign⟩ := splitSign_append (by decide) closed
      refine ⟨':' :: (front ++ [':', ']']), by simp [shape], fun left => ?_⟩
      have again := (cut_append closed).2 (']' :: left)
      have sign := sign (']' :: left)
      simp [readNamedSet_colon, sign, again, known]
    next => contradiction
  · simp [readNamedSet, colon] at done

theorem readNamedSet_reads {scan : Scan} {rest : List Char} {found : CharSet × Bool}
    (done : readNamedSet scan.rest = some (found, rest)) :
    Reads behind (fun scan out => readNamedSet scan.rest = some (found, out.rest) ∧
      { scan with rest := out.rest } = out) scan { scan with rest := rest } := by
  obtain ⟨taken, shape, again⟩ := exists_of_readNamedSet done
  exact ⟨id, taken, shape, fun left _ => ⟨again left, rfl⟩⟩

/-- What is no named set does not become one where the text ends. -/
theorem readNamedSet_of_append {text rest : List Char} (none : readNamedSet (text ++ rest) = none) :
    readNamedSet text = .none := by
  cases named : readNamedSet text with
  | none => rfl
  | some result =>
    obtain ⟨found, last⟩ := result
    obtain ⟨taken, shape, again⟩ := exists_of_readNamedSet named
    rw [shape, List.append_assoc, again] at none
    contradiction

/-! ### How classes begin -/

/-- A circumflex at the beginning of a class negates it. -/
def classSign (scan : Scan) : Bool × Scan :=
  match scan.rest with
  | '^' :: rest => (true, scan.goOn rest)
  | _ => (false, scan)

/-- A bracket that closes nothing yet. -/
def firstBracket (members : Members) (scan : Scan) : Members × Scan :=
  match members.count, scan.rest with
  | 0, ']' :: rest => (members.add ⟨.single ']', 0⟩, scan.goOn rest)
  | _, _ => (members, scan)

theorem classSign_reads {negated : Bool} {scan out : Scan}
    (done : classSign scan = (negated, out)) :
    Reads behind (fun scan out => classSign scan = (negated, out)) scan out := by
  unfold classSign at done
  split at done
  next rest sign =>
    obtain ⟨rfl, rfl⟩ := Prod.mk.inj done
    refine (Scan.goOn_reads sign).mono ?_
    rintro _ left - ⟨front, rfl, blanks⟩
    simp only [classSign, blanks]
  next noSign =>
    obtain ⟨rfl, rfl⟩ := Prod.mk.inj done
    refine .stay fun left shape => ?_
    have noSign := not_cons_of_append noSign shape
    simp [classSign]

theorem firstBracket_reads {members found : Members} {scan out : Scan}
    (done : firstBracket members scan = (found, out)) :
    Reads behind (fun scan out => firstBracket members scan = (found, out)) scan out := by
  unfold firstBracket at done
  split at done
  next rest none bracket =>
    obtain ⟨rfl, rfl⟩ := Prod.mk.inj done
    refine (Scan.goOn_reads bracket).mono ?_
    rintro _ left - ⟨front, rfl, blanks⟩
    simp only [firstBracket, none, blanks]
  next other =>
    obtain ⟨rfl, rfl⟩ := Prod.mk.inj done
    refine .stay fun left shape => ?_
    unfold firstBracket
    split
    next rest none bracket => exact (not_cons_of_append (other · none) shape _ bracket).elim
    next => rfl

/-! ### Whole classes -/

/-- The readers of classes and of their members, with enough room for all of the text. -/
def ClassReads (behind : List Char) (room : Nat) : Prop :=
  ∀ scan part out, readClass room scan = .ok (part, out) →
    Reads behind (fun scan out => ∀ room, 2 * scan.rest.length + 2 ≤ room →
      readClass room scan = .ok (part, out)) scan out

def MembersRead (behind : List Char) (room : Nat) : Prop :=
  ∀ waiting members scan part out, readClassMembers room waiting members scan = .ok (part, out) →
    Reads behind (fun scan out => ∀ room, 2 * scan.rest.length + 1 ≤ room →
      readClassMembers room waiting members scan = .ok (part, out)) scan out

theorem readClass_succ (room : Nat) (scan : Scan) : readClass (room + 1) scan = do
    let (negated, inside) := classSign scan.skipBlanks
    let (dashes, inside) := readLeadingDashes inside.rest.length {} inside
    let (members, inside) := firstBracket dashes inside
    let (part, out) ← readClassMembers room none members inside
    return (⟨← scan.flags.complementIf negated (scan.flags.foldSet part.set), part.depth + 1⟩, out) :=
  rfl

theorem classReads_succ {room : Nat} (inside : MembersRead behind room) :
    ClassReads behind (room + 1) := by
  intro scan part out done
  rw [readClass_succ] at done
  rcases sign : classSign scan.skipBlanks with ⟨negated, signed⟩
  rcases dash : readLeadingDashes signed.rest.length {} signed with ⟨dashes, dashed⟩
  rcases bracket : firstBracket dashes dashed with ⟨members, opened⟩
  simp only [sign, dash, bracket] at done
  obtain ⟨⟨body, closed⟩, read, done⟩ := bind_eq_ok_iff.mp done
  obtain ⟨set, whole, done⟩ := bind_eq_ok_iff.mp done
  obtain ⟨rfl, rfl⟩ := Prod.mk.inj (Except.ok.inj done)
  have opening : Reads behind _ scan opened :=
    (scan.skipBlanks_reads.trans (classSign_reads sign)).trans
      ((readLeadingDashes_reads (Nat.le_refl _) dash).trans (firstBracket_reads bracket))
  refine opening.andThen (inside _ _ _ _ _ read) ?_
  rintro front between left shorter - ⟨_, ⟨_, rfl, sign⟩, ⟨_, dash, bracket⟩⟩ again room enough
  obtain _ | room := room
  · contradiction
  have dash := dash _ (Nat.le_refl _)
  have read := again room (by dsimp only at enough ⊢; omega)
  simp [readClass_succ, sign, dash, bracket, read, whole, bind, Except.bind, pure, Except.pure]

theorem membersRead_succ {room : Nat} (nested : ClassReads behind room)
    (others : MembersRead behind room) : MembersRead behind (room + 1) := by
  intro waiting members scan part out done
  have skip : Reads behind _ scan scan.skipBlanks := scan.skipBlanks_reads
  rw [readClassMembers] at done
  dsimp only at done
  split at done
  next => contradiction
  next rest bracket =>
    obtain ⟨rfl, rfl⟩ := Prod.mk.inj (Except.ok.inj done)
    refine (skip.trans (.char bracket)).mono ?_
    rintro front left - ⟨_, blanks, rfl⟩ room enough
    obtain _ | room := room
    · contradiction
    simp [readClassMembers, blanks]
  case h_3 | h_4 | h_5 =>
    -- The operators of two characters put the members before them aside.
    rename_i rest mark
    refine skip.andThen (.after mark (.after rfl (others _ _ _ _ _ done))) ?_
    rintro front _ left shorter - blanks ⟨_, rfl, rest, rfl, again⟩ room enough
    obtain _ | room := room
    · contradiction
    simp only [List.length_cons] at shorter enough
    have again := again room (by dsimp only; omega)
    simp [readClassMembers, blanks, again]
  next rest bracket =>
    split at done
    next s negated last named =>
      -- A named set is taken as a whole, so no parenthesis decides what it is.
      obtain ⟨set, whole, done⟩ := bind_eq_ok_iff.mp done
      have inside : Reads behind _ { scan.skipBlanks with rest := rest }
          { scan.skipBlanks with rest := last } := (readNamedSet_reads named).shrinks
      refine skip.andThen (.after bracket (inside.trans (others _ _ _ _ _ done))) ?_
      rintro front _ left shorter - blanks ⟨rest, rfl, middle, ⟨fewer, named, same⟩, again⟩ room
        enough
      obtain _ | room := room
      · contradiction
      simp only [List.length_cons] at shorter fewer enough
      have again := again room (by omega)
      rw [← same] at again
      simp [readClassMembers, blanks, named, whole, again, bind, Except.bind]
    next unnamed =>
      obtain ⟨⟨inner, between⟩, read, done⟩ := bind_eq_ok_iff.mp done
      refine skip.andThen (.after bracket ((nested _ _ _ read).shrinks.trans
        (others _ _ _ _ _ done))) ?_
      rintro front _ left shorter shape blanks ⟨rest, rfl, middle, ⟨fewer, class'⟩, again⟩ room enough
      obtain _ | room := room
      · contradiction
      rw [bracket, List.cons_append, List.cons.injEq] at shape
      obtain ⟨-, rfl⟩ := shape
      simp only [List.length_cons] at shorter fewer enough
      have read := class' room (by dsimp only; omega)
      have again := again room (by omega)
      simp [readClassMembers, blanks, readNamedSet_of_append unnamed, read, again, bind, Except.bind]
  next noBracket noInter noDiff noSymmDiff plain =>
    obtain ⟨⟨s, inside⟩, range, done⟩ := bind_eq_ok_iff.mp done
    refine skip.andThen ((readRange_reads range).trans (others _ _ _ _ _ done)) ?_
    rintro front between left shorter shape blanks ⟨middle, range, again⟩ room enough
    obtain _ | room := room
    · contradiction
    have fewer := length_lt_of_readRange range
    dsimp only at fewer enough
    have again := again room (by omega)
    -- The text that is left begins as before, and so is not read in another way.
    rw [readClassMembers]
    simp only [blanks]
    split
    next => simp at fewer
    next => exact (noBracket _ shape).elim
    next => exact (noInter _ shape).elim
    next => exact (noDiff _ shape).elim
    next => exact (noSymmDiff _ shape).elim
    next => exact (plain _ shape).elim
    next => simp [range, again, bind, Except.bind]

theorem class_reads (room : Nat) : ClassReads behind room ∧ MembersRead behind room := by
  induction room with
  | zero =>
    exact ⟨fun _ _ _ done => by simp [readClass] at done,
      fun _ _ _ _ _ done => by simp [readClassMembers] at done⟩
  | succ room ih => exact ⟨classReads_succ ih.2, membersRead_succ ih.1 ih.2⟩

end Constituency.Regex
