import Constituency.Accepted
import Constituency.Proofs.Regex.Absorption
import Constituency.Proofs.Regex.Assembly
import Constituency.Proofs.Regex.Groups

/-!
# Patterns in their frames

A pattern is not read on its own but in a frame, where it stands in a group between the two ends of
the text. A source that closes the group itself, and opens another one, is read as something else
than it is on its own; it is no regular expression then. Any other source that can be read in the
frame can be read without it, and a text is accepted exactly if the source matches it from its first
to its last character.
-/
namespace Constituency

namespace Regex

open Constituency.Text

/-- The reading of a text as one pattern, whatever room its program takes. -/
def readPattern (text : List Char) : Except Error (Part × List (Option String)) := do
  let (parts, scan) ← readAlternatives (3 * text.length + 3) { rest := text }
  if !scan.rest.isEmpty then .error .unopenedGroup
  else return (Part.alternation parts, scan.names)

theorem read_eq (text : List Char) : read text = do
    let (part, names) ← readPattern text
    if part.depth > nestLimit then .error .nestedTooDeep
    else if part.node.isTooLarge then .error .tooLarge
    else return { node := part.node, names := names } := by
  rw [read, readPattern]
  cases readAlternatives (3 * text.length + 3) { rest := text } with
  | error error => rfl
  | ok result =>
    simp only [bind, Except.bind]
    split <;> rfl

/-! ### Reading a frame -/

theorem readSequence_start (room : Nat) (rest : List Char) :
    readSequence (room + 1) { rest := '^' :: '(' :: rest } = do
      let (others, scan) ← readSequence room { rest := '(' :: rest }
      return (Part.ofLook .textStart :: others, scan) := rfl

theorem readSequence_stop (room : Nat) (names : List (Option String)) :
    readSequence (room + 2) { rest := ['$'], names := names } =
      .ok ([Part.ofLook .textEnd], { rest := [], names := names }) := rfl

theorem readRepeats_stop (part : Part) (names : List (Option String)) :
    readRepeats 1 part { rest := ['$'], names := names } =
      .ok (part, { rest := ['$'], names := names }) := rfl

theorem exists_of_readGroup {room : Nat} {rest : List Char} {part : Option Part} {out : Scan}
    (done : readGroup (room + 1) { rest := '?' :: ':' :: rest } = .ok (part, out)) :
    ∃ parts inside last, readAlternatives room { rest := rest } = .ok (parts, inside) ∧
      inside.rest = ')' :: last ∧ part = some ((Part.alternation parts).group none) ∧
      out = { rest := last, names := inside.names } := by
  have opening : readOpening { rest := '?' :: ':' :: rest } =
      .ok (.group none, { rest := rest }) := rfl
  rw [readGroup, opening] at done
  obtain ⟨⟨_, _⟩, opened, done⟩ := bind_eq_ok_iff.mp done
  obtain ⟨rfl, rfl⟩ := Prod.mk.inj (Except.ok.inj opened)
  obtain ⟨⟨parts, inside⟩, read, done⟩ := bind_eq_ok_iff.mp done
  dsimp only at done
  split at done
  next last closed =>
    obtain ⟨rfl, rfl⟩ := Prod.mk.inj (Except.ok.inj done)
    exact ⟨parts, inside, last, read, closed, rfl, rfl⟩
  next => contradiction

/-- The group of a frame holds what is read up to a parenthesis, the last one or an earlier one. -/
theorem exists_of_frame {room : Nat} {rest : List Char} {parts : List Part} {out : Scan}
    (done : readSequence (room + 4) { rest := '^' :: '(' :: '?' :: ':' :: rest } =
      .ok (parts, out)) :
    ∃ inner inside last, readAlternatives (room + 1) { rest := rest } = .ok (inner, inside) ∧
      inside.rest = ')' :: last ∧ (last = ['$'] →
        parts = [Part.ofLook .textStart, (Part.alternation inner).group none,
          Part.ofLook .textEnd] ∧ out = { rest := [], names := inside.names }) := by
  rw [readSequence_start] at done
  obtain ⟨⟨others, scan⟩, sequence, done⟩ := bind_eq_ok_iff.mp done
  obtain ⟨rfl, rfl⟩ := Prod.mk.inj (Except.ok.inj done)
  rw [readSequence] at sequence
  simp only [Scan.skipBlanks, Bool.false_eq_true, if_false] at sequence
  obtain ⟨⟨part, behind⟩, grouped, sequence⟩ := bind_eq_ok_iff.mp sequence
  obtain ⟨inner, inside, last, read, closed, rfl, rfl⟩ := exists_of_readGroup grouped
  refine ⟨inner, inside, last, read, closed, ?_⟩
  rintro rfl
  dsimp only [List.length_cons, List.length_nil] at sequence
  rw [readRepeats_stop] at sequence
  obtain ⟨⟨_, _⟩, repeated, sequence⟩ := bind_eq_ok_iff.mp sequence
  obtain ⟨rfl, rfl⟩ := Prod.mk.inj (Except.ok.inj repeated)
  rw [readSequence_stop] at sequence
  obtain ⟨⟨_, _⟩, stopped, sequence⟩ := bind_eq_ok_iff.mp sequence
  obtain ⟨rfl, rfl⟩ := Prod.mk.inj (Except.ok.inj stopped)
  obtain ⟨rfl, rfl⟩ := Prod.mk.inj (Except.ok.inj sequence)
  exact ⟨rfl, rfl⟩

/-- What begins with a parenthesis at the end of a frame holds the end of the frame. -/
theorem exists_of_append_frame {source taken last : List Char}
    (shape : source ++ [')', '$'] = taken ++ ')' :: last) :
    ∃ left, source = taken ++ left ∧ ')' :: last = left ++ [')', '$'] := by
  rcases List.append_eq_append_iff.mp shape with ⟨front, rfl, rest⟩ | ⟨left, rfl, rest⟩
  · -- Nothing of the frame's end stands in front of its parenthesis.
    obtain _ | ⟨c, front⟩ := front
    · exact ⟨[], by simp, by simpa using rest.symm⟩
    · obtain _ | ⟨d, front⟩ := front <;> simp at rest
  · exact ⟨left, rfl, rest⟩

theorem readPattern_of_frame {source : List Char} {part : Part} {names : List (Option String)}
    (done : readPattern (wholeMatch source) = .ok (part, names)) :
    readPattern source = .error .unopenedGroup ∨ ∃ inner, readPattern source = .ok (inner, names) ∧
      part = Part.concat [Part.ofLook .textStart, inner.group none, Part.ofLook .textEnd] := by
  have text : wholeMatch source = '^' :: '(' :: '?' :: ':' :: (source ++ [')', '$']) := by
    simp [wholeMatch]
  have room : 3 * (wholeMatch source).length + 3 = 3 * source.length + 16 + 4 + 1 := by
    rw [text]
    simp only [List.length_cons, List.length_append, List.length_nil]
    omega
  rw [readPattern, room, text] at done
  obtain ⟨⟨parts, scan⟩, read, done⟩ := bind_eq_ok_iff.mp done
  rw [readAlternatives] at read
  obtain ⟨⟨first, between⟩, frame, read⟩ := bind_eq_ok_iff.mp read
  obtain ⟨inner, inside, last, alternatives, closed, plain⟩ := exists_of_frame frame
  obtain ⟨-, taken, shape, again⟩ := (group_reads _).1 _ _ _ alternatives
  rw [closed] at shape
  obtain ⟨left, rfl, rest⟩ := exists_of_append_frame shape
  have alone := again left (closed.trans rest) (3 * (taken ++ left).length + 3) (Nat.le_refl _)
  obtain _ | ⟨c, left⟩ := left
  · -- The parenthesis is that of the frame, and the sequence is read to its end.
    obtain rfl : last = ['$'] := (List.cons.inj rest).2
    obtain ⟨rfl, rfl⟩ := plain rfl
    obtain ⟨rfl, rfl⟩ := Prod.mk.inj (Except.ok.inj read)
    obtain ⟨rfl, rfl⟩ := Prod.mk.inj (Except.ok.inj done)
    refine .inr ⟨Part.alternation inner, ?_, rfl⟩
    rw [readPattern, alone]
    rfl
  · -- The source goes on behind the parenthesis that closes the group.
    refine .inl ?_
    rw [readPattern, alone]
    rfl

/-! ### Reading a source on its own -/

theorem readPattern_of_read {source : List Char} {regex : Regex}
    (done : read (wholeMatch source) = .ok regex) :
    read source = .error .unopenedGroup ∨ ∃ part names, readPattern source = .ok (part, names) ∧
      (read source = .error .tooLarge ∨ ∃ alone, read source = .ok alone ∧ alone.node = part.node) ∧
      regex.node = Node.concat [.look .textStart, part.node, .look .textEnd] := by
  rw [read_eq] at done
  obtain ⟨⟨framed, names⟩, read, done⟩ := bind_eq_ok_iff.mp done
  dsimp only at done
  split at done
  next => contradiction
  next shallow =>
    split at done
    next => contradiction
    next =>
      obtain rfl := Except.ok.inj done
      rcases readPattern_of_frame read with unopened | ⟨part, alone, rfl⟩
      · exact .inl (by rw [read_eq, unopened]; rfl)
      · refine .inr ⟨part, names, alone, ?_, rfl⟩
        -- The frame is nested deeper than what stands in it.
        have shallow : ¬ part.depth > nestLimit := by
          simp [Part.concat, Part.maxDepth, Part.group, Part.ofLook] at shallow
          omega
        rw [read_eq, alone]
        by_cases large : part.node.isTooLarge = true
        · exact .inl (by simp [shallow, large, bind, Except.bind])
        · exact .inr ⟨_, by simp only [bind, Except.bind, if_neg shallow, if_neg large]; rfl, rfl⟩

end Regex

namespace Pattern

/-- What a source matches in its frame, it matches from the first character to the last. -/
theorem matches_framed {node : Regex.Node} {text : Array Char} {start stop : Nat}
    {saved : List (Nat × Nat)} :
    (Regex.Node.concat [.look .textStart, node, .look .textEnd]).Matches text start stop saved ↔
      start = 0 ∧ stop = text.size ∧ node.Matches text 0 text.size saved := by
  rw [Regex.Node.matches_concat]
  constructor
  · intro all
    cases all with
    | cons first others =>
      cases others with
      | cons inside others =>
        cases others with
        | cons last none =>
          cases none
          cases first with
          | look begins =>
            cases last with
            | look ends =>
              obtain rfl : start = 0 := by simpa [Regex.Look.holds] using begins
              obtain rfl : stop = text.size := by simpa [Regex.Look.holds] using ends
              exact ⟨rfl, rfl, by simpa using inside⟩
  · rintro ⟨rfl, rfl, inside⟩
    have begins : (Regex.Node.look .textStart).Matches text 0 0 [] :=
      .look (by simp [Regex.Look.holds])
    have ends : (Regex.Node.look .textEnd).Matches text text.size text.size [] :=
      .look (by simp [Regex.Look.holds])
    simpa using Regex.Node.MatchAll.cons begins (.cons inside (.cons ends .nil))

theorem exists_matches_of_accepts {pattern : Pattern} {text : String}
    (accepted : pattern.accepts text = true) : ∃ start stop saved,
      pattern.regex.node.Matches text.toList.toArray start stop saved := by
  rw [accepts, Regex.isMatch, pattern.regex.program_eq, Option.isSome_iff_exists] at accepted
  obtain ⟨last, found⟩ := accepted
  obtain ⟨start, saved, matched, -⟩ := Regex.search_sound found
  exact ⟨start, last.position, saved, matched⟩

/--
A pattern accepts just the texts that its source matches as a whole, as long as the source is a
regular expression on its own. It is one unless it closes a group that it does not open; and alone
it may need room that its frame saves it.
-/
theorem accepts_iff_matches_source (pattern : Pattern) :
    Regex.read pattern.source.toList = .error .unopenedGroup ∨
      ∃ part names, Regex.readPattern pattern.source.toList = .ok (part, names) ∧
        (Regex.read pattern.source.toList = .error .tooLarge ∨
          ∃ alone, Regex.read pattern.source.toList = .ok alone ∧ alone.node = part.node) ∧
        ∀ text : String, pattern.accepts text = true ↔
          ∃ saved, part.node.Matches text.toList.toArray 0 text.toList.length saved := by
  rcases Regex.readPattern_of_read pattern.read_source with
    unopened | ⟨part, names, read, alone, framed⟩
  · exact .inl unopened
  refine .inr ⟨part, names, read, alone, fun text => ⟨fun accepted => ?_, ?_⟩⟩
  · obtain ⟨start, stop, saved, matched⟩ := exists_matches_of_accepts accepted
    rw [framed, matches_framed] at matched
    exact ⟨saved, by simpa using matched.2.2⟩
  · rintro ⟨saved, matched⟩
    have whole : pattern.regex.node.Matches text.toList.toArray 0 text.toList.length saved := by
      rw [framed, matches_framed]
      exact ⟨rfl, by simp, by simpa using matched⟩
    exact accepts_of_matches whole (Nat.zero_le _)

/-- A source whose alternatives stand in a group each when they stand in a frame. -/
def reopenedGroup : Pattern := .of "a)|(?:b"

/-- Each end of that source is held to one end of a text only, and on its own it cannot be read. -/
theorem accepts_reopenedGroup : (Regex.read reopenedGroup.source.toList).isOk = false ∧
    reopenedGroup.accepts "ax" = true ∧ reopenedGroup.accepts "xb" = true := by
  decide +kernel

end Pattern

end Constituency
