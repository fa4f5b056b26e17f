import Constituency.Regex.Part
import Constituency.Regex.Program
import Constituency.Text.Letter

/-!
# Reading patterns

A pattern is one or more alternatives, an alternative any number of repeated parts, and a part a
character, a class, an escape or a group. Flags set inside a group hold up to its end. Every call
below consumes a character or goes one level down in a fixed chain of three, so three steps for
each character of the text are enough, and running out of them is not a way to fail.
-/
namespace Constituency.Regex

open Constituency.Text

/-- A question mark behind a repetition turns its preference round. -/
def readGreed (scan : Scan) : Bool × Scan :=
  match scan.rest with
  | '?' :: rest => (scan.flags.lazyFirst, { scan with rest := rest })
  | _ => (!scan.flags.lazyFirst, scan)

/-- Reads the repetitions that stand behind a part. -/
def readRepeats : Nat → Part → Scan → Except Error (Part × Scan)
  | 0, part, scan => .ok (part, scan)
  | room + 1, part, scan => do
    let scan := scan.skipBlanks
    let simple (low : Nat) (high : Option Nat) (rest : List Char) :=
      let (greedy, scan) := readGreed { scan with rest := rest }
      readRepeats room (part.repeated greedy low high) scan
    match scan.rest with
    | '?' :: rest => simple 0 (some 1) rest
    | '*' :: rest => simple 0 none rest
    | '+' :: rest => simple 1 none rest
    | '\x7b' :: rest =>
      let ((low, high), scan) ← readCount { scan with rest := rest }
      let (greedy, scan) := readGreed scan
      readRepeats room (part.repeated greedy low high) scan
    | _ => return (part, scan)

def Flags.dot (flags : Flags) : Except Error CharSet :=
  if !flags.unicode then .error .notText
  else if flags.dotAll then .ok .any
  else if flags.carriageReturn then .ok (CharSet.ofRanges [('\n', '\n'), ('\r', '\r')]).compl
  else .ok (CharSet.single '\n').compl

def Flags.start (flags : Flags) : Look :=
  if !flags.multiLine then .textStart
  else if flags.carriageReturn then .lineStartReturn else .lineStart

def Flags.stop (flags : Flags) : Look :=
  if !flags.multiLine then .textEnd
  else if flags.carriageReturn then .lineEndReturn else .lineEnd

/-- Reads a part that is not a group. -/
def readPart (scan : Scan) : Except Error (Part × Scan) :=
  match scan.rest with
  | [] => .error .missingOperand
  | c :: rest =>
    let behind : Scan := { scan with rest := rest }
    match c with
    | '[' => do
      let (part, scan) ← readClass (2 * rest.length + 2) behind
      return (⟨.set part.set, part.depth⟩, scan)
    | '\\' => do
      match ← readEscape behind with
      | (.char c, scan) => return (.ofSet (scan.flags.foldSet (.single c)), scan)
      | (.set s, scan) => return (.ofSet s, scan)
      | (.look condition, scan) => return (.ofLook condition, scan)
    | '.' => do return (.ofSet (← scan.flags.dot), behind)
    | '^' => .ok (.ofLook scan.flags.start, behind)
    | '$' => .ok (.ofLook scan.flags.stop, behind)
    | c =>
      if c = '?' ∨ c = '*' ∨ c = '+' ∨ c = '\x7b' then .error .missingOperand
      else .ok (.ofSet (scan.flags.foldSet (.single c)), behind)

/-! ## Groups -/

def isNameStart (c : Char) : Bool := c == '_' || isLetter c

def isNameChar (c : Char) : Bool :=
  c == '_' || c == '.' || c == '[' || c == ']' || isLetter c || isNumeric c

/-- Reads the name of a group up to the angle bracket behind it. -/
def readGroupName (scan : Scan) : Except Error (String × Scan) :=
  let name := scan.rest.takeWhile (· != '>')
  match scan.rest.dropWhile (· != '>'), name with
  | _ :: behind, first :: others =>
    let text := String.ofList name
    if !isNameStart first || !others.all isNameChar then .error .groupName
    else if scan.names.contains (some text) then .error (.repeatedGroupName text)
    else .ok (text, { scan with rest := behind })
  | _, _ => .error .groupName

/-- What the text behind an opening parenthesis asks for. -/
inductive Opening where
  /-- A group, with its index if it captures. -/
  | group (index : Option Nat)
  /-- No group at all: flags for the rest of the group around it. -/
  | flags
deriving DecidableEq, Repr

/-- Opens the next capture group. -/
def Scan.capture (scan : Scan) (name : Option String) : Opening × Scan :=
  (.group (some (scan.names.length + 1)), { scan with names := scan.names ++ [name] })

/-- Reads what stands between an opening parenthesis and the inside of its group. -/
def readOpening (scan : Scan) : Except Error (Opening × Scan) :=
  let scan := scan.skipBlanks
  match scan.rest with
  | '?' :: '=' :: _ => .error .lookAround
  | '?' :: '!' :: _ => .error .lookAround
  | '?' :: '<' :: '=' :: _ => .error .lookAround
  | '?' :: '<' :: '!' :: _ => .error .lookAround
  | '?' :: 'P' :: '<' :: rest => do
    let (name, scan) ← readGroupName { scan with rest := rest }
    return scan.capture (some name)
  | '?' :: '<' :: rest => do
    let (name, scan) ← readGroupName { scan with rest := rest }
    return scan.capture (some name)
  -- No flags at all, so the question mark repeats nothing.
  | '?' :: ')' :: _ => .error .missingOperand
  | '?' :: rest => do
    let (flags, behind) ← readFlags scan.flags [] rest
    let scan : Scan := { scan with flags := flags, rest := behind.tail }
    if behind.head? = some ')' then return (.flags, scan) else return (.group none, scan)
  | _ => .ok (scan.capture none)

mutual

/-- Reads alternatives up to the end of the group or of the text. -/
def readAlternatives (room : Nat) (scan : Scan) : Except Error (List Part × Scan) :=
  match room with
  | 0 => .error .nestedTooDeep
  | room + 1 => do
    let (parts, scan) ← readSequence room scan
    match scan.rest with
    | '|' :: rest =>
      let (others, scan) ← readAlternatives room { scan with rest := rest }
      return (Part.concat parts :: others, scan)
    | _ => return ([Part.concat parts], scan)
termination_by structural room

/-- Reads the parts of one alternative. -/
def readSequence (room : Nat) (scan : Scan) : Except Error (List Part × Scan) :=
  match room with
  | 0 => .error .nestedTooDeep
  | room + 1 =>
    let scan := scan.skipBlanks
    match scan.rest with
    | [] => .ok ([], scan)
    | '|' :: _ => .ok ([], scan)
    | ')' :: _ => .ok ([], scan)
    | '(' :: rest => do
      match ← readGroup room { scan with rest := rest } with
      | (none, scan) =>
        let (others, scan) ← readSequence room scan
        return (Part.flags :: others, scan)
      | (some part, scan) =>
        let (part, scan) ← readRepeats scan.rest.length part scan
        let (others, scan) ← readSequence room scan
        return (part :: others, scan)
    | _ => do
      let (part, scan) ← readPart scan
      let (part, scan) ← readRepeats scan.rest.length part scan
      let (others, scan) ← readSequence room scan
      return (part :: others, scan)
termination_by structural room

/-- Reads a group behind its opening parenthesis, or flags, which are no part. -/
def readGroup (room : Nat) (scan : Scan) : Except Error (Option Part × Scan) :=
  match room with
  | 0 => .error .nestedTooDeep
  | room + 1 => do
    match ← readOpening scan with
    | (.flags, scan) => return (none, scan)
    | (.group index, inside) =>
      let (parts, behind) ← readAlternatives room inside
      match behind.rest with
      | ')' :: rest =>
        return (some ((Part.alternation parts).group index),
          -- Flags set inside end with the group.
          { behind with rest := rest, flags := scan.flags })
      | _ => .error .unclosedGroup
termination_by structural room

end

end Constituency.Regex

namespace Constituency

/-- A pattern that has been read, with its program and the names of its groups. -/
structure Regex where
  node : Regex.Node
  /-- One entry per capture group, in order, with its name if it has one. -/
  names : List (Option String)
  program : Array Regex.Inst := node.program
  program_eq : program = node.program := by rfl

namespace Regex

/-- Reads a pattern. -/
def read (text : List Char) : Except Error Regex := do
  let (parts, scan) ← readAlternatives (3 * text.length + 3) { rest := text }
  let part := Part.alternation parts
  if !scan.rest.isEmpty then .error .unopenedGroup
  else if part.depth > nestLimit then .error .nestedTooDeep
  else if part.node.isTooLarge then .error .tooLarge
  else return { node := part.node, names := scan.names }

end Regex

end Constituency
