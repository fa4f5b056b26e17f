import Constituency.Regex.Error
import Constituency.Regex.Node
import Constituency.Text.Blank

/-!
# Reading the pieces of a pattern

What a pattern text consists of below the level of groups: flags, escapes, counted repetitions and
bracketed classes. Every reader here takes the state of the scan, which is the text still to be
read together with the flags in force and the names of the groups opened so far, and gives the
state behind what it has read.
-/
namespace Constituency.Regex

open Constituency.Text

structure Flags where
  ignoreCase : Bool := false
  multiLine : Bool := false
  dotAll : Bool := false
  /-- Swaps the meaning of a repetition with and without a question mark behind it. -/
  lazyFirst : Bool := false
  /-- Blanks and comments between the parts of the pattern mean nothing. -/
  verbose : Bool := false
  /-- A carriage return ends a line too. -/
  carriageReturn : Bool := false
  unicode : Bool := true
deriving DecidableEq, Repr

structure Scan where
  rest : List Char
  flags : Flags := {}
  /-- One entry per capture group opened so far, in order. -/
  names : List (Option String) := []
deriving Repr

/-- The text behind blanks and comments; `inComment` says whether a comment is open. -/
def dropVerbose : Bool → List Char → List Char
  | _, [] => []
  | true, c :: rest => dropVerbose (c != '\n') rest
  | false, c :: rest =>
    if isBlank c then dropVerbose false rest
    else if c = '#' then dropVerbose true rest
    else c :: rest

namespace Scan

def skipBlanks (scan : Scan) : Scan :=
  if scan.flags.verbose then { scan with rest := dropVerbose false scan.rest } else scan

/-- The state with `rest` still to be read, blanks skipped. -/
def goOn (scan : Scan) (rest : List Char) : Scan := { scan with rest := rest }.skipBlanks

/-- The characters of one kind that come next, with blanks skipped behind each. -/
def takeLoose (scan : Scan) (kind : Char → Bool) : List Char × Scan :=
  go scan.rest.length scan
where
  go : Nat → Scan → List Char × Scan
    | 0, scan => ([], scan)
    | room + 1, scan =>
      match scan.rest with
      | [] => ([], scan)
      | c :: rest =>
        if kind c then
          let (taken, scan) := go room (scan.goOn rest)
          (c :: taken, scan)
        else ([], scan)

/-- What stands between braces, the opening one being read already. -/
def takeBraced (scan : Scan) : Except Error (List Char × Scan) :=
  let (inside, scan) := scan.skipBlanks.takeLoose (· != '\x7d')
  match scan.rest with
  | _ :: behind => .ok (inside, { scan with rest := behind })
  | [] => .error .trailingBackslash

end Scan

/-! ## Flags -/

def Flags.set (flags : Flags) (value : Bool) : Char → Option Flags
  | 'i' => some { flags with ignoreCase := value }
  | 'm' => some { flags with multiLine := value }
  | 's' => some { flags with dotAll := value }
  | 'U' => some { flags with lazyFirst := value }
  | 'x' => some { flags with verbose := value }
  | 'R' => some { flags with carriageReturn := value }
  | 'u' => some { flags with unicode := value }
  | _ => none

/--
Reads flags up to the colon or parenthesis that ends them. The flags behind a minus sign are
cleared, the others set; none may be named twice, and a minus sign clears at least one. `named`
holds the characters read so far.
-/
def readFlags (flags : Flags) (named : List Char) : List Char → Except Error (Flags × List Char)
  | [] => .error .flags
  | c :: rest =>
    if c = ':' ∨ c = ')' then
      if named.head? = some '-' then .error .flags else .ok (flags, c :: rest)
    else if named.contains c then .error .flags
    else if c = '-' then readFlags flags (c :: named) rest
    else
      match flags.set (!named.contains '-') c with
      | some changed => readFlags changed (c :: named) rest
      | none => .error .flags

/-! ## Escapes -/

/-- What an escape stands for. -/
inductive Escaped where
  | char (c : Char)
  | set (s : CharSet)
  | look (condition : Look)
deriving DecidableEq, Repr

def charOfCode (n : Nat) : Except Error Char :=
  if n.isValidChar then .ok (Char.ofNat n) else .error .codePoint

/-- Reads so many hexadecimal digits. -/
def readHexDigits : Nat → Nat → Scan → Except Error (Nat × Scan)
  | 0, value, scan => .ok (value, scan)
  | count + 1, value, scan =>
    match scan.rest with
    | [] => .error .trailingBackslash
    | c :: rest =>
      match hexValue c with
      | some digit => readHexDigits count (16 * value + digit) (scan.goOn rest)
      | none => .error .codePoint

/-- Reads a code point, either of `width` digits or of any number of digits between braces. -/
def readCodePoint (width : Nat) (scan : Scan) : Except Error (Char × Scan) :=
  match scan.rest with
  | [] => .error .trailingBackslash
  | '\x7b' :: rest => do
    let (digits, scan) ← Scan.takeBraced { scan with rest := rest }
    match digits, hexNumber digits with
    | _ :: _, some n => return (← charOfCode n, scan.skipBlanks)
    | _, _ => .error .codePoint
  | _ => do
    let (n, scan) ← readHexDigits width 0 scan
    return (← charOfCode n, scan)

/-- Reads a code point behind `x`. Where it stands for a byte, the byte has to be a character. -/
def readByteOrCode (scan : Scan) : Except Error (Char × Scan) := do
  let (c, behind) ← readCodePoint 2 scan
  if scan.flags.unicode || c.toNat < 128 || scan.rest.head? = some '\x7b' then return (c, behind)
  else .error .notText

def Flags.foldSet (flags : Flags) (s : CharSet) : CharSet :=
  if !flags.ignoreCase then s else if flags.unicode then s.folded else s.asciiFolded

/-- The complement of a set; without Unicode it would hold parts of characters. -/
def Flags.complement (flags : Flags) (s : CharSet) : Except Error CharSet :=
  if flags.unicode then .ok s.compl else .error .notText

def Flags.complementIf (flags : Flags) (negated : Bool) (s : CharSet) : Except Error CharSet :=
  if negated then flags.complement s else .ok s

/-- One of the three classes with a letter of their own, or its complement, or its ASCII part. -/
def Flags.letterClass (flags : Flags) (wide ascii : CharSet) (negated : Bool) :
    Except Error Escaped := do
  return .set (← flags.complementIf negated (if flags.unicode then wide else ascii))

/-! ### Properties -/

/-- Cuts a text at the first place where `mark` stands. -/
def cutAt (mark : List Char) : List Char → Option (List Char × List Char)
  | [] => none
  | c :: rest =>
    if mark.isPrefixOf (c :: rest) then some ([], (c :: rest).drop mark.length)
    else (cutAt mark rest).map fun (before, behind) => (c :: before, behind)

/--
The set of a property expression: one name, or a property and its value. An exclamation mark in
front of the equals sign makes no difference.
-/
def propertySet? (text : List Char) : Option CharSet :=
  match (cutAt ['!', '='] text).or ((cutAt [':'] text).or (cutAt ['='] text)) with
  | some (property, value) => Unicode.withValue? property value
  | none => Unicode.named? text

/-- Reads a property, of one letter or between braces. -/
def readProperty (negated : Bool) (scan : Scan) : Except Error (Escaped × Scan) := do
  let (text, scan) ← match scan.rest with
    | [] => .error .trailingBackslash
    | '\x7b' :: rest => Scan.takeBraced { scan with rest := rest }
    | c :: rest => .ok ([c], scan.goOn rest)
  if !scan.flags.unicode then .error .notText
  else
    match propertySet? text with
    | some s => return (.set (← scan.flags.complementIf negated (scan.flags.foldSet s)), scan)
    | none => .error (.unknownProperty (String.ofList text))

/-! ### Word boundaries -/

/-- The word boundaries that have a name between braces. -/
def namedEdge : List Char → Option WordEdge
  | ['s', 't', 'a', 'r', 't'] => some .start
  | ['e', 'n', 'd'] => some .stop
  | ['s', 't', 'a', 'r', 't', '-', 'h', 'a', 'l', 'f'] => some .startHalf
  | ['e', 'n', 'd', '-', 'h', 'a', 'l', 'f'] => some .stopHalf
  | _ => none

def isEdgeNameChar (c : Char) : Bool := c.isAlpha || c == '-'

/--
A word boundary may carry a name between braces. Braces that do not begin like a name are left for
the repetition they belong to.
-/
def readBoundary (scan : Scan) : Except Error (Escaped × Scan) :=
  let look (edge : WordEdge) : Escaped := .look (.word edge scan.flags.unicode)
  match scan.rest with
  | '\x7b' :: rest =>
    let inside := scan.goOn rest
    match inside.rest with
    | [] => .error .wordBoundary
    | c :: _ =>
      -- These braces are not part of the boundary.
      if !isEdgeNameChar c then .ok (look .boundary, scan)
      else
        let (name, scan) := inside.takeLoose isEdgeNameChar
        match scan.rest, namedEdge name with
        | '\x7d' :: behind, some edge => .ok (look edge, { scan with rest := behind })
        | _, _ => .error .wordBoundary
  | _ => .ok (look .boundary, scan)

/-! ### All escapes -/

/-- The letters that stand for one control character. -/
def controlEscape : Char → Option Char
  | 'a' => some '\x07'
  | 'f' => some '\x0c'
  | 't' => some '\t'
  | 'n' => some '\n'
  | 'r' => some '\r'
  | 'v' => some '\x0b'
  | _ => none

/-- ASCII characters other than letters, digits and angle brackets stand for themselves. -/
def isEscapable (c : Char) : Bool :=
  c.toNat < 128 && !c.isAlphanum && c != '<' && c != '>'

/-- Reads an escape, the backslash being read already. -/
def readEscape (scan : Scan) : Except Error (Escaped × Scan) :=
  match scan.rest with
  | [] => .error .trailingBackslash
  | c :: rest =>
    let behind : Scan := { scan with rest := rest }
    let flags := scan.flags
    if isDigit c then .error .backReference
    else match c with
      | 'x' => do let (c, scan) ← readByteOrCode behind.skipBlanks; return (.char c, scan)
      | 'u' => do let (c, scan) ← readCodePoint 4 behind.skipBlanks; return (.char c, scan)
      | 'U' => do let (c, scan) ← readCodePoint 8 behind.skipBlanks; return (.char c, scan)
      | 'p' => readProperty false behind.skipBlanks
      | 'P' => readProperty true behind.skipBlanks
      | 'd' => do return (← flags.letterClass Unicode.digit .asciiDigit false, behind)
      | 'D' => do return (← flags.letterClass Unicode.digit .asciiDigit true, behind)
      | 's' => do return (← flags.letterClass Unicode.whiteSpace .asciiBlank false, behind)
      | 'S' => do return (← flags.letterClass Unicode.whiteSpace .asciiBlank true, behind)
      | 'w' => do return (← flags.letterClass Unicode.word .asciiWord false, behind)
      | 'W' => do return (← flags.letterClass Unicode.word .asciiWord true, behind)
      | 'A' => .ok (.look .textStart, behind)
      | 'z' => .ok (.look .textEnd, behind)
      | 'b' => readBoundary behind
      | 'B' => .ok (.look (.word .noBoundary flags.unicode), behind)
      | '<' => .ok (.look (.word .start flags.unicode), behind)
      | '>' => .ok (.look (.word .stop flags.unicode), behind)
      | _ =>
        match controlEscape c with
        | some control => .ok (.char control, behind)
        | none => if isEscapable c then .ok (.char c, behind) else .error (.unknownEscape c)

/-! ## Counted repetitions -/

/-- The largest count of a repetition. -/
def maxCount : Nat := 0xFFFFFFFF

/-- Reads a count with blanks around it; no digits at all are no count. -/
def readCountNumber (scan : Scan) : Except Error (Nat × Scan) :=
  let (digits, scan) := Scan.takeLoose { scan with rest := trimStart scan.rest } isDigit
  match readDecimal maxCount digits with
  | some n => .ok (n, { scan with rest := trimStart scan.rest })
  | none => .error .repeatCount

/-- Reads what follows the opening brace of a counted repetition, the closing brace included. -/
def readCount (scan : Scan) : Except Error ((Nat × Option Nat) × Scan) := do
  let (low, scan) ← readCountNumber scan.skipBlanks
  let (high, scan) ← match scan.rest with
    | ',' :: rest =>
      let behind := scan.goOn rest
      if behind.rest.head? = some '\x7d' then pure (none, behind)
      else do
        let (high, scan) ← readCountNumber behind
        if low ≤ high then pure (some high, scan) else .error .repeatCount
    | _ => pure (some low, scan)
  match scan.rest with
  | '\x7d' :: rest => return ((low, high), scan.goOn rest)
  | _ => .error .repeatCount

/-! ## Classes -/

/-- The operations that join the parts of a class; they associate to the left. -/
inductive SetOp where
  | inter
  | diff
  | symmDiff
deriving DecidableEq, Repr

def SetOp.apply (op : SetOp) (left right : CharSet) : CharSet :=
  match op with
  | .inter => left.inter right
  | .diff => left.diff right
  | .symmDiff => left.symmDiff right

/-- A class or a part of one, and how deep its parts are nested. -/
structure ClassPart where
  set : CharSet
  depth : Nat
deriving Repr

/-- The members of a class that stand in a row. -/
structure Members where
  set : CharSet := .empty
  count : Nat := 0
  depth : Nat := 0

def Members.add (members : Members) (part : ClassPart) : Members :=
  ⟨members.set.union part.set, members.count + 1, max members.depth part.depth⟩

/-- Several members make a part of their own. -/
def Members.part (members : Members) : ClassPart :=
  ⟨members.set, if 2 ≤ members.count then members.depth + 1 else members.depth⟩

/-- An operation that waits for its right operand. -/
structure OpenOp where
  left : ClassPart
  op : SetOp

/-- Completes the operation that waits for the members, if one does. -/
def closeOp (flags : Flags) (waiting : Option OpenOp) (members : Members) : ClassPart :=
  match waiting with
  | none => members.part
  | some ⟨left, op⟩ =>
    let right := members.part
    ⟨op.apply (flags.foldSet left.set) (flags.foldSet right.set), max left.depth right.depth + 1⟩

/-- A named set between `[:` and `:]` and whether it is negated, the first bracket being read. -/
def readNamedSet (text : List Char) : Option ((CharSet × Bool) × List Char) :=
  match text with
  | ':' :: rest =>
    let (negated, rest) := match rest with
      | '^' :: rest => (true, rest)
      | rest => (false, rest)
    match rest.dropWhile (· != ':') with
    | ':' :: ']' :: behind =>
      (CharSet.ofName (rest.takeWhile (· != ':'))).map fun s => ((s, negated), behind)
    | _ => none
  | _ => none

/-- One member of a class: a character or an escape. -/
def readMember (scan : Scan) : Except Error (Escaped × Scan) := do
  let (member, behind) ← match scan.rest with
    | [] => .error .unclosedClass
    | '\\' :: rest => readEscape { scan with rest := rest }
    | c :: rest => pure (.char c, { scan with rest := rest })
  match member with
  | .char c =>
    if scan.flags.unicode || c.toNat < 128 then return (member, behind) else .error .notText
  | _ => return (member, behind)

/--
The character that decides whether a minus sign makes a range. Of a comment behind it only the
mark is passed over, and where nothing but blanks follows the first character counts.
-/
def Scan.behindMinus (scan : Scan) (rest : List Char) : Option Char :=
  if scan.flags.verbose then
    let shown := match rest.dropWhile isBlank with
      | '#' :: comment => comment.dropWhile isBlank
      | shown => shown
    shown.head?.or rest.head?
  else rest.head?

/--
Reads a member or a range. A minus sign before the closing bracket or before another minus sign
makes no range.
-/
def readRange (scan : Scan) : Except Error (CharSet × Scan) := do
  let (first, scan) ← readMember scan
  let scan := scan.skipBlanks
  let alone : Except Error (CharSet × Scan) :=
    match first with
    | .char c => .ok (.single c, scan)
    | .set s => .ok (s, scan)
    | .look _ => .error .classItem
  match scan.rest with
  | '-' :: rest =>
    let decisive := scan.behindMinus rest
    if decisive = some ']' ∨ decisive = some '-' then alone
    else do
      let (last, scan) ← readMember (scan.goOn rest)
      match first, last with
      | .char first, .char last =>
        if first ≤ last then .ok (.range first last, scan)
        else .error (.reversedRange first last)
      | _, _ => .error .classItem
  | _ => alone

/-- Minus signs that open a class are members of it. -/
def readLeadingDashes : Nat → Members → Scan → Members × Scan
  | 0, members, scan => (members, scan)
  | room + 1, members, scan =>
    match scan.rest with
    | '-' :: rest => readLeadingDashes room (members.add ⟨.single '-', 0⟩) (scan.goOn rest)
    | _ => (members, scan)

mutual

/-- Reads a class, the opening bracket being read already. -/
def readClass (room : Nat) (scan : Scan) : Except Error (ClassPart × Scan) :=
  match room with
  | 0 => .error .nestedTooDeep
  | room + 1 => do
    let flags := scan.flags
    let scan := scan.skipBlanks
    let (negated, scan) := match scan.rest with
      | '^' :: rest => (true, scan.goOn rest)
      | _ => (false, scan)
    let (members, scan) := readLeadingDashes scan.rest.length {} scan
    -- A bracket that closes nothing yet is a member.
    let (members, scan) := match members.count, scan.rest with
      | 0, ']' :: rest => (members.add ⟨.single ']', 0⟩, scan.goOn rest)
      | _, _ => (members, scan)
    let (part, scan) ← readClassMembers room none members scan
    return (⟨← flags.complementIf negated (flags.foldSet part.set), part.depth + 1⟩, scan)
termination_by structural room

/-- Reads the members of a class up to its closing bracket. -/
def readClassMembers (room : Nat) (waiting : Option OpenOp) (members : Members) (scan : Scan) :
    Except Error (ClassPart × Scan) :=
  match room with
  | 0 => .error .nestedTooDeep
  | room + 1 =>
    let flags := scan.flags
    let scan := scan.skipBlanks
    let operate (op : SetOp) (rest : List Char) :=
      readClassMembers room (some ⟨closeOp flags waiting members, op⟩) {}
        { scan with rest := rest }
    match scan.rest with
    | [] => .error .unclosedClass
    | ']' :: rest => .ok (closeOp flags waiting members, { scan with rest := rest })
    | '&' :: '&' :: rest => operate .inter rest
    | '-' :: '-' :: rest => operate .diff rest
    | '~' :: '~' :: rest => operate .symmDiff rest
    | '[' :: rest =>
      match readNamedSet rest with
      | some ((s, negated), behind) => do
        let s ← flags.complementIf negated (flags.foldSet s)
        readClassMembers room waiting (members.add ⟨s, 0⟩) { scan with rest := behind }
      | none => do
        let (part, scan) ← readClass room { scan with rest := rest }
        readClassMembers room waiting (members.add part) scan
    | _ => do
      let (s, scan) ← readRange scan
      readClassMembers room waiting (members.add ⟨s, 0⟩) scan
termination_by structural room

end

end Constituency.Regex
