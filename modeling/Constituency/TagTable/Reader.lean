import Constituency.TagTable.Basic
import Constituency.Text.Lexeme

/-!
# Tag table texts

A tag table text is a sequence of statements, each one entry with a semicolon behind it:

* `link name "address";`
* `pos TAG "label" "description";`
* `map "pattern" -> "replacement" [ attributes ];`, where an attribute is a key, a colon and one or
  more strings, and commas may stand between attributes.

Reading gives the entries in order and, if the text breaks off with an error, the entries up to
there too; a rule counts as registered before the semicolon behind it has been seen.
-/
namespace Constituency

open Constituency.Text

inductive TagTableError where
  | missing (what : Missing)
  | unknownStatement (keyword found : String)
  | mapArrow (pattern : String) (what : Missing)
  | mapValues (pattern key : String) (what : Missing)
  | valueCount (key : String) (count : Nat)
  | unknownAttribute (pattern key : String)
  | rule (error : TagRuleError)
  | rename (error : RenameError)
deriving DecidableEq, Repr

def TagTableError.message : TagTableError → String
  | .missing what => what.message
  | .unknownStatement keyword found =>
    "unknown statement " ++ quoted keyword ++ " at " ++ found
  | .mapArrow pattern what => "map " ++ quoted pattern ++ ": " ++ what.message
  | .mapValues pattern key what =>
    "map " ++ quoted pattern ++ " " ++ key ++ ": " ++ what.message
  | .valueCount key count => key ++ " takes one value, got " ++ toString count
  | .unknownAttribute pattern key =>
    "map " ++ quoted pattern ++ ": unknown attribute " ++ key
  | .rule error => error.message
  | .rename error => error.message

namespace TagTable

/-- Reads the strings behind the first one of an attribute. -/
def readMoreStrings : Nat → List Char → Except Missing (List String × List Char)
  | 0, text => .ok ([], text)
  | room + 1, text =>
    match skipBlank text with
    | '"' :: rest => do
      let (value, rest) ← readString ('"' :: rest)
      let (others, rest) ← readMoreStrings room rest
      return (value :: others, rest)
    | text => .ok ([], text)

/-- Reads one or more strings. -/
def readStrings (text : List Char) : Except Missing (List String × List Char) := do
  let (first, rest) ← readString (skipBlank text)
  let (others, rest) ← readMoreStrings rest.length rest
  return (first :: others, rest)

def single (key : String) : List String → Except TagTableError String
  | [value] => .ok value
  | values => .error (.valueCount key values.length)

/-- Adds an attribute to a rule. A later value replaces an earlier one; references add up. -/
def setAttribute (rule : TagRule) (key : String) (values : List String) :
    Except TagTableError TagRule :=
  if key = "pos" then (single key values).map rule.withPos
  else if key = "label" then (single key values).map rule.withLabel
  else if key = "description" then (single key values).map rule.withDescription
  else if key = "notes" then (single key values).map rule.withNotes
  else if key = "rename" then do
    let rename ← (Rename.read (← single key values)).mapError .rename
    return rule.withRename rename
  else if key = "refs" then .ok (rule.withRefs values)
  else .error (.unknownAttribute rule.pattern.source key)

/-- Reads attributes up to the closing bracket. -/
def readAttributes : Nat → TagRule → List Char → Except TagTableError (TagRule × List Char)
  | 0, rule, text => .ok (rule, text)
  | room + 1, rule, text =>
    match skipBlank text with
    | ']' :: rest => .ok (rule, rest)
    | text => do
      let (key, rest) ← (readName text).mapError .missing
      let rest ← (readChar ':' (skipBlank rest)).mapError .missing
      let (values, rest) ← (readStrings rest).mapError (.mapValues rule.pattern.source key)
      let rule ← setAttribute rule key values
      -- Commas between attributes are optional.
      match skipBlank rest with
      | ',' :: rest => readAttributes room rule rest
      | rest => readAttributes room rule rest

/-- Reads a rule behind its keyword. -/
def readRule (text : List Char) : Except TagTableError (TagRule × List Char) := do
  let (pattern, rest) ← (readString text).mapError .missing
  let rest ← (readArrow (skipBlank rest)).mapError (.mapArrow pattern)
  let (replacement, rest) ← (readString (skipBlank rest)).mapError .missing
  let rule ← (TagRule.ofTexts pattern replacement).mapError .rule
  match skipBlank rest with
  | '[' :: rest => readAttributes (rest.length + 1) rule rest
  | rest => return (rule, rest)

/-- Reads an entry up to the semicolon behind it. -/
def readEntry (text : List Char) : Except TagTableError (TagEntry × List Char) := do
  let (keyword, rest) ← (readName text).mapError .missing
  let rest := skipBlank rest
  if keyword = "link" then
    let (name, rest) ← (readName rest).mapError .missing
    let (address, rest) ← (readString (skipBlank rest)).mapError .missing
    return (.link name address, rest)
  else if keyword = "pos" then
    let (tag, rest) ← (readName rest).mapError .missing
    let (label, rest) ← (readString (skipBlank rest)).mapError .missing
    let (description, rest) ← (readString (skipBlank rest)).mapError .missing
    return (.pos tag ⟨label, description⟩, rest)
  else if keyword = "map" then
    let (rule, rest) ← readRule rest
    return (.rule rule, rest)
  else .error (.unknownStatement keyword (snippet text))

/-- Reads at most `room` statements. -/
def readEntries : Nat → List Char → List TagEntry × Option TagTableError
  | 0, _ => ([], none)
  | room + 1, text =>
    match skipBlank text with
    | [] => ([], none)
    | text =>
      match readEntry text with
      | .error error => ([], some error)
      | .ok (entry, rest) =>
        match readChar ';' (skipBlank rest) with
        -- The entry is there, only its end is missing.
        | .error what => ([entry], some (.missing what))
        | .ok rest =>
          let (others, error) := readEntries room rest
          (entry :: others, error)

/-- The entries of a text, and the error at which the reading stopped, if it did. -/
def entriesOf (text : String) : List TagEntry × Option TagTableError :=
  readEntries (text.toList.length + 1) text.toList

/--
Reads a table, numbered from `next` on, and gives the first number left. Rules in front of an error
have taken their numbers too.
-/
def read (text : String) (next : Nat) : Except TagTableError TagTable × Nat :=
  let (entries, error) := entriesOf text
  let (table, free) := build entries next
  (match error with | none => .ok table | some error => .error error, free)

theorem read_of_entriesOf {text : String} {entries : List TagEntry}
    (listed : entriesOf text = (entries, none)) (next : Nat) :
    read text next = (.ok (build entries next).1, (build entries next).2) := by
  rw [read, listed]

end TagTable

end Constituency
