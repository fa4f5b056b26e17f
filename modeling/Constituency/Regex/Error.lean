/-!
# Patterns that cannot be read

Why a pattern text is refused. A pattern that is written correctly can still be refused for the
size of its program.
-/
namespace Constituency.Regex

inductive Error where
  | unclosedGroup
  | unopenedGroup
  | lookAround
  | groupName
  | repeatedGroupName (name : String)
  | flags
  | missingOperand
  | repeatCount
  | unclosedClass
  | classItem
  | reversedRange (first last : Char)
  | trailingBackslash
  | backReference
  | unknownEscape (c : Char)
  | codePoint
  | unknownProperty (name : String)
  | wordBoundary
  | notText
  | nestedTooDeep
  | tooLarge
deriving DecidableEq, Repr

/-- The largest size of a pattern's program, in bytes. -/
def sizeLimit : Nat := 10485760

/-- How deep the parts of a pattern may be nested. -/
def nestLimit : Nat := 250

namespace Error

def cause : Error → String
  | .unclosedGroup => "unclosed group"
  | .unopenedGroup => "unopened group"
  | .lookAround => "look-around is not supported"
  | .groupName => "invalid capture group name"
  | .repeatedGroupName name => "duplicate capture group name " ++ name
  | .flags => "unrecognized flag"
  | .missingOperand => "repetition operator missing expression"
  | .repeatCount => "invalid repetition count"
  | .unclosedClass => "unclosed character class"
  | .classItem => "invalid escape or range in character class"
  | .reversedRange first last =>
    "invalid character class range " ++ first.toString ++ "-" ++ last.toString
  | .trailingBackslash => "incomplete escape sequence"
  | .backReference => "backreferences are not supported"
  | .unknownEscape c => "unrecognized escape sequence \\" ++ c.toString
  | .codePoint => "invalid hexadecimal escape"
  | .unknownProperty name => "Unicode property not found: " ++ name
  | .wordBoundary => "unrecognized word boundary assertion"
  | .notText => "pattern can match invalid text"
  | .nestedTooDeep => "exceeded the maximum number of nested parentheses/brackets"
  | .tooLarge => "too large"

def message : Error → String
  | .tooLarge => "Compiled regex exceeds size limit of " ++ toString sizeLimit ++ " bytes."
  | error => "regex parse error: " ++ error.cause

end Error

end Constituency.Regex
