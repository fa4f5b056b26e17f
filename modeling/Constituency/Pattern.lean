import Constituency.Regex.Captures

/-!
# Patterns for whole texts

A pattern is a regular expression that has to match a text from end to end: a whole tag in a
grammar, a whole window of tokens in a tag rule. Its source is put into a frame that holds it to
both ends of the text, and is read as one regular expression. A pattern carries its reading along,
so two patterns are equal exactly when their sources are.
-/
namespace Constituency

/-- The frame that holds a pattern to both ends of a text. -/
def wholeMatch (source : List Char) : List Char :=
  ['^', '(', '?', ':'] ++ source ++ [')', '$']

structure Pattern where
  source : String
  regex : Regex
  read_source : Regex.read (wholeMatch source.toList) = .ok regex

namespace Pattern

def read (source : String) : Except Regex.Error Pattern :=
  match reading : Regex.read (wholeMatch source.toList) with
  | .ok regex => .ok ⟨source, regex, reading⟩
  | .error error => .error error

def accepts (pattern : Pattern) (text : String) : Bool := pattern.regex.isMatch text.toList

/-- What the groups of a pattern capture in a text that it accepts. -/
def captures? (pattern : Pattern) (text : String) : Option Regex.Captures :=
  pattern.regex.captures? text.toList

/-- The source of a pattern between slashes. -/
def display (pattern : Pattern) : String := "/" ++ pattern.source ++ "/"

theorem ext_source {p q : Pattern} (same : p.source = q.source) : p = q := by
  obtain ⟨source, regex, reading⟩ := p
  obtain ⟨source', regex', reading'⟩ := q
  obtain rfl : source = source' := same
  obtain rfl : regex = regex' := Except.ok.inj (reading.symm.trans reading')
  rfl

instance : DecidableEq Pattern := fun p q =>
  decidable_of_iff (p.source = q.source) ⟨ext_source, congrArg source⟩

theorem source_of_read {source : String} {pattern : Pattern} (done : read source = .ok pattern) :
    pattern.source = source := by
  unfold read at done
  split at done
  next => exact (Except.ok.inj done) ▸ rfl
  next => contradiction

theorem read_self (pattern : Pattern) : read pattern.source = .ok pattern := by
  unfold read
  split
  next regex reading => exact congrArg Except.ok (ext_source rfl)
  next error reading => exact absurd (reading.symm.trans pattern.read_source) (by simp)

end Pattern

end Constituency
