import Constituency.Pattern
import Constituency.Token

/-!
# A cursor over tagged words

A cursor is a position in a list of tokens. Looking asks for the token under the cursor, perhaps
only if its tag is accepted by a pattern; consuming also moves past it. A mark is a position, and
going back to one is setting the position.
-/
namespace Constituency

/-- The token at a position, if there is one and the pattern, if one is given, accepts its tag. -/
def tokenMatching (tokens : List Token) (position : Nat) (pattern : Option Pattern) :
    Option Token :=
  tokens[position]?.filter fun token => pattern.all (·.accepts token.tag)

structure Cursor where
  tokens : List Token
  position : Nat := 0
deriving Repr

namespace Cursor

def peek (cursor : Cursor) (pattern : Option Pattern) : Option Token :=
  tokenMatching cursor.tokens cursor.position pattern

/-- The token that `peek` gives, and the cursor behind it. -/
def consume (cursor : Cursor) (pattern : Option Pattern) : Option Token × Cursor :=
  match cursor.peek pattern with
  | some token => (some token, { cursor with position := cursor.position + 1 })
  | none => (none, cursor)

def mark (cursor : Cursor) : Nat := cursor.position

def restore (cursor : Cursor) (mark : Nat) : Cursor := { cursor with position := mark }

def tokenAt (cursor : Cursor) (index : Nat) : Option Token := cursor.tokens[index]?

def isAtEnd (cursor : Cursor) : Bool := cursor.tokens.length ≤ cursor.position

theorem restore_mark_consume (cursor : Cursor) (pattern : Option Pattern) :
    (cursor.consume pattern).2.restore cursor.mark = cursor := by
  simp only [consume, mark, restore]
  split <;> rfl

end Cursor

end Constituency
