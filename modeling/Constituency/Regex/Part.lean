import Constituency.Regex.Scan
import Constituency.Regex.Size

/-!
# Parts of a pattern under construction

While a pattern is read, each part carries its tree and how deep its text is nested. The depth is
that of the text and not that of the tree, which is simpler: flags that are set in a sequence, for
instance, are one of its parts and leave nothing behind in the tree.
-/
namespace Constituency.Regex

structure Part where
  node : Node
  /-- How deep its parts are nested. -/
  depth : Nat
deriving Repr

namespace Part

def ofSet (s : CharSet) : Part := ⟨.set s, 0⟩

def ofLook (condition : Look) : Part := ⟨.look condition, 0⟩

/-- Flags that are set for what follows. -/
def flags : Part := ⟨.empty, 0⟩

def maxDepth (parts : List Part) : Nat := parts.foldl (fun depth part => max depth part.depth) 0

/-- One part behind the other. -/
def concat : List Part → Part
  | [] => ⟨.empty, 0⟩
  | [part] => part
  | parts => ⟨Node.concat (parts.map Part.node), maxDepth parts + 1⟩

/-- One part or another. -/
def alternation : List Part → Part
  | [] => ⟨.empty, 0⟩
  | [part] => part
  | parts => ⟨Node.alternation (parts.map Part.node), maxDepth parts + 1⟩

def group (index : Option Nat) (body : Part) : Part :=
  match index with
  | some index => ⟨.group index body.node, body.depth + 1⟩
  | none => ⟨body.node, body.depth + 1⟩

def repeated (greedy : Bool) (low : Nat) (high : Option Nat) (body : Part) : Part :=
  ⟨Node.repeated greedy low high body.node, body.depth + 1⟩

end Part

end Constituency.Regex
