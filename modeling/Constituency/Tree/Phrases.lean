import Constituency.LabelSet
import Constituency.Tree

/-!
# Phrase lists

A phrase list tells a tree in the order in which it is read: the words from left to right, and the
label of each node behind what belongs to it. Labels can be hidden, words cannot.
-/
namespace Constituency

inductive PhraseEntry where
  | word (token : Token)
  | label (text : String)
deriving DecidableEq, Repr

def PhraseEntry.display : PhraseEntry → String
  | .word token => token.display
  | .label text => "<" ++ text ++ ">"

namespace Tree

mutual

/-- The entries of a node. -/
def entries (hidden : LabelSet) : Tree → List PhraseEntry
  | .leaf token _ => [.word token]
  | .branch label _ children =>
    entriesAll hidden children ++ if hidden.contains label then [] else [.label label]

def entriesAll (hidden : LabelSet) : List Tree → List PhraseEntry
  | [] => []
  | child :: rest => child.entries hidden ++ entriesAll hidden rest

end

/-- One list of entries for each child of the root. -/
def phrases (hidden : LabelSet) (tree : Tree) : List (List PhraseEntry) :=
  tree.children.map (entries hidden)

end Tree

end Constituency
