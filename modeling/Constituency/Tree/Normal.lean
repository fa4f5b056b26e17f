import Constituency.LabelSet
import Constituency.TagTable.Basic
import Constituency.Tree

/-!
# Normal trees

A parse tree is brought into the form in which it is shown: the mark at the end of the sentence is
dropped, some labels are spliced out, nodes are renamed as the tag rules of their leaves ask, nodes
with an only child give way to it, and spans are computed anew. The root stays whatever happens.
-/
namespace Constituency

namespace Tree

/-! ## The end of the sentence -/

mutual

/-- A node without the sentence-final leaf at its end; nothing if that leaves nothing of it. -/
def withoutFinal : Tree → Option Tree
  | .leaf token span => if token.isSentenceFinal then none else some (.leaf token span)
  | .branch label span [] => some (.branch label span [])
  | .branch label span children =>
    match withoutFinalAll children with
    | [] => none
    | kept => some (.branch label span kept)

/-- Some nodes without the sentence-final leaf at the end of the last one. -/
def withoutFinalAll : List Tree → List Tree
  | [] => []
  | [last] => last.withoutFinal.toList
  | first :: rest => first :: withoutFinalAll rest

end

/-- Drops a sentence-final leaf at the end, and the branches that it leaves empty. -/
def dropSentenceEnd : Tree → Tree
  | .leaf token span => .leaf token span
  | .branch label span children => .branch label span (withoutFinalAll children)

/-! ## Splicing -/

/-- A node, or its children if its label is one of `labels`. -/
def spliced (labels : LabelSet) : Tree → List Tree
  | .leaf token span => [.leaf token span]
  | .branch label span children =>
    if labels.contains label then children else [.branch label span children]

mutual

/-- Replaces every node below the root whose label is one of `labels` by its children. -/
def flattenLabels (labels : LabelSet) : Tree → Tree
  | .leaf token span => .leaf token span
  | .branch label span children => .branch label span (flattenLabelsAll labels children)

def flattenLabelsAll (labels : LabelSet) : List Tree → List Tree
  | [] => []
  | child :: rest =>
    (child.flattenLabels labels).spliced labels ++ flattenLabelsAll labels rest

end

/-! ## Renaming -/

/--
Serves the requests that ask for the label of a node, the first one first. The node may be renamed
again under its new label; each request is served once, so there are at most as many rounds.
-/
def serve : Nat → String → List Rename → String × List Rename
  | 0, label, requests => (label, requests)
  | rounds + 1, label, requests =>
    match requests.find? (·.old == label) with
    | some rename => serve rounds rename.new (requests.eraseP (·.old == label))
    | none => (label, requests)

mutual

/-- Renames nodes as their leaves ask, and gives the requests that no node has served. -/
def serveAll (renameFor : String → Option Rename) : Tree → Tree × List Rename
  | .leaf token span => (.leaf token span, (renameFor token.tag).toList)
  | .branch label span children =>
    let (children, requests) := serveChildren renameFor children
    let (label, requests) := serve requests.length label requests
    (.branch label span children, requests)

def serveChildren (renameFor : String → Option Rename) : List Tree → List Tree × List Rename
  | [] => ([], [])
  | child :: rest =>
    let (child, requests) := child.serveAll renameFor
    let (rest, others) := serveChildren renameFor rest
    (child :: rest, requests ++ others)

end

/-- Gives the nearest node above each leaf that the rename of its tag asks for its new label. -/
def remapLabels (table : TagTable) (tree : Tree) : Tree := (tree.serveAll table.renameFor).1

/-! ## Only children -/

mutual

/-- Replaces a node with an only child by that child, again and again. -/
def collapse : Tree → Tree
  | .leaf token span => .leaf token span
  | .branch _ _ [child] => child.collapse
  | .branch label span children => .branch label span (collapseAll children)

def collapseAll : List Tree → List Tree
  | [] => []
  | child :: rest => child.collapse :: collapseAll rest

end

/-- Collapses the nodes with an only child below the root. -/
def elide : Tree → Tree
  | .leaf token span => .leaf token span
  | .branch label span children => .branch label span (collapseAll children)

/-- The form in which a tree is shown, with the nodes that have an only child if wanted. -/
def normalize (flatten : LabelSet) (table : TagTable) (fullDetail : Bool) (tree : Tree) : Tree :=
  let tree := (tree.dropSentenceEnd.flattenLabels flatten).remapLabels table
  (if fullDetail then tree else tree.elide).recomputeSpans

end Tree

end Constituency
