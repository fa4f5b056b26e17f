import Constituency.Proofs.Tree.Address
import Mathlib.Data.List.Forall2

/-!
# What a phrase list tells

A phrase list tells every node below the root once, in postorder: a word for each leaf, and for
each branch its label, unless it is hidden. So what is told of a branch stands right behind what is
told of the nodes below it, and in front of that stands just what is told of the nodes further to
the left. Nodes are told apart by their addresses.
-/
namespace Constituency

def PhraseEntry.word? : PhraseEntry → Option Token
  | .word token => some token
  | .label _ => none

def PhraseEntry.label? : PhraseEntry → Option String
  | .word _ => none
  | .label text => some text

/-- Whether an entry is told although some labels are hidden. -/
def PhraseEntry.isShown (hidden : LabelSet) (entry : PhraseEntry) : Bool :=
  !entry.label?.any hidden.contains

namespace Tree

/-! ### Places -/

/-- Whether an address leaves the way to another one to the left. -/
def isLeftOf : List Nat → List Nat → Bool
  | index :: rest, other :: more => index < other || index == other && isLeftOf rest more
  | _, _ => false

/-- Whether an address leads further down from another one. -/
def isBelow : List Nat → List Nat → Bool
  | index :: rest, other :: more => index == other && isBelow rest more
  | _ :: _, [] => true
  | [], _ => false

theorem isBelow_iff {lower upper : List Nat} : isBelow lower upper = true ↔ Above upper lower := by
  induction lower generalizing upper with
  | nil => simp [isBelow, not_above_nil]
  | cons index rest ih =>
    cases upper with
    | nil => simp [isBelow, above_nil_cons]
    | cons other more => simp [isBelow, ih]

@[simp] theorem isLeftOf_self (address : List Nat) : isLeftOf address address = false := by
  induction address with
  | nil => rfl
  | cons index rest ih => simp [isLeftOf, ih]

@[simp] theorem isBelow_self (address : List Nat) : isBelow address address = false := by
  induction address with
  | nil => rfl
  | cons index rest ih => simp [isBelow, ih]

/-! ### Postorder -/

mutual

/-- The nodes with their addresses, each behind those below it. -/
def postorder : Tree → List (List Nat × Tree)
  | .leaf token span => [([], .leaf token span)]
  | .branch label span children => postorderFrom 0 children ++ [([], .branch label span children)]

def postorderFrom (index : Nat) : List Tree → List (List Nat × Tree)
  | [] => []
  | child :: rest =>
    child.postorder.map (fun node => (index :: node.1, node.2)) ++ postorderFrom (index + 1) rest

end

theorem postorderFrom_eq (index : Nat) (children : List Tree) :
    postorderFrom index children = (children.zipIdx index).flatMap fun child =>
      child.1.postorder.map fun node => (child.2 :: node.1, node.2) := by
  induction children generalizing index with
  | nil => rfl
  | cons child rest ih => rw [postorderFrom, ih, List.zipIdx_cons, List.flatMap_cons]

@[simp] theorem postorder_branch (label : String) (span : Span) (children : List Tree) :
    (Tree.branch label span children).postorder =
      gather postorder children ++ [([], .branch label span children)] := by
  rw [postorder, postorderFrom_eq, gather]

/-- What is found below one child stands between what is found to its left and to its right. -/
theorem exists_gather_eq {α : Type} (found : Tree → List (List Nat × α)) {children : List Tree}
    {index : Nat} {child : Tree} (there : children[index]? = some child) :
    ∃ left right, gather found children =
        left ++ (found child).map (fun item => (index :: item.1, item.2)) ++ right ∧
      (∀ item ∈ left, ∃ other rest, item.1 = other :: rest ∧ other < index) ∧
      ∀ item ∈ right, ∃ other rest, item.1 = other :: rest ∧ index < other := by
  obtain ⟨inside, rfl⟩ := List.getElem?_eq_some_iff.mp there
  have cut : children = children.take index ++ children[index] :: children.drop (index + 1) := by
    rw [List.getElem_cons_drop, List.take_append_drop]
  have length : (children.take index).length = index := List.length_take_of_le (by omega)
  refine ⟨gather found (children.take index),
    ((children.drop (index + 1)).zipIdx (index + 1)).flatMap fun child =>
      (found child.1).map fun item => (child.2 :: item.1, item.2), ?_, ?_, ?_⟩
  · conv_lhs => rw [gather, cut, List.zipIdx_append, List.flatMap_append, List.zipIdx_cons,
      List.flatMap_cons, length, Nat.zero_add, ← List.append_assoc]
    rfl
  · rintro ⟨address, what⟩ member
    obtain ⟨other, child, rest, early, -, rfl⟩ := mem_gather.mp member
    obtain ⟨below, -⟩ := List.getElem?_eq_some_iff.mp early
    exact ⟨other, rest, rfl, by omega⟩
  · intro item member
    obtain ⟨⟨child, other⟩, among, below⟩ := List.mem_flatMap.mp member
    obtain ⟨rest, -, rfl⟩ := List.mem_map.mp below
    exact ⟨other, rest.1, rfl, List.le_snd_of_mem_zipIdx among⟩

/--
The nodes below a node and the node itself are a stretch of the postorder. In front of it are the
nodes further to the left.
-/
theorem exists_postorder_eq {tree node : Tree} {address : List Nat}
    (found : tree.node? address = some node) : ∃ left right,
      tree.postorder =
        left ++ node.postorder.map (fun inner => (address ++ inner.1, inner.2)) ++ right ∧
      (∀ other ∈ left, isLeftOf other.1 address = true) ∧
      ∀ other ∈ right, isLeftOf other.1 address = false ∧ isBelow other.1 address = false := by
  induction address generalizing tree with
  | nil =>
    obtain rfl := Option.some.inj found
    exact ⟨[], [], by simp, by simp, by simp⟩
  | cons index rest ih =>
    rw [node?_cons] at found
    obtain ⟨child, there, inside⟩ := Option.bind_eq_some_iff.mp found
    cases tree with
    | leaf token span => simp [Tree.children] at there
    | branch label span children =>
      change children[index]? = some child at there
      obtain ⟨front, back, gathered, before, behind⟩ := exists_gather_eq postorder there
      obtain ⟨left, right, split, leftmost, others⟩ := ih inside
      refine ⟨front ++ left.map fun other => (index :: other.1, other.2),
        right.map (fun other => (index :: other.1, other.2)) ++
          (back ++ [([], .branch label span children)]), ?_, ?_, ?_⟩
      · rw [postorder_branch, gathered, split]
        simp [Function.comp_def]
      · intro other member
        rcases List.mem_append.mp member with early | inside
        · obtain ⟨first, more, same, less⟩ := before other early
          simp [same, isLeftOf, less]
        · obtain ⟨inner, among, rfl⟩ := List.mem_map.mp inside
          simp [isLeftOf, leftmost inner among]
      · intro other member
        rcases List.mem_append.mp member with inside | late
        · obtain ⟨inner, among, rfl⟩ := List.mem_map.mp inside
          simp [isLeftOf, isBelow, others inner among]
        · rcases List.mem_append.mp late with further | root
          · obtain ⟨first, more, same, less⟩ := behind other further
            have notLess : ¬ first < index := by omega
            have different : ¬ first = index := by omega
            simp [same, isLeftOf, isBelow, notLess, different]
          · -- The root stands above the node.
            obtain rfl := List.mem_singleton.mp root
            exact ⟨rfl, rfl⟩

/-! ### What is told -/

/-- What is told of a node itself. -/
def ownEntries (hidden : LabelSet) : Tree → List PhraseEntry
  | .leaf token _ => [.word token]
  | .branch label _ _ => if hidden.contains label then [] else [.label label]

/-- What is told of the nodes at some addresses, in postorder. -/
def told (hidden : LabelSet) (tree : Tree) (here : List Nat → Bool) : List PhraseEntry :=
  (tree.postorder.filter fun node => here node.1).flatMap fun node => node.2.ownEntries hidden

/-- The entries of a node are what is told of the nodes from it on downwards. -/
theorem entries_eq (hidden : LabelSet) (tree : Tree) :
    tree.entries hidden = tree.postorder.flatMap fun node => node.2.ownEntries hidden := by
  induction tree using Tree.children_induction with
  | leaf token span => rfl
  | branch label span children ih =>
    have below : (gather postorder children).flatMap (fun node => node.2.ownEntries hidden) =
        children.flatMap (entries hidden) := by
      rw [← List.flatMap_map Prod.snd (ownEntries hidden), map_snd_gather, List.flatMap_assoc]
      refine List.flatMap_congr fun child member => ?_
      rw [ih child member, List.flatMap_map]
    rw [entries_branch, postorder_branch, List.flatMap_append, below, List.flatMap_singleton]
    rfl

/-- Below the root just the phrases are told. -/
theorem flatten_phrases (hidden : LabelSet) (tree : Tree) :
    (tree.phrases hidden).flatten = told hidden tree (· ≠ []) := by
  cases tree with
  | leaf token span => rfl
  | branch label span children =>
    have inner : ∀ node ∈ gather postorder children, node.1 ≠ [] := by
      rintro ⟨address, node⟩ member
      obtain ⟨index, child, rest, -, -, rfl⟩ := mem_gather.mp member
      exact List.cons_ne_nil index rest
    have below : (Tree.branch label span children).postorder.filter (fun node => node.1 ≠ []) =
        gather postorder children := by
      rw [postorder_branch, List.filter_append, List.filter_eq_self.mpr (by simpa using inner)]
      simp
    rw [told, below, ← List.flatMap_map Prod.snd (ownEntries hidden), map_snd_gather,
      List.flatMap_assoc, phrases, ← List.flatMap_def]
    refine List.flatMap_congr fun child _ => ?_
    rw [entries_eq, List.flatMap_map]

theorem not_isBelow_of_isLeftOf {first second : List Nat} (left : isLeftOf first second = true) :
    isBelow first second = false := by
  induction first generalizing second with
  | nil => rfl
  | cons index rest ih =>
    cases second with
    | nil => simp [isLeftOf] at left
    | cons other more =>
      simp only [isLeftOf, isBelow, Bool.or_eq_true, Bool.and_eq_true, decide_eq_true_eq,
        beq_iff_eq] at left ⊢
      rcases left with less | ⟨rfl, left⟩
      · simp [Nat.ne_of_lt less]
      · simp [ih left]

/-- A node comes last of all from it on downwards. -/
theorem exists_postorder_concat (node : Tree) :
    ∃ inner, node.postorder = inner ++ [([], node)] ∧ ∀ other ∈ inner, Above [] other.1 := by
  cases node with
  | leaf token span => exact ⟨[], rfl, by simp⟩
  | branch label span children =>
    refine ⟨gather postorder children, postorder_branch label span children, ?_⟩
    rintro ⟨address, other⟩ member
    obtain ⟨index, child, rest, -, -, rfl⟩ := mem_gather.mp member
    exact above_nil_cons index rest

/-- A node in the postorder: first what is to its left, then what is below it, then the node. -/
theorem exists_parts {tree node : Tree} {address : List Nat}
    (found : tree.node? address = some node) : ∃ left lower right,
      tree.postorder = left ++ lower ++ (address, node) :: right ∧
      (∀ other ∈ left, isLeftOf other.1 address = true) ∧
      (∀ other ∈ lower, isBelow other.1 address = true) ∧
      ∀ other ∈ right, isLeftOf other.1 address = false ∧ isBelow other.1 address = false := by
  obtain ⟨left, right, split, leftmost, others⟩ := exists_postorder_eq found
  obtain ⟨inner, last, below⟩ := exists_postorder_concat node
  refine ⟨left, inner.map fun other => (address ++ other.1, other.2), right, ?_, leftmost, ?_,
    others⟩
  · rw [split, last, List.map_append, List.map_singleton, List.append_nil]
    simp
  · intro other member
    obtain ⟨⟨way, node⟩, among, rfl⟩ := List.mem_map.mp member
    obtain ⟨index, rest, rfl⟩ := below _ among
    exact isBelow_iff.mpr ⟨index, rest, rfl⟩

/-- What is told of a node stands behind what is told to its left and below it. -/
theorem exists_told_eq {tree node : Tree} {address : List Nat} (hidden : LabelSet)
    (inside : address ≠ []) (found : tree.node? address = some node) : ∃ after,
      told hidden tree (· ≠ []) = told hidden tree (isLeftOf · address) ++
        told hidden tree (isBelow · address) ++ node.ownEntries hidden ++ after := by
  obtain ⟨left, lower, right, split, leftmost, lowest, others⟩ := exists_parts found
  have notLeft : ∀ other ∈ lower, ¬ isLeftOf other.1 address = true := fun other member left => by
    simpa [lowest other member] using not_isBelow_of_isLeftOf left
  have notBelow : ∀ other ∈ left, ¬ isBelow other.1 address = true := fun other member => by
    simp [not_isBelow_of_isLeftOf (leftmost other member)]
  have toLeft : tree.postorder.filter (fun other => isLeftOf other.1 address) = left := by
    have rest : right.filter (fun other => isLeftOf other.1 address) = [] :=
      List.filter_eq_nil_iff.mpr fun other member => by simp [others other member]
    simp [split, List.filter_eq_self.mpr leftmost, List.filter_eq_nil_iff.mpr notLeft, rest]
  have under : tree.postorder.filter (fun other => isBelow other.1 address) = lower := by
    have rest : right.filter (fun other => isBelow other.1 address) = [] :=
      List.filter_eq_nil_iff.mpr fun other member => by simp [others other member]
    simp [split, List.filter_eq_self.mpr lowest, List.filter_eq_nil_iff.mpr notBelow, rest]
  have proper : tree.postorder.filter (fun other => other.1 ≠ []) =
      left ++ lower ++ (address, node) :: right.filter (fun other => other.1 ≠ []) := by
    -- Nothing is to the left of another node at the root's address, or below one.
    have some : ∀ other ∈ left ++ lower, decide (other.1 ≠ []) = true := by
      intro other member
      rw [decide_eq_true_iff]
      intro root
      rcases List.mem_append.mp member with early | late
      · simpa [root, isLeftOf] using leftmost other early
      · simpa [root, isBelow] using lowest other late
    rw [split, List.filter_append, List.filter_eq_self.mpr some]
    simp [inside]
  refine ⟨(right.filter fun other => other.1 ≠ []).flatMap fun other => other.2.ownEntries hidden,
    ?_⟩
  rw [told, told, told, toLeft, under, proper]
  simp

/-! ### Words and labels -/

/-- The labels of the branches, each behind those of the branches below it. -/
def labelsPostorder (tree : Tree) : List String :=
  tree.postorder.filterMap fun node => node.2.label?

theorem words_entries (hidden : LabelSet) (tree : Tree) :
    (tree.entries hidden).filterMap PhraseEntry.word? = tree.leaves.map Prod.fst := by
  induction tree using Tree.children_induction with
  | leaf token span => rfl
  | branch label span children ih =>
    have silent : (if hidden.contains label then [] else [PhraseEntry.label label]).filterMap
        PhraseEntry.word? = [] := by split <;> rfl
    rw [entries_branch, List.filterMap_append, silent, List.append_nil, List.filterMap_flatMap,
      leaves_branch, List.map_flatMap]
    exact List.flatMap_congr ih

theorem labels_ownEntries (hidden : LabelSet) (node : Tree) :
    (node.ownEntries hidden).filterMap PhraseEntry.label? =
      node.label?.toList.filter (!hidden.contains ·) := by
  cases node with
  | leaf token span => rfl
  | branch label span children =>
    rw [ownEntries]
    cases shown : hidden.contains label <;> simp [label?, PhraseEntry.label?, shown]

theorem labels_entries (hidden : LabelSet) (tree : Tree) :
    (tree.entries hidden).filterMap PhraseEntry.label? =
      tree.labelsPostorder.filter (!hidden.contains ·) := by
  rw [entries_eq, List.filterMap_flatMap, labelsPostorder, List.filterMap_eq_flatMap_toList,
    List.filter_flatMap]
  exact List.flatMap_congr fun node _ => labels_ownEntries hidden node.2

/-- Hidden labels are all that is left out. -/
theorem entries_eq_filter (hidden : LabelSet) (tree : Tree) :
    tree.entries hidden = (tree.entries {}).filter (PhraseEntry.isShown hidden) := by
  rw [entries_eq, entries_eq, List.filter_flatMap]
  refine List.flatMap_congr fun node _ => ?_
  cases node.2 with
  | leaf token span => rfl
  | branch label span children =>
    have shown : ({} : LabelSet).contains label = false := rfl
    cases hides : hidden.contains label <;>
      simp [ownEntries, shown, hides, PhraseEntry.isShown, PhraseEntry.label?]

/-- Whether some lists tell all that is below the root of a tree. -/
structure Tells (hidden : LabelSet) (tree : Tree) (phrases : List (List PhraseEntry)) : Prop where
  /-- There is one list for each child of the root, with the words and labels of this child. -/
  children : List.Forall₂ (fun child phrase =>
    phrase.filterMap PhraseEntry.word? = child.leaves.map Prod.fst ∧
    phrase.filterMap PhraseEntry.label? = child.labelsPostorder.filter (!hidden.contains ·))
    tree.children phrases
  words : phrases.flatten.filterMap PhraseEntry.word? = tree.leaves.map Prod.fst
  labels : phrases.flatten.filterMap PhraseEntry.label? =
    (tree.children.flatMap labelsPostorder).filter (!hidden.contains ·)
  /-- A label stands behind what is told below its branch, and that behind what is told to the
  left of the branch. -/
  placed : ∀ address label span children, address ≠ [] →
    tree.node? address = some (.branch label span children) → ∃ after,
      phrases.flatten = told hidden tree (isLeftOf · address) ++
        told hidden tree (isBelow · address) ++
        (if hidden.contains label then [] else [.label label]) ++ after
  /-- If nothing was hidden, just the entries of hidden labels would be there, too. -/
  hides : phrases = (tree.phrases {}).map (List.filter (PhraseEntry.isShown hidden))

/--
The phrases of a branch are one list for each of its children. They tell the words of its leaves in
their order, and in postorder the labels below it that are not hidden, each right behind what is
told below its own branch. To hide labels is to leave out their entries and no others.
-/
theorem phrases_tells (hidden : LabelSet) (label : String) (span : Span) (children : List Tree) :
    Tells hidden (.branch label span children)
      ((Tree.branch label span children).phrases hidden) where
  children := by
    rw [phrases, List.forall₂_map_right_iff, List.forall₂_same]
    exact fun child _ => ⟨words_entries hidden child, labels_entries hidden child⟩
  words := by
    rw [phrases, ← List.flatMap_def, List.filterMap_flatMap, leaves_branch, List.map_flatMap]
    exact List.flatMap_congr fun child _ => words_entries hidden child
  labels := by
    rw [phrases, ← List.flatMap_def, List.filterMap_flatMap, List.filter_flatMap]
    exact List.flatMap_congr fun child _ => labels_entries hidden child
  placed := by
    intro address label span children inside found
    rw [flatten_phrases]
    exact exists_told_eq hidden inside found
  hides := by
    rw [phrases, phrases, List.map_map]
    exact List.map_congr_left fun child _ => entries_eq_filter hidden child

example : (Tree.branch "Sentence" ⟨0, 3⟩ [
      .branch "Phrase" ⟨0, 2⟩ [.branch "NounPhrase" ⟨0, 1⟩ [.leaf ⟨"소년", "NNG"⟩ ⟨0, 1⟩],
        .leaf ⟨"이", "JKS"⟩ ⟨1, 2⟩],
      .leaf ⟨"!", "SF"⟩ ⟨2, 3⟩]).phrases (LabelSet.insertAll {} ["Phrase"]) =
    [[.word ⟨"소년", "NNG"⟩, .label "NounPhrase", .word ⟨"이", "JKS"⟩], [.word ⟨"!", "SF"⟩]] := by
  decide

end Tree

end Constituency
