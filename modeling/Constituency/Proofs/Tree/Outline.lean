import Constituency.Proofs.Text.Lines
import Constituency.Proofs.Tree.Children
import Constituency.Text.Natural
import Mathlib.Data.List.Basic

/-!
# The outline with a depth

The outline of a branch is made from the outlines of its children: each is cut into lines, and the
lines are moved two places to the right. Here the outline is written in one go, with the depth at
which a node stands. Both give the same text. A line feed of the direct form only stands in front
of a child, so moving the lines of a text and writing it one level deeper is the same, however
deeply an only child, which stays on its line, and children below each other are nested.
-/
namespace Constituency

/-! ### Moving lines -/

namespace Text

/-- Moves all lines but the first one two places to the right. -/
def indent (text : List Char) : List Char :=
  text.flatMap fun c => if c = '\n' then ['\n', ' ', ' '] else [c]

@[simp] theorem indent_nil : indent [] = [] := rfl

@[simp] theorem indent_append (front back : List Char) :
    indent (front ++ back) = indent front ++ indent back := List.flatMap_append

@[simp] theorem indent_lineFeed (rest : List Char) :
    indent ('\n' :: rest) = '\n' :: ' ' :: ' ' :: indent rest := rfl

theorem indent_cons_of_ne {c : Char} (other : c ≠ '\n') (rest : List Char) :
    indent (c :: rest) = c :: indent rest := by
  simp [indent, other]

theorem indent_of_not_mem {text : List Char} (inner : '\n' ∉ text) : indent text = text := by
  induction text with
  | nil => rfl
  | cons c rest ih =>
    obtain ⟨other, inner⟩ := List.ne_and_not_mem_of_not_mem_cons inner
    rw [indent_cons_of_ne other.symm, ih inner]

/-- A text that is the lines it is cut into, glued with line feeds. -/
structure IsBlock (text : List Char) : Prop where
  filled : text ≠ []
  noReturn : '\r' ∉ text
  ended : text.getLast? ≠ some '\n'

theorem IsBlock.close {text : List Char} (noReturn : '\r' ∉ text) : IsBlock (text ++ [')']) where
  filled := by simp
  noReturn := by simpa using noReturn
  ended := by simp

theorem IsBlock.of_cons {c : Char} {rest : List Char} (block : IsBlock (c :: rest))
    (more : rest ≠ []) : IsBlock rest where
  filled := more
  noReturn := fun inside => block.noReturn (List.mem_cons_of_mem c inside)
  ended := by
    have ended := block.ended
    rwa [List.getLast?_cons_of_ne_nil more] at ended

/-- The lines of a block, each on a new line and two places further right. -/
theorem flatMap_lines_of_isBlock {text : List Char} (block : IsBlock text) :
    (lines text).flatMap (fun line => '\n' :: ' ' :: ' ' :: line) =
      '\n' :: ' ' :: ' ' :: indent text := by
  induction text with
  | nil => exact absurd rfl block.filled
  | cons c rest ih =>
    by_cases empty : rest = []
    · subst empty
      have other : c ≠ '\n' := fun same => block.ended (by simp [same])
      rw [lines_of_not_mem (by simp) (by simpa using other.symm), indent_cons_of_ne other]
      rfl
    · have below := ih (block.of_cons empty)
      by_cases feed : c = '\n'
      · -- An empty line, with the other lines behind it.
        subst feed
        have cut : lines ('\n' :: rest) = [] :: lines rest := by simp [lines]
        rw [cut, List.flatMap_cons, below, indent_lineFeed]
        rfl
      · -- The first line gets one character more.
        have noReturn : c = '\r' → rest.head? ≠ some '\n' := fun same =>
          absurd (List.mem_cons.mpr (.inl same.symm)) block.noReturn
        rw [lines_cons_of_ne feed noReturn, indent_cons_of_ne feed]
        cases cut : lines rest with
        | nil => simp [cut] at below
        | cons first others =>
          rw [cut, List.flatMap_cons] at below
          have tail : first ++ others.flatMap (fun line => '\n' :: ' ' :: ' ' :: line) =
              indent rest := by simpa using below
          simp only [List.flatMap_cons, List.cons_append, tail]

end Text

namespace Tree

open Text

/-! ### The direct form -/

/-- The blanks in front of a node at some depth. -/
def indentation (depth : Nat) : String := String.ofList (List.replicate (2 * depth) ' ')

mutual

/--
The outline of a node at some depth. An only child stays on the line of its parent and at its
depth; any other number of children stand below it, each one level deeper.
-/
def outlineAt (depth : Nat) : Tree → String
  | .leaf token span =>
    toString span.start ++ ".." ++ toString span.stop ++ ": " ++ token.word ++ ":" ++ token.tag
  | .branch label span [child] =>
    "(" ++ toString span.start ++ ".." ++ toString span.stop ++ ": " ++ label ++
      " (" ++ outlineAt depth child ++ "))"
  | .branch label span children =>
    "(" ++ toString span.start ++ ".." ++ toString span.stop ++ ": " ++ label ++
      outlineBelowAt depth children ++ ")"

/-- The outlines of the children of a node at some depth, each on a line of its own. -/
def outlineBelowAt (depth : Nat) : List Tree → String
  | [] => ""
  | child :: rest =>
    "\n" ++ indentation (depth + 1) ++ outlineAt (depth + 1) child ++ outlineBelowAt depth rest

end

/-! ### Its characters -/

section Characters

variable {depth : Nat} {label : String} {span : Span} {child : Tree} {children : List Tree}

theorem toList_outlineAt_leaf (depth : Nat) (token : Token) (span : Span) :
    (outlineAt depth (.leaf token span)).toList = (heading span token.display).toList := by
  simp [outlineAt, heading, Span.display, Token.display]

theorem toList_outlineAt_only : (outlineAt depth (.branch label span [child])).toList =
    '(' :: (heading span label).toList ++ [' ', '('] ++ (child.outlineAt depth).toList ++ [')'] ++
      [')'] := by
  simp [outlineAt, heading, Span.display]

theorem toList_outlineBelowAt : (outlineBelowAt depth children).toList =
    children.flatMap fun child =>
      '\n' :: List.replicate (2 * (depth + 1)) ' ' ++ (child.outlineAt (depth + 1)).toList := by
  induction children with
  | nil => rfl
  | cons child rest ih => simp [outlineBelowAt, indentation, ih]

theorem toList_outlineAt_branch (several : children.length ≠ 1) :
    (outlineAt depth (.branch label span children)).toList =
      '(' :: (heading span label).toList ++ (outlineBelowAt depth children).toList ++ [')'] := by
  rw [outlineAt]
  · simp [heading, Span.display]
  · rintro child rfl
    exact several rfl

theorem outlineBelow_eq (children : List Tree) : outlineBelow children = children.flatMap
    fun child => (lines child.outline).flatMap fun line => '\n' :: ' ' :: ' ' :: line := by
  induction children with
  | nil => rfl
  | cons child rest ih => rw [outlineBelow, ih, List.flatMap_cons]

theorem outline_branch (several : children.length ≠ 1) :
    (Tree.branch label span children).outline =
      '(' :: (heading span label).toList ++ outlineBelow children ++ [')'] := by
  rw [outline]
  rintro child rfl
  exact several rfl

end Characters

/-! ### Plain trees -/

/-- Whether a text holds no line feed and no carriage return. -/
def IsOneLine (text : String) : Prop := '\n' ∉ text.toList ∧ '\r' ∉ text.toList

/-- Whether each label, word and tag of a tree stands on one line. -/
structure IsPlain (tree : Tree) : Prop where
  labels : ∀ label ∈ tree.labels, IsOneLine label
  tokens : ∀ leaf ∈ tree.leaves, IsOneLine leaf.1.word ∧ IsOneLine leaf.1.tag

instance (text : String) : Decidable (IsOneLine text) := inferInstanceAs (Decidable (_ ∧ _))

theorem isOneLine_toString (n : Nat) : IsOneLine (toString n) := by
  have digits : (toString n).toList = Nat.toDigits 10 n := String.toList_ofList
  rw [IsOneLine, digits]
  exact ⟨fun inside => absurd (isDigit_of_mem_toDigits inside) (by decide),
    fun inside => absurd (isDigit_of_mem_toDigits inside) (by decide)⟩

theorem IsOneLine.append {front back : String} (first : IsOneLine front) (second : IsOneLine back) :
    IsOneLine (front ++ back) := by
  simp only [IsOneLine, String.toList_append, List.mem_append, not_or]
  exact ⟨⟨first.1, second.1⟩, first.2, second.2⟩

theorem IsOneLine.heading {text : String} (plain : IsOneLine text) (span : Span) :
    IsOneLine (heading span text) :=
  ((((isOneLine_toString _).append (by decide)).append (isOneLine_toString _)).append
    (by decide)).append plain

theorem IsPlain.child {label : String} {span : Span} {children : List Tree} {child : Tree}
    (plain : (Tree.branch label span children).IsPlain) (member : child ∈ children) :
    child.IsPlain where
  labels := fun inner below => plain.labels inner <| by
    rw [labels_branch]
    exact List.mem_cons_of_mem _ (List.mem_flatMap.mpr ⟨child, member, below⟩)
  tokens := fun leaf below => plain.tokens leaf <| by
    rw [leaves_branch]
    exact List.mem_flatMap.mpr ⟨child, member, below⟩

theorem IsPlain.isOneLine_label {label : String} {span : Span} {children : List Tree}
    (plain : (Tree.branch label span children).IsPlain) : IsOneLine label :=
  plain.labels label <| by
    rw [labels_branch]
    exact List.mem_cons_self ..

theorem IsPlain.isOneLine_display {token : Token} {span : Span}
    (plain : (Tree.leaf token span).IsPlain) : IsOneLine token.display := by
  obtain ⟨word, tag⟩ := plain.tokens (token, span) (List.mem_singleton_self _)
  exact (word.append (by decide)).append tag

/-! ### One level deeper -/

/-- To move the lines of a direct form is to write it one level deeper. -/
theorem indent_outlineAt {tree : Tree} (plain : tree.IsPlain) (depth : Nat) :
    indent (tree.outlineAt depth).toList = (tree.outlineAt (depth + 1)).toList := by
  induction tree using Tree.children_induction generalizing depth with
  | leaf token span =>
    rw [toList_outlineAt_leaf, toList_outlineAt_leaf]
    exact indent_of_not_mem (plain.isOneLine_display.heading span).1
  | branch label span children ih =>
    have title : indent (heading span label).toList = (heading span label).toList :=
      indent_of_not_mem (plain.isOneLine_label.heading span).1
    by_cases only : children.length = 1
    · obtain ⟨child, rfl⟩ := List.length_eq_one_iff.mp only
      have same := ih child (List.mem_singleton_self child)
        (plain.child (List.mem_singleton_self child)) depth
      simp [toList_outlineAt_only, indent_cons_of_ne, title, same]
    · -- The line feed in front of a child is what the two blanks are put behind.
      have below : indent (outlineBelowAt depth children).toList =
          (outlineBelowAt (depth + 1) children).toList := by
        rw [toList_outlineBelowAt, toList_outlineBelowAt, indent, List.flatMap_assoc]
        refine List.flatMap_congr fun child member => ?_
        show indent _ = _
        have blanks : '\n' ∉ List.replicate (2 * (depth + 1)) ' ' := by simp
        rw [List.cons_append, indent_lineFeed, indent_append, indent_of_not_mem blanks,
          ih child member (plain.child member)]
        rfl
      simp [toList_outlineAt_branch only, indent_cons_of_ne, title, below]

/-- A direct form can be told by its lines. -/
theorem isBlock_outlineAt {tree : Tree} (plain : tree.IsPlain) (depth : Nat) :
    IsBlock (tree.outlineAt depth).toList := by
  induction tree using Tree.children_induction generalizing depth with
  | leaf token span =>
    rw [toList_outlineAt_leaf]
    have oneLine := plain.isOneLine_display.heading span
    refine ⟨?_, oneLine.2, fun last => oneLine.1 (List.mem_of_mem_getLast? last)⟩
    simp [heading]
  | branch label span children ih =>
    have title := (plain.isOneLine_label.heading span).2
    by_cases only : children.length = 1
    · obtain ⟨child, rfl⟩ := List.length_eq_one_iff.mp only
      have inner := (ih child (List.mem_singleton_self child)
        (plain.child (List.mem_singleton_self child)) depth).noReturn
      rw [toList_outlineAt_only]
      exact .close (by simp [title, inner])
    · have inner : '\r' ∉ (outlineBelowAt depth children).toList := by
        rw [toList_outlineBelowAt]
        intro inside
        obtain ⟨child, member, inside⟩ := List.mem_flatMap.mp inside
        have := (ih child member (plain.child member) (depth + 1)).noReturn
        simp [this] at inside
      rw [toList_outlineAt_branch only]
      exact .close (by simp [title, inner])

/-- Cutting the outlines of the children into lines comes to the direct form. -/
theorem outline_eq {tree : Tree} (plain : tree.IsPlain) :
    tree.outline = (tree.outlineAt 0).toList := by
  induction tree using Tree.children_induction with
  | leaf token span => rw [toList_outlineAt_leaf, outline]
  | branch label span children ih =>
    by_cases only : children.length = 1
    · obtain ⟨child, rfl⟩ := List.length_eq_one_iff.mp only
      have same := ih child (List.mem_singleton_self child)
        (plain.child (List.mem_singleton_self child))
      simp [toList_outlineAt_only, outline, same]
    · have below : outlineBelow children = (outlineBelowAt 0 children).toList := by
        rw [outlineBelow_eq, toList_outlineBelowAt]
        refine List.flatMap_congr fun child member => ?_
        have inside := plain.child member
        rw [ih child member inside, flatMap_lines_of_isBlock (isBlock_outlineAt inside 0),
          indent_outlineAt inside]
        rfl
      rw [toList_outlineAt_branch only, outline_branch only, below]

/--
The outline of a tree is its direct form at depth zero, if no line is broken inside a label, a word
or a tag.
-/
theorem display_eq_outlineAt {tree : Tree} (plain : tree.IsPlain) :
    tree.display = tree.outlineAt 0 := by
  rw [display, outline_eq plain, String.ofList_toList]

/-- An only child with two children, one level below the root. -/
def nestedMeal : Tree :=
  .branch "Sentence" ⟨0, 3⟩ [.branch "NounPhrase" ⟨0, 1⟩ [.leaf ⟨"밥", "NNG"⟩ ⟨0, 1⟩],
    .branch "Predicate" ⟨1, 3⟩ [.branch "VerbPhrase" ⟨1, 3⟩ [.leaf ⟨"먹", "VV"⟩ ⟨1, 2⟩,
      .leaf ⟨"다", "EF"⟩ ⟨2, 3⟩]]]

theorem display_eq_outlineAt_nestedMeal : nestedMeal.IsPlain ∧
    nestedMeal.display = nestedMeal.outlineAt 0 ∧
    nestedMeal.outlineAt 0 = "(0..3: Sentence\n  (0..1: NounPhrase (0..1: 밥:NNG))\n" ++
      "  (1..3: Predicate ((1..3: VerbPhrase\n    1..2: 먹:VV\n    2..3: 다:EF))))" :=
  have plain : nestedMeal.IsPlain := ⟨by decide, by decide⟩
  ⟨plain, display_eq_outlineAt plain, by decide⟩

end Tree

end Constituency
