import Constituency.Proofs.Parser.Spans
import Constituency.Proofs.Tree.Leaves
import Mathlib.Data.List.Nodup

/-!
# Spans that are computed anew

Computing spans looks at the first and the last child of a branch only. In a tree without empty
branches that is enough: if its leaves stand at the places of some tokens, the result covers these
tokens with exact spans, whatever the spans of its branches were before.
-/
namespace Constituency

variable {tokens : List Token} {start stop : Nat}

/-! ### Leaves at their places -/

theorem length_leavesBetween (within : stop ≤ tokens.length) :
    (leavesBetween tokens start stop).length = stop - start := by
  have there : ∀ position ∈ List.range' start (stop - start),
      (tokens[position]?.map fun token => (token, Span.mk position (position + 1))).isSome := by
    intro position member
    have bounds := List.mem_range'_1.mp member
    have inside : position < tokens.length := by omega
    simp [List.getElem?_eq_getElem inside]
  rw [leavesBetween, List.length_filterMap_eq_countP, List.countP_eq_length.mpr there,
    List.length_range']

theorem mem_leavesBetween {leaf : Token × Span} : leaf ∈ leavesBetween tokens start stop ↔
    ∃ position, start ≤ position ∧ position < stop ∧ tokens[position]? = some leaf.1 ∧
      leaf.2 = ⟨position, position + 1⟩ := by
  obtain ⟨token, span⟩ := leaf
  simp only [leavesBetween, List.mem_filterMap, List.mem_range'_1, Option.map_eq_some_iff,
    Prod.mk.injEq]
  constructor
  · rintro ⟨position, bounds, found, there, rfl, rfl⟩
    exact ⟨position, by omega, by omega, there, rfl⟩
  · rintro ⟨position, first, last, there, rfl⟩
    exact ⟨position, by omega, token, there, rfl, rfl⟩

/-- A leaf tells its position, so none stands there twice. -/
theorem nodup_leavesBetween : (leavesBetween tokens start stop).Nodup := by
  refine List.Nodup.filterMap (fun position other leaf here there => ?_) (List.nodup_range' ..)
  obtain ⟨token, -, rfl⟩ := Option.map_eq_some_iff.mp here
  obtain ⟨again, -, same⟩ := Option.map_eq_some_iff.mp there
  exact (Span.mk.inj (Prod.mk.inj same).2).1.symm

/-- What stands behind the place where the leaves end does not matter. -/
theorem leavesBetween_append_tokens {more : List Token} (within : stop ≤ tokens.length) :
    leavesBetween (tokens ++ more) start stop = leavesBetween tokens start stop := by
  refine List.filterMap_congr fun position member => ?_
  have bounds := List.mem_range'_1.mp member
  rw [List.getElem?_append_left (by omega)]

/-- A sentence without the sentence-final token at its end. -/
def withoutSentenceEnd (tokens : List Token) : List Token :=
  dropFinal Token.isSentenceFinal tokens

theorem getElem?_of_withoutSentenceEnd {position : Nat} {token : Token}
    (there : (withoutSentenceEnd tokens)[position]? = some token) :
    tokens[position]? = some token := by
  have begins : withoutSentenceEnd tokens <+: tokens := by
    rw [withoutSentenceEnd, dropFinal]
    split
    · exact List.dropLast_prefix tokens
    · exact List.prefix_refl tokens
  obtain ⟨bound, rfl⟩ := List.getElem?_eq_some_iff.mp there
  exact List.prefix_iff_getElem?.mp begins position bound

/-- A token that does not end the sentence stays at its place. -/
theorem getElem?_withoutSentenceEnd {position : Nat} {token : Token}
    (there : tokens[position]? = some token) (inner : token.isSentenceFinal = false) :
    (withoutSentenceEnd tokens)[position]? = some token := by
  rcases List.eq_nil_or_concat' tokens with rfl | ⟨front, last, rfl⟩
  · contradiction
  · rw [withoutSentenceEnd, dropFinal_concat]
    split
    next final =>
      rcases List.getElem?_eq_some_iff.mp there with ⟨bound, rfl⟩
      have before : position < front.length := by
        by_contra behind
        have same : position = front.length := by simp at bound; omega
        simp [same, final] at inner
      rw [List.getElem?_eq_getElem before, List.getElem_append_left before]
    next => exact there

theorem dropFinal_leavesBetween (tokens : List Token) :
    dropFinal isFinalLeaf (leavesBetween tokens 0 tokens.length) =
      leavesBetween (withoutSentenceEnd tokens) 0 (withoutSentenceEnd tokens).length := by
  rcases List.eq_nil_or_concat' tokens with rfl | ⟨front, last, rfl⟩
  · rfl
  · have there : (front ++ [last])[front.length]? = some last := by simp
    have leaves : leavesBetween (front ++ [last]) 0 (front ++ [last]).length =
        leavesBetween front 0 front.length ++ [(last, ⟨front.length, front.length + 1⟩)] := by
      rw [List.length_append, List.length_singleton,
        ← leavesBetween_append (Nat.zero_le _) (Nat.le_succ front.length),
        leavesBetween_succ there, leavesBetween_append_tokens (Nat.le_refl _)]
    rw [withoutSentenceEnd, leaves, dropFinal_concat, dropFinal_concat]
    by_cases final : last.isSentenceFinal = true
    · simp [isFinalLeaf, final]
    · rw [if_neg final, if_neg (by simpa [isFinalLeaf] using final), leaves]

namespace Tree

/-! ### Covering -/

theorem CoversAll.coverOr_eq {nodes : List Tree} (covers : CoversAll tokens nodes start stop)
    (some : nodes ≠ []) (span : Span) : coverOr span nodes = ⟨start, stop⟩ := by
  have starts : nodes.head?.map (·.span.start) = .some start := by
    obtain ⟨first, rest, rfl⟩ := List.exists_cons_of_ne_nil some
    obtain ⟨middle, head, -⟩ := covers
    simp [head.span_eq]
  have stops : nodes.getLast?.map (·.span.stop) = .some stop := by
    clear starts
    induction nodes generalizing start with
    | nil => contradiction
    | cons first rest ih =>
      obtain ⟨middle, head, tail⟩ := covers
      cases rest with
      | nil =>
        obtain rfl : stop = middle := tail
        simp [head.span_eq]
      | cons next others => exact ih tail (List.cons_ne_nil next others)
  obtain ⟨first, head, rfl⟩ := Option.map_eq_some_iff.mp starts
  obtain ⟨last, final, rfl⟩ := Option.map_eq_some_iff.mp stops
  rw [coverOr, head, final]

theorem CoversAll.exists_covers {nodes : List Tree} (covers : CoversAll tokens nodes start stop) :
    ∀ node ∈ nodes, ∃ first last, node.Covers tokens first last := by
  induction nodes generalizing start with
  | nil => simp
  | cons node rest ih =>
    obtain ⟨middle, head, tail⟩ := covers
    exact List.forall_mem_cons.mpr ⟨⟨start, middle, head⟩, ih tail⟩

/-- Where a tree covers tokens, each branch of it covers some of them. -/
theorem Covers.covers_of_mem {tree : Tree} (covers : tree.Covers tokens start stop) :
    ∀ branch ∈ tree.branches, ∃ first last, branch.Covers tokens first last := by
  induction tree using Tree.children_induction generalizing start stop with
  | leaf token span => simp
  | branch label span children ih =>
    rw [branches_branch, List.forall_mem_cons]
    refine ⟨⟨start, stop, covers⟩, fun branch member => ?_⟩
    obtain ⟨child, inside, below⟩ := List.mem_flatMap.mp member
    obtain ⟨first, last, covered⟩ := covers.2.2.exists_covers child inside
    exact ih child inside covered branch below

/-- A tree that covers tokens has no branch without children. -/
theorem Covers.filled {tree : Tree} (covers : tree.Covers tokens start stop) : tree.Filled := by
  induction tree using Tree.children_induction generalizing start stop with
  | leaf token span => exact filled_leaf token span
  | branch label span children ih =>
    obtain ⟨some, -, all⟩ := covers
    refine filled_branch.mpr ⟨some, fun child member => ?_⟩
    obtain ⟨first, last, covered⟩ := all.exists_covers child member
    exact ih child member covered

/-- Nodes that cover their own leaves cover the leaves of all of them side by side. -/
theorem coversAll_map_recomputeSpans {nodes : List Tree}
    (each : ∀ node ∈ nodes, ∀ first last, node.leaves = leavesBetween tokens first last →
      first ≤ last → last ≤ tokens.length → node.recomputeSpans.Covers tokens first last)
    (leaves : nodes.flatMap Tree.leaves = leavesBetween tokens start stop) (order : start ≤ stop)
    (within : stop ≤ tokens.length) :
    CoversAll tokens (nodes.map Tree.recomputeSpans) start stop := by
  induction nodes generalizing start with
  | nil =>
    have length := congrArg List.length leaves
    rw [length_leavesBetween within, List.flatMap_nil, List.length_nil] at length
    change stop = start
    omega
  | cons node rest ih =>
    rw [List.flatMap_cons] at leaves
    have length := congrArg List.length leaves
    rw [length_leavesBetween within, List.length_append] at length
    -- The leaves of the first node end where those of the others begin.
    obtain ⟨middle, first, last, width⟩ : ∃ middle, start ≤ middle ∧ middle ≤ stop ∧
        middle - start = node.leaves.length := ⟨start + node.leaves.length, by omega⟩
    have inside := Nat.le_trans last within
    rw [← leavesBetween_append first last] at leaves
    obtain ⟨own, others⟩ := List.append_inj leaves (by rw [length_leavesBetween inside, width])
    obtain ⟨here, later⟩ := List.forall_mem_cons.mp each
    exact ⟨middle, here start middle own first inside, ih later others last⟩

/-- A filled tree over the leaves of some tokens covers them when its spans are computed anew. -/
theorem Filled.covers_recomputeSpans {tree : Tree} (filled : tree.Filled)
    (leaves : tree.leaves = leavesBetween tokens start stop) (order : start ≤ stop)
    (within : stop ≤ tokens.length) : tree.recomputeSpans.Covers tokens start stop := by
  induction tree using Tree.children_induction generalizing start stop with
  | leaf token span =>
    have length := congrArg List.length leaves
    rw [length_leavesBetween within, leaves_leaf, List.length_singleton] at length
    obtain rfl : stop = start + 1 := by omega
    have there := List.getElem?_eq_getElem (l := tokens) (i := start) within
    rw [leavesBetween_succ there, leaves_leaf, List.cons.injEq, Prod.mk.injEq] at leaves
    obtain ⟨⟨rfl, rfl⟩, -⟩ := leaves
    exact ⟨there, rfl, rfl⟩
  | branch label span children ih =>
    obtain ⟨some, below⟩ := filled_branch.mp filled
    rw [leaves_branch] at leaves
    have all : CoversAll tokens (children.map Tree.recomputeSpans) start stop :=
      coversAll_map_recomputeSpans (fun child member first last => ih child member
        (below child member)) leaves order within
    rw [recomputeSpans_branch, all.coverOr_eq (by simpa using some)]
    exact ⟨by simpa using some, rfl, all⟩

/-! ### Exact branches -/

/--
Whether a branch reaches from the start of its first leaf to the end of its last one, and its
children lie side by side.
-/
def Exact (branch : Tree) : Prop :=
  branch.leaves.head?.map (·.2.start) = some branch.span.start ∧
    branch.leaves.getLast?.map (·.2.stop) = some branch.span.stop ∧
    branch.children.IsChain fun left right => left.span.stop = right.span.start

theorem Covers.exact {tree : Tree} (covers : tree.Covers tokens start stop) : tree.Exact := by
  cases tree with
  | leaf token span => simp [Exact, Tree.span, Tree.children]
  | branch label span children =>
    obtain ⟨first, last, chain, -⟩ := covers.tight
    rw [leavesAll_eq, ← leaves_branch label span] at first last
    exact ⟨first, last, chain⟩

/-- The branches of a tree that is not filled at the root are exact where it has children. -/
theorem exact_of_mem_recomputeSpans {tree branch : Tree} (filled : tree.FilledBelow)
    (leaves : tree.leaves = leavesBetween tokens 0 tokens.length)
    (member : branch ∈ tree.recomputeSpans.branches) (some : branch.children ≠ []) :
    branch.Exact := by
  cases tree with
  | leaf token span => contradiction
  | branch label span children =>
    rcases eq_or_ne children [] with rfl | nonempty
    · -- The root is the only branch, and it has no children.
      obtain rfl : branch = .branch label span [] := by simpa [coverOr] using member
      contradiction
    · have whole : (Tree.branch label span children).Filled := filled_branch.mpr ⟨nonempty, filled⟩
      have covers := whole.covers_recomputeSpans leaves (Nat.zero_le _) (Nat.le_refl _)
      obtain ⟨first, last, covered⟩ := covers.covers_of_mem branch member
      exact covered.exact

end Tree

end Constituency
