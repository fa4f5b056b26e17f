import Constituency.Proofs.Regex.Matches
import Mathlib.Data.List.SplitBy

/-!
# What simplified trees match

Trees are kept simple while they are built: a sequence is flat, alternatives share what they all
begin with, and a part that matches only the empty text is repeated at most once. None of this makes
a match of its own. What a built tree matches, the parts that it was built from match as well.
-/
namespace Constituency.Regex.Node

variable {text : Array Char}

/-! ### Sequences -/

/-- The nodes match one behind the other. -/
inductive MatchAll (text : Array Char) : List Node → Nat → Nat → List (Nat × Nat) → Prop
  | nil {position : Nat} : MatchAll text [] position position []
  | cons {node : Node} {nodes : List Node} {start middle stop : Nat} {saved later : List (Nat × Nat)}
    (first : node.Matches text start middle saved) (others : MatchAll text nodes middle stop later) :
    MatchAll text (node :: nodes) start stop (later ++ saved)

theorem matchAll_singleton {node : Node} {start stop : Nat} {saved : List (Nat × Nat)} :
    MatchAll text [node] start stop saved ↔ node.Matches text start stop saved := by
  constructor
  · intro all
    cases all with
    | cons first others =>
      cases others
      exact first
  · exact fun matched => .cons matched .nil

theorem matchAll_append {front back : List Node} {start stop : Nat} {saved : List (Nat × Nat)} :
    MatchAll text (front ++ back) start stop saved ↔ ∃ middle before after,
      MatchAll text front start middle before ∧ MatchAll text back middle stop after ∧
        saved = after ++ before := by
  constructor
  · intro all
    induction front generalizing start saved with
    | nil => exact ⟨start, [], saved, .nil, all, (List.append_nil saved).symm⟩
    | cons node front ih =>
      cases all with
      | cons first others =>
        obtain ⟨middle, before, after, here, there, rfl⟩ := ih others
        exact ⟨middle, _, after, .cons first here, there, List.append_assoc ..⟩
  · rintro ⟨middle, before, after, here, there, rfl⟩
    induction here with
    | nil => rwa [List.append_nil, List.nil_append]
    | cons first _ ih =>
      rw [← List.append_assoc]
      exact .cons first (ih there)

theorem matches_seqAll {nodes : List Node} {start stop : Nat} {saved : List (Nat × Nat)} :
    (seqAll nodes).Matches text start stop saved ↔ MatchAll text nodes start stop saved := by
  induction nodes generalizing start saved with
  | nil =>
    constructor <;> intro matched <;> cases matched
    · exact .nil
    · exact .empty
  | cons node nodes ih =>
    cases nodes with
    | nil => exact matchAll_singleton.symm
    | cons second nodes =>
      have pair : seqAll (node :: second :: nodes) = .seq node (seqAll (second :: nodes)) := rfl
      rw [pair, matches_seq]
      constructor
      · rintro ⟨middle, before, after, front, back, rfl⟩
        exact .cons front (ih.mp back)
      · intro all
        cases all with
        | cons first others => exact ⟨_, _, _, first, ih.mpr others, rfl⟩

theorem matchAll_items {node : Node} {start stop : Nat} {saved : List (Nat × Nat)} :
    MatchAll text node.items start stop saved ↔ node.Matches text start stop saved := by
  induction node generalizing start stop saved with
  | empty =>
    constructor <;> intro matched <;> cases matched
    · exact .empty
    · exact .nil
  | seq first second ihFirst ihSecond =>
    rw [items, matchAll_append, matches_seq]
    simp only [ihFirst, ihSecond]
  | set | look | alt | rep | group => exact matchAll_singleton

/-- Keeping a sequence flat does not change what it matches. -/
theorem matches_concat {nodes : List Node} {start stop : Nat} {saved : List (Nat × Nat)} :
    (concat nodes).Matches text start stop saved ↔ MatchAll text nodes start stop saved := by
  rw [concat, matches_seqAll]
  induction nodes generalizing start saved with
  | nil => rfl
  | cons node nodes ih =>
    rw [List.flatMap_cons, matchAll_append]
    constructor
    · rintro ⟨middle, before, after, front, back, rfl⟩
      exact .cons (matchAll_items.mp front) (ih.mp back)
    · intro all
      cases all with
      | cons first others => exact ⟨_, _, _, matchAll_items.mpr first, ih.mpr others, rfl⟩

/-! ### Alternatives -/

theorem matches_of_branch {node branch : Node} {start stop : Nat} {saved : List (Nat × Nat)}
    (member : branch ∈ node.branches) (matched : branch.Matches text start stop saved) :
    node.Matches text start stop saved := by
  induction node with
  | alt first second ihFirst ihSecond =>
    rcases List.mem_append.mp member with front | back
    · exact .left (ihFirst front)
    · exact .right (ihSecond back)
  | empty | set | look | seq | rep | group => exact List.mem_singleton.mp member ▸ matched

theorem exists_of_matches_altAll {nodes : List Node} {start stop : Nat} {saved : List (Nat × Nat)}
    (matched : (altAll nodes).Matches text start stop saved) :
    ∃ node ∈ nodes, node.Matches text start stop saved := by
  induction nodes with
  | nil =>
    cases matched with
    | set here member => simp at member
  | cons node nodes ih =>
    cases nodes with
    | nil => exact ⟨node, List.mem_singleton_self node, matched⟩
    | cons second nodes =>
      cases matched with
      | left taken => exact ⟨node, List.mem_cons_self .., taken⟩
      | right taken =>
        obtain ⟨other, member, taken⟩ := ih taken
        exact ⟨other, List.mem_cons_of_mem _ member, taken⟩

theorem exists_set_of_union? {nodes : List Node} {s : CharSet} {c : Char}
    (found : union? nodes = some s) (member : s.contains c = true) :
    ∃ t, .set t ∈ nodes ∧ t.contains c = true := by
  obtain ⟨sets, all, chosen⟩ := Option.bind_eq_some_iff.mp found
  obtain rfl : sets.foldr (fun s t => t.union s) .empty = s := by
    split at chosen
    next => exact Option.some.inj chosen
    next => contradiction
  clear chosen found
  induction nodes generalizing sets with
  | nil =>
    obtain rfl : sets = [] := by simpa using all.symm
    simp at member
  | cons node nodes ih =>
    rw [List.mapM_cons] at all
    obtain ⟨own, here, all⟩ := Option.bind_eq_some_iff.mp all
    obtain ⟨others, later, all⟩ := Option.bind_eq_some_iff.mp all
    obtain rfl := Option.some.inj all
    split at here
    next t =>
      obtain rfl := Option.some.inj here
      rw [List.foldr_cons, CharSet.contains_union, Bool.or_eq_true] at member
      rcases member with inOthers | inFirst
      · obtain ⟨t, among, member⟩ := ih others later inOthers
        exact ⟨t, List.mem_cons_of_mem _ among, member⟩
      · exact ⟨t, List.mem_cons_self .., inFirst⟩
    next => contradiction

/-- Alternatives that are united match what one of them does. -/
theorem exists_of_matches_unite {nodes : List Node} {start stop : Nat} {saved : List (Nat × Nat)}
    (matched : (unite nodes).Matches text start stop saved) :
    ∃ node ∈ nodes, node.Matches text start stop saved := by
  have offered : ∃ branch ∈ nodes.flatMap branches, branch.Matches text start stop saved := by
    unfold unite at matched
    split at matched
    next =>
      cases matched with
      | set here member => simp at member
    next single => exact ⟨_, by simp [single], matched⟩
    next =>
      split at matched
      next s found =>
        cases matched with
        | set here member =>
          obtain ⟨t, among, member⟩ := exists_set_of_union? found member
          exact ⟨_, among, .set here member⟩
      next => exact exists_of_matches_altAll matched
  obtain ⟨branch, member, matched⟩ := offered
  obtain ⟨node, among, member⟩ := List.mem_flatMap.mp member
  exact ⟨node, among, matches_of_branch member matched⟩

theorem take_eq_of_le_sharedLength {α : Type} [DecidableEq α] {xs ys : List α} {count : Nat}
    (shared : count ≤ sharedLength xs ys) : xs.take count = ys.take count := by
  induction xs generalizing ys count with
  | nil =>
    obtain rfl : count = 0 := by simpa [sharedLength] using shared
    rfl
  | cons x xs ih =>
    cases ys with
    | nil =>
      obtain rfl : count = 0 := by simpa [sharedLength] using shared
      rfl
    | cons y ys =>
      rw [sharedLength] at shared
      split at shared
      next same =>
        cases count with
        | zero => rfl
        | succ count => rw [List.take_succ_cons, List.take_succ_cons, same, ih (Nat.le_of_succ_le_succ shared)]
      next =>
        obtain rfl : count = 0 := by omega
        rfl

theorem foldl_min_le {α : Type} {f : α → Nat} {xs : List α} {most : Nat} :
    xs.foldl (fun count x => min count (f x)) most ≤ most ∧
      ∀ x ∈ xs, xs.foldl (fun count x => min count (f x)) most ≤ f x := by
  induction xs generalizing most with
  | nil => exact ⟨Nat.le_refl _, by simp⟩
  | cons x xs ih =>
    obtain ⟨first, others⟩ := @ih (min most (f x))
    rw [List.foldl_cons]
    exact ⟨Nat.le_trans first (Nat.min_le_left ..),
      List.forall_mem_cons.mpr ⟨Nat.le_trans first (Nat.min_le_right ..), others⟩⟩

/-- What is put in front of the others is what each of them begins with. -/
theorem exists_of_splitPrefix? {nodes shared rests : List Node}
    (split : splitPrefix? nodes = some (shared, rests)) : ∀ rest ∈ rests, ∃ node ∈ nodes,
      ∃ last, rest = concat last ∧ shared ++ last = node.items := by
  unfold splitPrefix? at split
  split at split
  next first second others cut =>
    generalize count_eq : (second :: others).foldl
      (fun count list => min count (sharedLength first list)) first.length = count at split
    have common : ∀ list ∈ first :: second :: others, first.take count = list.take count :=
      List.forall_mem_cons.mpr ⟨rfl, fun list member => take_eq_of_le_sharedLength
        (count_eq ▸ foldl_min_le.2 list member)⟩
    dsimp only at split
    split at split
    next =>
      obtain ⟨rfl, rfl⟩ := Prod.mk.inj (Option.some.inj split)
      refine List.forall_mem_map.mpr fun list member => ?_
      have same := common list member
      rw [← cut] at member
      obtain ⟨node, among, rfl⟩ := List.mem_map.mp member
      refine ⟨node, among, _, rfl, ?_⟩
      -- The chunks put together again are the items of the alternative.
      rw [same, ← List.flatten_append, List.take_append_drop, chunks, List.flatten_splitBy]
    next => contradiction
  next => contradiction

/-- So do alternatives that have what they all begin with put in front of them. -/
theorem exists_of_matches_alternation {nodes : List Node} {start stop : Nat}
    {saved : List (Nat × Nat)} (matched : (alternation nodes).Matches text start stop saved) :
    ∃ node ∈ nodes, node.Matches text start stop saved := by
  unfold alternation at matched
  split at matched
  next shared rests split =>
    rw [matches_concat, matchAll_append] at matched
    obtain ⟨middle, before, after, front, back, rfl⟩ := matched
    -- What is left of one alternative matches behind what they share, so the whole of it does.
    obtain ⟨rest, member, back⟩ := exists_of_matches_unite (matchAll_singleton.mp back)
    obtain ⟨branch, among, last, rfl, whole⟩ := exists_of_splitPrefix? split rest member
    have matched : branch.Matches text start stop (after ++ before) := by
      rw [← matchAll_items, ← whole, matchAll_append]
      exact ⟨middle, before, after, front, matches_concat.mp back, rfl⟩
    obtain ⟨node, among, member⟩ := List.mem_flatMap.mp among
    exact ⟨node, among, matches_of_branch member matched⟩
  next => exact exists_of_matches_unite matched

end Constituency.Regex.Node
