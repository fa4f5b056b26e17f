import Constituency.Proofs.Parser.Derivation
import Constituency.Proofs.Parser.Leading
import Constituency.Proofs.Tree.Children

/-!
# What can stand in a derivation

The terminals and references of a body bound the nodes that it generates: a leaf is accepted by one
of its terminals, a branch has the name of one of its references. So productions that refer to each
other only have derivations in which nothing else occurs.
-/
namespace Constituency

/-! ### The nodes that a body generates -/

namespace Expr

variable {ρ : Type}

mutual

/-- Every terminal in order, repeated as often as it stands there. -/
def terminals : Expr ρ → List Pattern
  | .terminal pattern => [pattern]
  | .ref _ => []
  | .seq items => terminalsAll items
  | .opt body => body.terminals
  | .star body => body.terminals
  | .plus body => body.terminals
  | .longest alternatives => terminalsAll alternatives

def terminalsAll : List (Expr ρ) → List Pattern
  | [] => []
  | item :: rest => item.terminals ++ terminalsAll rest

end

theorem mem_terminalsAll {pattern : Pattern} {items : List (Expr ρ)} :
    pattern ∈ terminalsAll items ↔ ∃ item ∈ items, pattern ∈ item.terminals := by
  induction items with
  | nil => simp [terminalsAll]
  | cons item rest ih => simp [terminalsAll, ih]

theorem anyNullable_of_mem {alternative : Expr ρ} {alternatives : List (Expr ρ)}
    (member : alternative ∈ alternatives) (nullable : alternative.isNullable = true) :
    anyNullable alternatives = true := by
  induction alternatives with
  | nil => contradiction
  | cons first rest ih =>
    rcases List.mem_cons.mp member with rfl | later
    · simp [anyNullable, nullable]
    · simp [anyNullable, ih later]

/-- Whether the references of a body have names, and its terminals accept tokens, of some kind. -/
structure Mentions (named : String → Prop) (kind : Token → Prop) (body : Expr Ref) : Prop where
  references : ∀ target ∈ body.references, named target.name
  terminals : ∀ pattern ∈ body.terminals, ∀ token, pattern.accepts token.tag = true → kind token

namespace Mentions

variable {named : String → Prop} {kind : Token → Prop}

theorem items {item : Expr Ref} {rest : List (Expr Ref)}
    (mentions : Mentions named kind (.seq (item :: rest))) :
    Mentions named kind item ∧ Mentions named kind (.seq rest) := by
  obtain ⟨references, terminals⟩ := mentions
  rw [Expr.references, referencesAll, List.forall_mem_append] at references
  rw [Expr.terminals, terminalsAll, List.forall_mem_append] at terminals
  exact ⟨⟨references.1, terminals.1⟩, ⟨references.2, terminals.2⟩⟩

theorem alternative {alternative : Expr Ref} {alternatives : List (Expr Ref)}
    (mentions : Mentions named kind (.longest alternatives)) (member : alternative ∈ alternatives) :
    Mentions named kind alternative where
  references target inside :=
    mentions.references target (mem_referencesAll.mpr ⟨alternative, member, inside⟩)
  terminals pattern inside :=
    mentions.terminals pattern (mem_terminalsAll.mpr ⟨alternative, member, inside⟩)

end Mentions

end Expr

/-- Whether the root of a tree is a branch of some name, or a leaf of some kind. -/
def Tree.RootIs (named : String → Prop) (kind : Token → Prop) : Tree → Prop
  | .leaf token _ => kind token
  | .branch label _ _ => named label

namespace Generates

variable {body : Expr Ref} {nodes : List Tree}

/-- What a body mentions is what it generates. -/
theorem rootIs {named : String → Prop} {kind : Token → Prop} (generated : Generates body nodes)
    (mentions : body.Mentions named kind) : ∀ node ∈ nodes, node.RootIs named kind := by
  induction generated with
  | @terminal pattern token span accepted =>
    exact List.forall_mem_singleton.mpr
      (mentions.terminals pattern (by simp [Expr.terminals]) token accepted)
  | @ref target span children =>
    exact List.forall_mem_singleton.mpr (mentions.references target (by simp [Expr.references]))
  | noItems | absent | never => simp
  | items _ _ front back =>
    obtain ⟨head, tail⟩ := mentions.items
    exact List.forall_mem_append.mpr ⟨front head, back tail⟩
  | present _ ih => exact ih ⟨mentions.references, mentions.terminals⟩
  | again _ _ front back =>
    exact List.forall_mem_append.mpr
      ⟨front ⟨mentions.references, mentions.terminals⟩, back mentions⟩
  | plus _ _ front back =>
    exact List.forall_mem_append.mpr ⟨front ⟨mentions.references, mentions.terminals⟩,
      back ⟨mentions.references, mentions.terminals⟩⟩
  | longest member _ ih => exact ih (mentions.alternative member)

/-- Only a body that can match without a token generates the empty list. -/
theorem isNullable (generated : Generates body nodes) (empty : nodes = []) :
    body.isNullable = true := by
  induction generated with
  | terminal | ref => contradiction
  | noItems | absent | present | never | again => rfl
  | items _ _ front back =>
    obtain ⟨first, others⟩ := List.append_eq_nil_iff.mp empty
    exact Bool.and_eq_true_iff.mpr ⟨front first, back others⟩
  | plus _ _ front _ => exact front (List.append_eq_nil_iff.mp empty).1
  | longest member _ ih => exact Expr.anyNullable_of_mem member (ih empty)

/-- A sequence of something and a production gives nodes with a branch of that production last. -/
theorem exists_last {front : Expr Ref} {target : Ref}
    (generated : Generates (.seq [front, .ref target]) nodes) :
    ∃ before span children, nodes = before ++ [.branch target.name span children] ∧
      Generates front before := by
  cases generated with
  | items head tail =>
    cases tail with
    | items last nothing =>
      cases last
      cases nothing
      exact ⟨_, _, _, rfl, head⟩

theorem exists_leaf {pattern : Pattern} (generated : Generates (.terminal pattern) nodes) :
    ∃ token span, nodes = [.leaf token span] ∧ pattern.accepts token.tag = true := by
  cases generated with
  | terminal accepted => exact ⟨_, _, rfl, accepted⟩

end Generates

/-! ### Productions that refer to each other only -/

/-- Whether the productions of some names refer to each other only, and to tokens of some kind. -/
def Grammar.Encloses (grammar : Grammar) (names : List String) (kind : Token → Prop) : Prop :=
  ∀ rule ∈ grammar.rules, rule.name ∈ names → rule.body.Mentions (· ∈ names) kind

/-- What is below such a production stays among these names and tokens. -/
theorem Tree.Derived.enclosed {grammar : Grammar} {names : List String} {kind : Token → Prop}
    {tree : Tree} (derived : tree.Derived grammar) (encloses : grammar.Encloses names kind)
    (root : tree.RootIs (· ∈ names) kind) :
    (∀ label ∈ tree.labels, label ∈ names) ∧ ∀ leaf ∈ tree.leaves, kind leaf.1 := by
  induction derived with
  | leaf => exact ⟨by simp, List.forall_mem_singleton.mpr root⟩
  | branch member _ generated _ ih =>
    -- The root decides what its production generates, and so the roots of the children.
    have roots := generated.rootIs (encloses _ member root)
    rw [labels_branch, leaves_branch, List.forall_mem_cons, List.forall_mem_flatMap,
      List.forall_mem_flatMap]
    exact ⟨⟨root, fun child inside => (ih child inside (roots child inside)).1⟩,
      fun child inside => (ih child inside (roots child inside)).2⟩

end Constituency
