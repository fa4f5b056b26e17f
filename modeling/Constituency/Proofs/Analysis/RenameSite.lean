import Constituency.Proofs.Parser.Generation
import Constituency.Proofs.Regex.Prefix
import Constituency.Proofs.TagTable.Minted
import Constituency.Proofs.Tree.Renaming

/-!
# Renames that take effect

Whether each rename of a table takes effect can be read off the rules and the grammar: all renames
ask for one production, their tags begin with a mark that just one production accepts, the suffix,
and the suffix stands at the end of the renamed phrases and nowhere else. What stands in front of it
there leads neither to the suffix nor to another phrase.
-/
namespace Constituency

/-- The place of a grammar at which renames take effect. -/
structure RenameSite where
  /-- The production whose branches are renamed. -/
  phrase : String
  /-- The production of the tokens that may ask for it. -/
  suffix : String
  /-- The productions that occur in a phrase in front of the suffix. -/
  inside : List String
  /-- The labels that are asked for. -/
  titles : List String
  /-- What the tags of the tokens that may ask begin with. -/
  mark : List Char

namespace RenameSite

/-- Whether a body is something of the productions inside, and the suffix behind it. -/
def closes (site : RenameSite) : Expr Ref → Bool
  | .seq [front, .ref last] => last.name = site.suffix && !front.isNullable &&
      front.terminals.isEmpty && front.references.all fun target => target.name ∈ site.inside
  | _ => false

/-- Whether a body is a terminal that refuses the tag of a sentence end. -/
def isSuffix : Expr Ref → Bool
  | .terminal pattern => pattern.excludes sentenceFinalTag.toList
  | _ => false

/-- Whether a body refers neither to the suffix nor to its tokens, and stays inside if need be. -/
def avoids (site : RenameSite) (inner : Bool) (body : Expr Ref) : Bool :=
  (body.terminals.all fun pattern => pattern.excludes site.mark) &&
    body.references.all fun target =>
      target.name ≠ site.suffix && (!inner || target.name ∈ site.inside)

/-- Whether a production keeps to what the site is meant for. -/
def admits (site : RenameSite) (rule : Rule Ref) : Bool :=
  rule.name ∉ site.titles &&
    if rule.name = site.suffix then isSuffix rule.body
    else if rule.name = site.phrase then site.closes rule.body
    else site.avoids (rule.name ∈ site.inside) rule.body

/-- The labels that tell phrases from other branches. -/
def special (site : RenameSite) : List String := site.phrase :: site.titles

/-- Whether a grammar and a table serve their renames at the site. -/
structure Serves (site : RenameSite) (grammar : Grammar) (table : TagTable) : Prop where
  admitted : ∀ rule ∈ grammar.rules, site.admits rule = true
  outside : ∀ name ∈ site.suffix :: site.special, name ∉ site.inside
  distinct : (site.suffix :: site.special).Nodup
  start : grammar.startRule.name ≠ site.suffix
  kept : grammar.flatten.contains site.phrase = false
  renames : ∀ rule ∈ table.rules, ∀ rename, rule.rename = some rename →
    rename.old = site.phrase ∧ rename.new ∈ site.titles ∧ site.mark <+: rule.base.toList ++ ['#']

/-- Whether a tag cannot ask for a rename, because it begins otherwise. -/
def Unmarked (site : RenameSite) (token : Token) : Prop := ¬ site.mark <+: token.tag.toList

namespace Serves

variable {site : RenameSite} {grammar : Grammar} {table : TagTable} {rule : Rule Ref}

/-! ### Productions -/

theorem not_mem_titles (serves : site.Serves grammar table) (member : rule ∈ grammar.rules) :
    rule.name ∉ site.titles := by
  have admitted := serves.admitted rule member
  simp only [admits, Bool.and_eq_true, decide_eq_true_eq] at admitted
  exact admitted.1

/-- The body of the suffix is a terminal that refuses the end of a sentence. -/
theorem exists_pattern (serves : site.Serves grammar table) (member : rule ∈ grammar.rules)
    (own : rule.name = site.suffix) : ∃ pattern, rule.body = .terminal pattern ∧
      pattern.excludes sentenceFinalTag.toList = true := by
  have admitted := serves.admitted rule member
  simp only [admits, own, if_true, Bool.and_eq_true] at admitted
  obtain ⟨-, suffix⟩ := admitted
  unfold isSuffix at suffix
  split at suffix
  next pattern body => exact ⟨pattern, body, suffix⟩
  next => contradiction

/-- The body of a phrase is something of the productions inside, and the suffix behind it. -/
theorem exists_front (serves : site.Serves grammar table) (member : rule ∈ grammar.rules)
    (own : rule.name = site.phrase) : ∃ front last, rule.body = .seq [front, .ref last] ∧
      last.name = site.suffix ∧ front.isNullable = false ∧
      front.Mentions (· ∈ site.inside) site.Unmarked := by
  have admitted := serves.admitted rule member
  have other : ¬ site.phrase = site.suffix := fun same =>
    (List.nodup_cons.mp serves.distinct).1 (same ▸ List.mem_cons_self ..)
  simp only [admits, own, if_neg other, if_true, Bool.and_eq_true] at admitted
  obtain ⟨-, closes⟩ := admitted
  unfold RenameSite.closes at closes
  split at closes
  next front last body =>
    simp only [Bool.and_eq_true, decide_eq_true_eq, Bool.not_eq_true', List.isEmpty_iff,
      List.all_eq_true] at closes
    obtain ⟨⟨⟨suffix, some⟩, none⟩, references⟩ := closes
    exact ⟨front, last, body, suffix, some, references, by simp [none]⟩
  next => contradiction

/-- The other productions have nothing to do with the suffix. -/
theorem mentions (serves : site.Serves grammar table) (member : rule ∈ grammar.rules)
    (suffix : rule.name ≠ site.suffix) (phrase : rule.name ≠ site.phrase) :
    rule.body.Mentions (fun name => name ≠ site.suffix ∧ (rule.name ∈ site.inside →
      name ∈ site.inside)) site.Unmarked := by
  have admitted := serves.admitted rule member
  simp only [admits, if_neg suffix, if_neg phrase, avoids, Bool.and_eq_true, List.all_eq_true,
    Bool.or_eq_true, decide_eq_true_eq, Bool.not_eq_true', decide_eq_false_iff_not] at admitted
  obtain ⟨-, terminals, references⟩ := admitted
  refine ⟨fun target inside => ?_, fun pattern inside token => ?_⟩
  · obtain ⟨other, stays⟩ := references target inside
    exact ⟨other, fun inner => stays.resolve_left (not_not.mpr inner)⟩
  · exact Pattern.not_prefix_of_accepts (terminals pattern inside)

theorem encloses (serves : site.Serves grammar table) :
    grammar.Encloses site.inside site.Unmarked := by
  intro rule member own
  have suffix : rule.name ≠ site.suffix := fun same =>
    serves.outside site.suffix (List.mem_cons_self ..) (same ▸ own)
  have phrase : rule.name ≠ site.phrase := fun same =>
    serves.outside site.phrase (by simp [special]) (same ▸ own)
  obtain ⟨references, terminals⟩ := serves.mentions member suffix phrase
  exact ⟨fun target inside => (references target inside).2 own, terminals⟩

/-! ### Parse trees -/

section ParseTrees

variable {renameFor : String → Option Rename} {tree : Tree}

/-- A branch of the suffix is one token, which does not end the sentence. -/
theorem exists_leaf (serves : site.Serves grammar table) {span : Span} {children : List Tree}
    (derived : (Tree.branch site.suffix span children).Derived grammar) :
    ∃ token place, children = [.leaf token place] ∧ token.isSentenceFinal = false := by
  generalize node : Tree.branch site.suffix span children = tree at derived
  cases derived with
  | leaf => contradiction
  | branch member _ generated _ =>
    obtain ⟨own, rfl, rfl⟩ := Tree.branch.inj node
    obtain ⟨pattern, body, refuses⟩ := serves.exists_pattern member own.symm
    rw [body] at generated
    obtain ⟨token, place, rfl, accepted⟩ := generated.exists_leaf
    refine ⟨token, place, rfl, ?_⟩
    have other := Pattern.not_prefix_of_accepts refuses accepted
    simp only [Token.isSentenceFinal, beq_eq_false_iff_ne, ne_eq]
    rintro same
    exact other (same ▸ List.prefix_refl _)

/-- The children of a phrase end with a token of the suffix, and nothing special is among them. -/
theorem endWith (serves : site.Serves grammar table) {rule : Rule Ref} {children : List Tree}
    (member : rule ∈ grammar.rules) (own : rule.name = site.phrase)
    (generated : Generates rule.body children)
    (derived : ∀ child ∈ children, child.Derived grammar)
    (silent : ∀ leaf ∈ children.flatMap Tree.leaves, site.Unmarked leaf.1 →
      renameFor leaf.1.tag = none) :
    ∃ token,
      Tree.EndWith (fun token => renameFor token.tag = none) site.special token children := by
  obtain ⟨front, last, body, suffix, some, mentions⟩ := serves.exists_front member own
  rw [body] at generated
  obtain ⟨before, span, below, rfl, first⟩ := generated.exists_last
  rw [suffix] at derived silent ⊢
  obtain ⟨derivedBefore, derivedLast⟩ := List.forall_mem_append.mp derived
  obtain ⟨token, place, rfl, inner⟩ :=
    serves.exists_leaf (derivedLast _ (List.mem_singleton_self _))
  have nonempty : before ≠ [] := fun empty => by simp [first.isNullable empty] at some
  have several : 2 ≤ (before ++ [Tree.branch site.suffix span [.leaf token place]]).length := by
    rw [List.length_append]
    exact Nat.succ_le_succ (List.length_pos_iff.mpr nonempty)
  -- In front of the suffix there are only productions inside, none of which is special.
  have enclosed : ∀ node ∈ before, (∀ label ∈ node.labels, label ∈ site.inside) ∧
      ∀ leaf ∈ node.leaves, site.Unmarked leaf.1 := fun node inside =>
    (derivedBefore node inside).enclosed serves.encloses (first.rootIs mentions node inside)
  refine ⟨token, {
    several := several
    plain := fun label named listed => ?_
    leaves := ⟨before.flatMap Tree.leaves, place, by simp, fun leaf inside => ?_⟩
    inner := inner }⟩
  · rw [List.flatMap_append, List.mem_append] at named
    rcases named with before | last
    · obtain ⟨node, inside, named⟩ := List.mem_flatMap.mp before
      have enclosed := (enclosed node inside).1 label named
      exact serves.outside label (List.mem_cons_of_mem _ listed) enclosed
    · obtain rfl : label = site.suffix := by simpa using last
      exact (List.nodup_cons.mp serves.distinct).1 listed
  · obtain ⟨node, inside', part⟩ := List.mem_flatMap.mp inside
    exact silent leaf (by simp [inside]) ((enclosed node inside').2 leaf part)

/-- In a parse tree the leaves that may ask are the ones at the ends of phrases. -/
theorem phrased (serves : site.Serves grammar table) (derived : tree.Derived grammar)
    (root : tree.RootIs (· ≠ site.suffix) site.Unmarked)
    (silent : ∀ leaf ∈ tree.leaves, site.Unmarked leaf.1 → renameFor leaf.1.tag = none) :
    tree.Phrased (fun token => renameFor token.tag = none) site.special fun _ => site.phrase := by
  -- Branches of the suffix are met below phrases only, where the induction does not go.
  induction derived with
  | leaf => exact .leaf (silent _ (List.mem_singleton_self _) root)
  | @branch rule span children member some generated below ih =>
    rw [Tree.leaves_branch] at silent
    by_cases phrase : rule.name = site.phrase
    · obtain ⟨token, ends⟩ := serves.endWith member phrase generated below silent
      rw [phrase]
      exact .phrase ends
    · obtain ⟨references, terminals⟩ := serves.mentions member root phrase
      have roots : ∀ child ∈ children, child.RootIs (· ≠ site.suffix) site.Unmarked :=
        generated.rootIs ⟨fun target inside => (references target inside).1, terminals⟩
      have plain : rule.name ∉ site.special := by
        simp [special, phrase, serves.not_mem_titles member]
      refine .branch plain fun child inside => ?_
      exact ih child inside (roots child inside)
        fun leaf part => silent leaf (List.mem_flatMap.mpr ⟨child, inside, part⟩)

end ParseTrees

end Serves

end RenameSite

end Constituency
