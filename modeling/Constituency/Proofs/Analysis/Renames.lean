import Constituency.Proofs.Analysis.Conservation
import Constituency.Proofs.Analysis.RenameSite

/-!
# Renames of an analysis

Where a grammar serves the renames of a table at one site, the renamed branches of an analysis are
the renames of its tokens, one by one: each token that asks for a label gets one branch with that
label that ends with it, and no other branch has such a label.
-/
namespace Constituency

variable {site : RenameSite} {grammar : Grammar} {table : TagTable} {tag : String}

namespace RenameSite.Serves

/-! ### What tags ask for -/

theorem asked (serves : site.Serves grammar table) {rename : Rename}
    (found : table.renameFor tag = some rename) :
    rename.old = site.phrase ∧ rename.new ∈ site.titles := by
  obtain ⟨rule, member, own⟩ := TagTable.exists_rule_of_renameFor found
  obtain ⟨old, new, -⟩ := serves.renames rule member rename own
  exact ⟨old, new⟩

/-- A tag that asks for a rename begins with the mark. -/
theorem silent (serves : site.Serves grammar table) (accounts : table.Accounts tag)
    (unmarked : ¬ site.mark <+: tag.toList) : table.renameFor tag = none := by
  refine Option.eq_none_iff_forall_ne_some.mpr fun rename found => unmarked ?_
  obtain ⟨rule, member, ordinal, occurrence, own, rfl⟩ := accounts.exists_rule found
  obtain ⟨-, -, mark⟩ := serves.renames rule member rename own
  rw [SyntheticTag.toList_display, List.append_cons]
  exact mark.trans (List.prefix_append ..)

end RenameSite.Serves

/-- A token that asks for a rename bears a synthetic tag, and so does not end the sentence. -/
theorem TagTable.Accounts.inner {token : Token} {rename : Rename}
    (accounts : table.Accounts token.tag) (found : table.renameFor token.tag = some rename) :
    token.isSentenceFinal = false := by
  obtain ⟨rule, -, ordinal, occurrence, -, tag⟩ := accounts.exists_rule found
  have sign : '#' ∈ token.tag.toList := by simp [tag, SyntheticTag.toList_display]
  simp only [Token.isSentenceFinal, beq_eq_false_iff_ne, ne_eq]
  rintro same
  rw [same] at sign
  exact absurd sign (by decide)

namespace Analyzer

variable {analyzer : Analyzer} {tokens : List Token} {options : AnalyzeOptions}
  {analysis : Analysis} (serves : site.Serves analyzer.grammar analyzer.table)
  (accounts : ∀ token ∈ analysis.mapped, analyzer.table.Accounts token.tag)
  (done : analyzer.analyze tokens options = .ok analysis)
include serves accounts done

/-- The phrases with new labels are the requests of the leaves, and all requests are served. -/
theorem titles_eq_requests :
    (∃ parsed, analyzer.grammar.parse analysis.mapped options.parse = .ok parsed ∧
      ((parsed.dropSentenceEnd.flattenLabels analyzer.grammar.flatten).serveAll
        analyzer.table.renameFor).2 = []) ∧
    analysis.tree.branches.filterMap (Tree.title? site.titles) =
      analysis.tree.leaves.filterMap (Tree.request? analyzer.table.renameFor) := by
  obtain ⟨parsed, parse, rfl⟩ := analyze_eq_ok_iff.mp done
  obtain ⟨derived, -⟩ := Grammar.derived_of_parse parse
  have covers := Grammar.covers_of_parse parse
  have root : parsed.RootIs (· ≠ site.suffix) site.Unmarked := by
    obtain ⟨span, children, rfl⟩ := Grammar.exists_branch_of_parse parse
    exact serves.start
  have phrased : parsed.Phrased (fun token => analyzer.table.renameFor token.tag = none)
      site.special fun _ => site.phrase := by
    refine serves.phrased derived root fun leaf member unmarked => ?_
    rw [covers.leaves_eq] at member
    obtain ⟨position, -, -, there, -⟩ := mem_leavesBetween.mp member
    exact serves.silent (accounts leaf.1 (List.mem_of_getElem? there)) unmarked
  obtain ⟨apart, -⟩ := List.nodup_cons.mp (List.nodup_cons.mp serves.distinct).2
  obtain ⟨titled, nothing⟩ := phrased.normalize covers.filled.below
    (fun tag rename found => (serves.asked found).1) (List.mem_cons_self ..) serves.kept
    options.fullDetail
  refine ⟨⟨parsed, parse, nothing⟩, ?_⟩
  exact titled.titles_eq_requests (fun label => List.mem_cons_of_mem _) apart
    fun tag rename found => (serves.asked found).2

/-- A branch with a new label ends with a token that asks for it. -/
theorem exists_token_of_title {branch : Tree} {label : String}
    (member : branch ∈ analysis.tree.branches) (own : branch.label? = some label)
    (listed : label ∈ site.titles) :
    ∃ index token, analysis.mapped[index]? = some token ∧ branch.span.stop = index + 1 ∧
      branch.leaves.getLast? = some (token, ⟨index, index + 1⟩) ∧
      analyzer.table.renameFor token.tag = some ⟨site.phrase, label⟩ := by
  obtain ⟨-, titles⟩ := titles_eq_requests serves accounts done
  obtain ⟨parsed, parse, rfl⟩ := analyze_eq_ok_iff.mp done
  have titled : Tree.title? site.titles branch = some (label, branch.leaves.getLast?) :=
    Tree.title?_eq_some_iff.mpr ⟨own, listed, rfl⟩
  have requested := List.mem_filterMap.mpr ⟨branch, member, titled⟩
  rw [titles] at requested
  obtain ⟨⟨token, span⟩, inside, request⟩ := List.mem_filterMap.mp requested
  obtain ⟨rename, found, request⟩ := Option.map_eq_some_iff.mp request
  obtain ⟨rfl, last⟩ := Prod.mk.inj request
  rw [leaves_tree_of_parse parse] at inside
  obtain ⟨index, -, -, there, rfl⟩ := mem_leavesBetween.mp inside
  -- The branch has a leaf, so it has children and reaches to the end of that leaf.
  have nonempty : branch.children ≠ [] := by
    cases branch with
    | leaf => contradiction
    | branch => rintro rfl; simp at last
  obtain ⟨-, stop, -⟩ := exact_of_mem_tree parse options.fullDetail member nonempty
  rw [← last, Option.map_some, Option.some.injEq] at stop
  refine ⟨index, token, getElem?_of_withoutSentenceEnd there, stop.symm, last.symm, ?_⟩
  rw [found, ← (serves.asked found).1]

section Token

variable {index : Nat} {token : Token} {label : String}
  (there : analysis.mapped[index]? = some token)
  (found : analyzer.table.renameFor token.tag = some ⟨site.phrase, label⟩)
include there found

/-- The branches with the label that end with the token are those with its request as title. -/
theorem title?_eq_iff {branch : Tree} (member : branch ∈ analysis.tree.branches) :
    Tree.title? site.titles branch = some (label, some (token, ⟨index, index + 1⟩)) ↔
      branch.label? = some label ∧ branch.span.stop = index + 1 := by
  have listed : label ∈ site.titles := (serves.asked found).2
  rw [Tree.title?_eq_some_iff]
  constructor
  · rintro ⟨own, -, last⟩
    obtain ⟨place, other, -, stop, last', -⟩ :=
      exists_token_of_title serves accounts done member own listed
    rw [last, Option.some.injEq, Prod.mk.injEq, Span.mk.injEq] at last'
    obtain ⟨-, rfl, -⟩ := last'
    exact ⟨own, stop⟩
  · rintro ⟨own, stop⟩
    obtain ⟨place, other, there', stop', last, -⟩ :=
      exists_token_of_title serves accounts done member own listed
    obtain rfl : place = index := by omega
    obtain rfl : token = other := Option.some.inj (there.symm.trans there')
    exact ⟨own, listed, last⟩

/-- A token that asks for a label gets one branch with it that ends with the token. -/
theorem countP_title : analysis.tree.branches.countP
    (fun branch => branch.label? = some label ∧ branch.span.stop = index + 1) = 1 := by
  obtain ⟨-, titles⟩ := titles_eq_requests serves accounts done
  -- The token is not dropped at the end of the sentence, so it is a leaf of the tree, once.
  have inner := (accounts token (List.mem_of_getElem? there)).inner found
  have kept := getElem?_withoutSentenceEnd there inner
  have same : ∀ leaf, Tree.request? analyzer.table.renameFor leaf =
      some (label, some (token, ⟨index, index + 1⟩)) ↔ leaf = (token, ⟨index, index + 1⟩) := by
    intro leaf
    constructor
    · intro request
      obtain ⟨rename, -, request⟩ := Option.map_eq_some_iff.mp request
      exact Option.some.inj (Prod.mk.inj request).2
    · rintro rfl
      simp [Tree.request?, found]
  calc analysis.tree.branches.countP
        (fun branch => branch.label? = some label ∧ branch.span.stop = index + 1)
      = (analysis.tree.branches.filterMap (Tree.title? site.titles)).count
          (label, some (token, ⟨index, index + 1⟩)) := by
        rw [List.count_filterMap]
        refine List.countP_congr fun branch member => ?_
        rw [beq_iff_eq, title?_eq_iff serves accounts done there found member, decide_eq_true_iff]
    _ = analysis.tree.leaves.count (token, ⟨index, index + 1⟩) := by
        rw [titles, List.count_filterMap]
        exact List.countP_congr fun leaf _ => by rw [beq_iff_eq, same, beq_iff_eq]
    _ = 1 := by
        obtain ⟨parsed, parse, rfl⟩ := analyze_eq_ok_iff.mp done
        rw [leaves_tree_of_parse parse]
        refine List.count_eq_one_of_mem nodup_leavesBetween (mem_leavesBetween.mpr ?_)
        exact ⟨index, Nat.zero_le _, (List.getElem?_eq_some_iff.mp kept).1, kept, rfl⟩

end Token

end Analyzer

end Constituency
