import Constituency.Accepted
import Constituency.Proofs.Parser.Calls

/-!
# Trees are derivations

A body generates lists of nodes, and a derivation of a grammar is a tree in which the children of
every branch are a list that the body of the branch's production generates. Which of its lists a
body gives depends on the tokens, on the order of attempts and on what is known from before, but
each of them is generated, also in a run that is given up half way.
-/
namespace Constituency

/-- What a body generates: lists of nodes, in the order of the tokens they stand for. -/
inductive Generates : Expr Ref → List Tree → Prop where
  | terminal {pattern : Pattern} {token : Token} {span : Span}
      (accepted : pattern.accepts token.tag = true) :
      Generates (.terminal pattern) [.leaf token span]
  | ref {target : Ref} {span : Span} {children : List Tree} :
      Generates (.ref target) [.branch target.name span children]
  | noItems : Generates (.seq []) []
  | items {item : Expr Ref} {rest : List (Expr Ref)} {front back : List Tree}
      (head : Generates item front) (tail : Generates (.seq rest) back) :
      Generates (.seq (item :: rest)) (front ++ back)
  | absent {body : Expr Ref} : Generates (.opt body) []
  | present {body : Expr Ref} {nodes : List Tree} (once : Generates body nodes) :
      Generates (.opt body) nodes
  | never {body : Expr Ref} : Generates (.star body) []
  | again {body : Expr Ref} {front back : List Tree} (once : Generates body front)
      (more : Generates (.star body) back) : Generates (.star body) (front ++ back)
  | plus {body : Expr Ref} {front back : List Tree} (once : Generates body front)
      (more : Generates (.star body) back) : Generates (.plus body) (front ++ back)
  | longest {alternatives : List (Expr Ref)} {alternative : Expr Ref} {nodes : List Tree}
      (member : alternative ∈ alternatives) (chosen : Generates alternative nodes) :
      Generates (.longest alternatives) nodes

/--
Whether every branch of a tree carries the name of a production and has children, which the body
of that production generates.
-/
inductive Tree.Derived (grammar : Grammar) : Tree → Prop where
  | leaf {token : Token} {span : Span} : Derived grammar (.leaf token span)
  | branch {rule : Rule Ref} {span : Span} {children : List Tree} (member : rule ∈ grammar.rules)
      (some : children ≠ []) (generated : Generates rule.body children)
      (below : ∀ child ∈ children, child.Derived grammar) :
      Derived grammar (.branch rule.name span children)

variable {grammar : Grammar} {tokens : List Token} {options : ParseOptions}

/-! ### What tasks build -/

/-- Derivations that a body generates. -/
structure Builds (grammar : Grammar) (body : Expr Ref) (nodes : List Tree) : Prop where
  generated : Generates body nodes
  derived : ∀ node ∈ nodes, node.Derived grammar

namespace Builds

variable {body : Expr Ref} {front back : List Tree}

theorem append {first second whole : Expr Ref} (head : Builds grammar first front)
    (tail : Builds grammar second back) (joined : Generates whole (front ++ back)) :
    Builds grammar whole (front ++ back) where
  generated := joined
  derived := List.forall_mem_append.mpr ⟨head.derived, tail.derived⟩

theorem never : Builds grammar (.star body) [] := ⟨.never, by simp⟩

theorem again (once : Builds grammar body front) (more : Builds grammar (.star body) back) :
    Builds grammar (.star body) (front ++ back) :=
  once.append more (.again once.generated more.generated)

theorem plus (once : Builds grammar body front) (more : Builds grammar (.star body) back) :
    Builds grammar (.plus body) (front ++ back) :=
  once.append more (.plus once.generated more.generated)

end Builds

/-- A derivation whose root is the production at a place. -/
structure RootedAt (grammar : Grammar) (id : Nat) (tree : Tree) : Prop where
  derived : tree.Derived grammar
  root : ∃ rule span children, grammar.rules[id]? = some rule ∧
    tree = .branch rule.name span children

/-- Whether every tree that is known is a derivation from the production it is known for. -/
def Run.Derived (grammar : Grammar) (run : Run) : Prop :=
  ∀ (attempt : Attempt) (tree : Tree) (stop : Nat),
    run.known[attempt]? = some (.matched tree stop) → RootedAt grammar attempt.1 tree

theorem Run.derived_fresh : ({} : Run).Derived grammar := by
  intro attempt tree stop found
  simp at found

/-- Whether every reference of a task stands for the production of its name. -/
def Task.Resolved (rules : List (Rule Ref)) : Task → Prop
  | .attempt _ => True
  | .body expr => expr.Resolved rules
  | .items exprs => ∀ expr ∈ exprs, expr.Resolved rules
  | .alternatives exprs _ => ∀ expr ∈ exprs, expr.Resolved rules
  | .repetition expr => expr.Resolved rules

/-- What the answer to a task may hold. -/
def Task.Derives (grammar : Grammar) : (task : Task) → task.Answer → Prop
  | .attempt id, tree => ∀ found, tree = some found → RootedAt grammar id found
  | .body expr, nodes => ∀ found, nodes = some found → Builds grammar expr found
  | .items exprs, nodes => ∀ found, nodes = some found → Builds grammar (.seq exprs) found
  | .alternatives exprs best, found => ∀ nodes stop, found = some (nodes, stop) →
    best = some (nodes, stop) ∨ ∃ expr ∈ exprs, Builds grammar expr nodes
  | .repetition expr, (nodes, count) =>
    Builds grammar (.star expr) nodes ∧ (count ≠ 0 → Builds grammar (.plus expr) nodes)

theorem Run.Derived.keep {run : Run} {attempt : Attempt} {hits : Nat} {outcome : Outcome}
    (known : run.Derived grammar)
    (fresh : ∀ tree stop, outcome = .matched tree stop → RootedAt grammar attempt.1 tree) :
    (run.keep options attempt hits outcome).Derived grammar := by
  intro key tree stop found
  rcases Run.known_of_keep found with before | ⟨rfl, equal, -⟩
  · exact known key tree stop before
  · exact fresh tree stop equal.symm

/-- What the gate answers from memory was known before. -/
theorem Run.Derived.answered {id : Nat} {run after : Run} {tree : Option Tree}
    (known : run.Derived grammar) (gate : Run.Enters options id run (.answered tree after)) :
    after.Derived grammar ∧ Task.Derives grammar (.attempt id) tree := by
  cases gate with
  | matchedBefore live within free memoize found =>
    refine ⟨known, ?_⟩
    rintro tree ⟨⟩
    exact known _ _ _ found
  | _ => exact ⟨known, by simp [Task.Derives]⟩

/-- Courses build derivations only, and remember nothing else. -/
theorem Course.derives {task : Task} {run after : Run} {answer : task.Answer}
    {events : List Event} (course : Course grammar tokens options task run answer after events)
    (resolved : task.Resolved grammar.rules) (known : run.Derived grammar) :
    after.Derived grammar ∧ task.Derives grammar answer := by
  induction course with
  | @answered id run after tree gate =>
    have entered := Run.enters options id run
    rw [gate] at entered
    exact known.answered entered
  | failed gate production inside nothing ih =>
    obtain ⟨innerKnown, -⟩ := ih (grammar.resolved _ (List.mem_of_getElem? production)) known
    exact ⟨Run.Derived.keep innerKnown (by simp), by simp [Task.Derives]⟩
  | @matched id run inner rule first others events gate production inside ih =>
    have member := List.mem_of_getElem? production
    -- The references of every body have been resolved when the grammar was made.
    obtain ⟨innerKnown, built⟩ := ih (grammar.resolved rule member) known
    obtain ⟨generated, below⟩ := built _ rfl
    have rooted : RootedAt grammar id
        (.branch rule.name ⟨first.span.start, inner.position⟩ (first :: others)) :=
      ⟨.branch member (by simp) generated below, rule, _, _, production, rfl⟩
    refine ⟨Run.Derived.keep innerKnown ?_, ?_⟩
    · rintro tree stop ⟨⟩
      exact rooted
    · rintro tree ⟨⟩
      exact rooted
  | token there =>
    obtain ⟨-, accepted⟩ := Option.filter_eq_some_iff.mp there
    refine ⟨known, ?_⟩
    rintro nodes ⟨⟩
    exact ⟨.terminal (by simpa using accepted), List.forall_mem_singleton.mpr .leaf⟩
  | noToken missing => exact ⟨known, by simp [Task.Derives]⟩
  | @ref target run after tree events call ih =>
    obtain ⟨afterKnown, rooted⟩ := ih trivial known
    refine ⟨afterKnown, ?_⟩
    intro nodes found
    obtain ⟨tree, rfl, rfl⟩ := Option.map_eq_some_iff.mp found
    obtain ⟨derived, rule, span, children, production, rfl⟩ := rooted tree rfl
    -- The place that is called is the one of the production that the reference names.
    have name : rule.name = target.name := by
      have same := resolved target (by simp [Expr.references])
      rw [production] at same
      exact Option.some.inj same
    refine ⟨?_, List.forall_mem_singleton.mpr derived⟩
    rw [name]
    exact .ref
  | seq all ih => exact ih resolved.items known
  | brokenSeq all ih =>
    obtain ⟨afterKnown, -⟩ := ih resolved.items known
    exact ⟨afterKnown, by simp [Task.Derives]⟩
  | @opt body run after nodes events once ih =>
    obtain ⟨afterKnown, built⟩ := ih resolved known
    refine ⟨afterKnown, ?_⟩
    rintro found ⟨⟩
    cases nodes with
    | none => exact ⟨.absent, by simp⟩
    | some nodes =>
      obtain ⟨generated, derived⟩ := built nodes rfl
      exact ⟨.present generated, derived⟩
  | star loop ih =>
    obtain ⟨afterKnown, built, -⟩ := ih resolved known
    refine ⟨afterKnown, ?_⟩
    rintro found ⟨⟩
    exact built
  | plus loop ih =>
    obtain ⟨afterKnown, -, built⟩ := ih resolved known
    refine ⟨afterKnown, ?_⟩
    intro found equal
    split at equal
    next => contradiction
    next some =>
      obtain rfl := Option.some.inj equal
      exact built some
  | longest tried ih =>
    obtain ⟨afterKnown, built⟩ := ih resolved.items known
    refine ⟨afterKnown, ?_⟩
    rintro found ⟨⟩
    rcases built _ _ rfl with none | ⟨alternative, member, generated, derived⟩
    · contradiction
    · exact ⟨.longest member generated, derived⟩
  | noLongest tried ih =>
    obtain ⟨afterKnown, -⟩ := ih resolved.items known
    exact ⟨afterKnown, by simp [Task.Derives]⟩
  | noItems =>
    refine ⟨known, ?_⟩
    rintro found ⟨⟩
    exact ⟨.noItems, by simp⟩
  | brokenItems head ih =>
    obtain ⟨itemResolved, -⟩ := List.forall_mem_cons.mp resolved
    obtain ⟨afterKnown, -⟩ := ih itemResolved known
    exact ⟨afterKnown, by simp [Task.Derives]⟩
  | items head tail first second =>
    obtain ⟨itemResolved, restResolved⟩ := List.forall_mem_cons.mp resolved
    obtain ⟨betweenKnown, front⟩ := first itemResolved known
    obtain ⟨afterKnown, back⟩ := second restResolved betweenKnown
    refine ⟨afterKnown, ?_⟩
    intro nodes found
    obtain ⟨more, rfl, rfl⟩ := Option.map_eq_some_iff.mp found
    have front := front _ rfl
    have back := back _ rfl
    exact front.append back (.items front.generated back.generated)
  | noAlternatives => exact ⟨known, fun nodes stop found => .inl found⟩
  | @alternatives alternative rest run between after best found nodes events others head tail
      first second =>
    obtain ⟨headResolved, restResolved⟩ := List.forall_mem_cons.mp resolved
    obtain ⟨betweenKnown, tried⟩ := first headResolved known
    obtain ⟨afterKnown, later⟩ := second restResolved betweenKnown
    refine ⟨afterKnown, ?_⟩
    intro chosen stop chosen_eq
    rcases later chosen stop chosen_eq with better | ⟨expr, member, built⟩
    · rcases eq_of_longer better with old | ⟨rfl, -⟩
      · exact .inl old
      · exact .inr ⟨alternative, List.mem_cons_self .., tried _ rfl⟩
    · exact .inr ⟨expr, List.mem_cons_of_mem _ member, built⟩
  | ends last ih =>
    obtain ⟨afterKnown, -⟩ := ih resolved known
    exact ⟨afterKnown, .never, fun some => absurd rfl some⟩
  | @stalls body run after nodes events last stalled ih =>
    obtain ⟨afterKnown, built⟩ := ih resolved known
    have once := built _ rfl
    -- A stalled iteration is the last one, so nothing comes behind its nodes.
    have alone : nodes ++ [] = nodes := List.append_nil nodes
    exact ⟨afterKnown, alone ▸ once.again .never, fun _ => alone ▸ once.plus .never⟩
  | continues first moved loop one more =>
    obtain ⟨betweenKnown, front⟩ := one resolved known
    obtain ⟨afterKnown, back, -⟩ := more resolved betweenKnown
    have once := front _ rfl
    exact ⟨afterKnown, once.again back, fun _ => once.plus back⟩

/-! ### Calls -/

/-- The name of the production that a call is about. -/
def Call.production (grammar : Grammar) : Call → String
  | .start => grammar.startRule.name
  | .rule name => name

theorem Grammar.name_of_ruleId? {name : String} {id : Nat}
    (found : grammar.ruleId? name = some id) :
    (grammar.rules[id]?).map Rule.name = some name := by
  obtain ⟨bound, equal, -⟩ := List.idxOf?_eq_some_iff.mp found
  rw [← List.getElem?_map]
  exact List.getElem?_eq_some_iff.mpr ⟨bound, by simpa using equal⟩

theorem Call.name_of_target? {call : Call} {id : Nat} (target : call.target? grammar = some id) :
    (grammar.rules[id]?).map Rule.name = some (call.production grammar) := by
  cases call with
  | start =>
    obtain rfl := Option.some.inj target
    rw [List.getElem?_eq_getElem grammar.start_lt]
    rfl
  | rule name => exact Grammar.name_of_ruleId? target

theorem RootedAt.label_eq {id : Nat} {tree : Tree} {name : String}
    (rooted : RootedAt grammar id tree) (named : (grammar.rules[id]?).map Rule.name = some name) :
    tree.label? = some name := by
  obtain ⟨rule, span, children, production, rfl⟩ := rooted.root
  rw [production] at named
  exact named

section Replies

variable {run after : Run} {call : Call} {tree : Option Tree} {events : List Event}

theorem Parser.Replies.derived
    (replies : Replies ⟨grammar, tokens, options, run⟩ call tree after events)
    (known : run.Derived grammar) : after.Derived grammar := by
  cases replies with
  | attempted target course => exact (course.derives trivial known).1
  | unknown missing => exact known

theorem Parser.Replies.derives {tree : Tree}
    (replies : Replies ⟨grammar, tokens, options, run⟩ call (some tree) after events)
    (known : run.Derived grammar) :
    tree.Derived grammar ∧ tree.label? = some (call.production grammar) := by
  cases replies with
  | attempted target course =>
    have rooted := (course.derives trivial known).2 tree rfl
    exact ⟨rooted.derived, rooted.label_eq (Call.name_of_target? target)⟩

end Replies

/--
Whatever was called before, a tree that a parser gives is a derivation of the grammar from the
production that was called.
-/
theorem Parser.derived_of_call {grammar : Grammar} {tokens : List Token} {options : ParseOptions}
    {calls : List Call} {call : Call} {tree : Tree}
    (given : ((callAll { grammar := grammar, tokens := tokens, options := options } calls).call
      call).1 = some tree) :
    tree.Derived grammar ∧ tree.label? = some (call.production grammar) := by
  obtain ⟨run, equal, rest, known⟩ := exists_callAll_eq options
    (P := fun run => run.Derived grammar)
    (fun _ _ _ _ _ _ known replies => replies.derived known) calls Run.atRest_fresh
    (by intro attempt tree stop found; simp at found)
  rw [equal] at given
  obtain ⟨answer, after, events, replies⟩ := exists_replies options call rest
  rw [replies.call_eq rest] at given
  obtain rfl : answer = some tree := given
  exact replies.derives known

/-- Numbers with a plus sign between them. -/
def sums : Grammar :=
  Grammar.of [
    ⟨"Sum", .seq [.ref "Number", .star (.seq [.terminal (Pattern.of "PLUS"), .ref "Number"])]⟩,
    ⟨"Number", .terminal (Pattern.of "NUM")⟩]

/-- A parser of `1 + 2` that gives up before the second number. -/
def briefSum : Parser :=
  { grammar := sums
    tokens := [⟨"1", "NUM"⟩, ⟨"+", "PLUS"⟩, ⟨"2", "NUM"⟩]
    options := { memoize := true, maxSteps := some 2 } }

def sumOfOne : Tree := .branch "Sum" ⟨0, 1⟩ [.branch "Number" ⟨0, 1⟩ [.leaf ⟨"1", "NUM"⟩ ⟨0, 1⟩]]

/-- What the parser has found before it gives up is a derivation. -/
theorem Parser.derived_sumOfOne :
    (((briefSum.callAll [.rule "Product"]).call .start).2.run.aborted = true ∧
      ((briefSum.callAll [.rule "Product"]).call .start).1 = some sumOfOne) ∧
      sumOfOne.Derived sums ∧ sumOfOne.label? = some (Call.start.production sums) := by
  have given : ((briefSum.callAll [.rule "Product"]).call .start).1 = some sumOfOne := by
    decide +kernel
  exact ⟨⟨by decide +kernel, given⟩, derived_of_call given⟩

end Constituency
