import Constituency.Proofs.Parser.Alike
import Constituency.Proofs.Parser.Sentence
import Constituency.Proofs.Regex.Spelling

/-!
# A mark behind a sentence

The start production of a grammar may end in a production that stands for a mark and can be left
out, where nothing else of the grammar accepts the mark. Then a mark behind a sentence changes
nothing in front of it: all that is tried there is tried alike, because every pattern that sees the
mark refuses it as it refuses the end. So the sentence has a tree with the mark exactly if it has one
without, and the one tree is the other with the mark behind its nodes.
-/
namespace Constituency

variable {grammar : Grammar} {tokens : List Token} {options : ParseOptions}

/-! ### Parts of a sequence -/

namespace Course

variable {front back : List (Expr Ref)} {run between after : Run}

theorem exists_front {answer : Option (List Tree)} {events : List Event}
    (course : Course grammar tokens options (.items (front ++ back)) run answer after events) :
    ∃ nodes between events,
      Course grammar tokens options (.items front) run nodes between events := by
  induction front generalizing run answer events with
  | nil => exact ⟨_, _, _, .noItems⟩
  | cons item front ih =>
    cases course with
    | brokenItems head => exact ⟨_, _, _, .brokenItems head⟩
    | items head tail =>
      obtain ⟨nodes, between, events, course⟩ := ih tail
      exact ⟨_, _, _, .items head course⟩

theorem items_append {found more : Option (List Tree)} {nodes : List Tree}
    {events others : List Event}
    (head : Course grammar tokens options (.items front) run found between events)
    (whole : found = some nodes)
    (tail : Course grammar tokens options (.items back) between more after others) :
    ∃ events, Course grammar tokens options (.items (front ++ back)) run
      (more.map (nodes ++ ·)) after events := by
  induction front generalizing run found nodes events with
  | nil =>
    cases head
    obtain rfl := Option.some.inj whole
    exact ⟨others, by simpa using tail⟩
  | cons item front ih =>
    cases head with
    | brokenItems => contradiction
    | @items _ _ _ middle _ first rest _ _ once later =>
      obtain ⟨rest, rfl, rfl⟩ := Option.map_eq_some_iff.mp whole
      obtain ⟨events, joined⟩ := ih later rfl
      have nodes : (more.map (rest ++ ·)).map (first ++ ·) = more.map (first ++ rest ++ ·) := by
        simp [Function.comp_def]
      rw [← nodes]
      exact ⟨_, .items once joined⟩

theorem items_append_of_broken {found : Option (List Tree)} {events : List Event}
    (head : Course grammar tokens options (.items front) run found between events)
    (broken : found = none) (back : List (Expr Ref)) :
    ∃ events, Course grammar tokens options (.items (front ++ back)) run none between events := by
  induction front generalizing run found events with
  | nil =>
    cases head
    contradiction
  | cons item front ih =>
    cases head with
    | brokenItems once => exact ⟨_, .brokenItems once⟩
    | items once later =>
      obtain ⟨events, joined⟩ := ih later (Option.map_eq_none_iff.mp broken)
      exact ⟨_, .items once joined⟩

end Course

/-! ### Sentences and their mark -/

/-- Whether a body calls none of some productions and has no terminal that accepts the tag. -/
structure Expr.Ignores (productions : List Nat) (tag : String) (body : Expr Ref) : Prop where
  references : ∀ target ∈ body.references, target.id ∉ productions
  terminals : ∀ pattern ∈ body.terminals, pattern.accepts tag = false

instance (productions : List Nat) (tag : String) (body : Expr Ref) :
    Decidable (body.Ignores productions tag) :=
  decidable_of_iff ((∀ target ∈ body.references, target.id ∉ productions) ∧
      ∀ pattern ∈ body.terminals, pattern.accepts tag = false)
    ⟨fun ⟨references, terminals⟩ => ⟨references, terminals⟩,
      fun ⟨references, terminals⟩ => ⟨references, terminals⟩⟩

/-- Whether a production is a terminal that accepts one tag and no other. -/
def Rule.standsFor (tag : String) (rule : Rule Ref) : Bool :=
  match rule.body with
  | .terminal pattern => pattern.accepts tag && pattern.spells tag.toList
  | _ => false

/--
A grammar in which a sentence may end in a mark. The start production consists of items that do not
match without a token, and of a production that can be left out; that one stands for the mark, which
nothing else accepts, and no other production calls one of the two.
-/
structure Grammar.EndsInMark (grammar : Grammar) (front : List (Expr Ref)) (final : Ref)
    (tag : String) : Prop where
  body : grammar.startRule.body = .seq (front ++ [.opt (.ref final)])
  needed : Expr.allNullable front = false
  apart : final.id ≠ grammar.start
  stands : (grammar.rules[final.id]?).any (Rule.standsFor tag) = true
  items : ∀ item ∈ front, item.Ignores [grammar.start, final.id] tag
  others : ∀ entry ∈ grammar.rules.zipIdx, entry.2 ∉ [grammar.start, final.id] →
    entry.1.body.Ignores [grammar.start, final.id] tag

/-- A tree with one more node behind its nodes. -/
def Tree.append : Tree → Tree → Tree
  | .leaf token span, _ => .leaf token span
  | .branch label span nodes, last =>
    .branch label ⟨span.start, last.span.stop⟩ (nodes ++ [last])

/-- The mark at a position, as a tree of the production that stands for it. -/
def markTree (name : String) (position : Nat) (mark : Token) : Tree :=
  .branch name ⟨position, position + 1⟩ [.leaf mark ⟨position, position + 1⟩]

/-- The nodes that the last production gives. -/
def markNodes (name : String) (position : Nat) (found : Option Token) : List Tree :=
  (found.map (markTree name position)).toList

theorem length_markNodes_le (name : String) (position : Nat) (found : Option Token) :
    (markNodes name position found).length ≤ 1 := by
  cases found with
  | none => exact Nat.zero_le 1
  | some mark => exact Nat.le_refl 1

theorem Course.live {task : Task} {run after : Run} {answer : task.Answer} {events : List Event}
    (course : Course grammar tokens forgetful task run answer after events)
    (live : run.aborted = false) : after.aborted = false :=
  course.spends.accounted live

theorem tokenMatching_append_of_refused {pattern : Pattern} {mark : Token} {position : Nat}
    (refused : pattern.accepts mark.tag = false) :
    tokenMatching (tokens ++ [mark]) position (some pattern) =
      tokenMatching tokens position (some pattern) := by
  rcases Nat.lt_trichotomy position tokens.length with before | rfl | behind
  · rw [tokenMatching, List.getElem?_append_left before, tokenMatching]
  · simp [tokenMatching, refused]
  · have nothing : (tokens ++ [mark])[position]? = none := by
      apply List.getElem?_eq_none
      rw [List.length_append]
      exact behind
    rw [tokenMatching, nothing, tokenMatching, List.getElem?_eq_none (Nat.le_of_lt behind)]

namespace Grammar

theorem getElem?_start : grammar.rules[grammar.start]? = some grammar.startRule :=
  List.getElem?_eq_getElem grammar.start_lt

/-- What a parse gives is what the course of the start production gives. -/
theorem parse_eq_ok_iff_of_course {answer : Option Tree} {after : Run} {events : List Event}
    {tree : Tree}
    (course : Course grammar tokens forgetful (.attempt grammar.start) {} answer after events) :
    grammar.parse tokens forgetful = .ok tree ↔
      answer = some tree ∧ after.position = tokens.length := by
  have rest : Run.AtRest grammar tokens {} := Run.atRest_fresh
  have replies : Parser.Replies ⟨grammar, tokens, forgetful, {}⟩ .start answer after events :=
    .attempted rfl course
  have called : Parser.callStart ⟨grammar, tokens, forgetful, {}⟩ =
      (answer, ⟨grammar, tokens, forgetful, after⟩) := replies.call_eq rest
  rw [parse_eq_ok_iff called, course.live rfl]
  have within := (replies.atRest rest).placed.position_le
  constructor
  · rintro ⟨found, -, all⟩
    exact ⟨found, Nat.le_antisymm within all⟩
  · rintro ⟨found, all⟩
    exact ⟨found, rfl, Nat.le_of_eq all.symm⟩

/-- Without a budget a parse gives the same with a memory as without one. -/
theorem parse_eq_ok_iff_forgetful {tree : Tree} (unlimited : options.maxSteps = none) :
    grammar.parse tokens options = .ok tree ↔ grammar.parse tokens forgetful = .ok tree := by
  obtain ⟨memoize, maxSteps⟩ := options
  obtain rfl : maxSteps = none := unlimited
  cases memoize with
  | false => exact Iff.rfl
  | true =>
    have twins : Twins grammar tokens {} {} := twins_fresh
    obtain ⟨answer, after, events, replies⟩ :=
      Parser.exists_replies remembering .start twins.rest
    obtain ⟨plainAfter, plainEvents, plainReplies, alike⟩ := twins.reply replies
    have called : Parser.callStart ⟨grammar, tokens, remembering, {}⟩ =
        (answer, ⟨grammar, tokens, remembering, after⟩) := replies.call_eq twins.rest
    have plainCalled : Parser.callStart ⟨grammar, tokens, forgetful, {}⟩ =
        (answer, ⟨grammar, tokens, forgetful, plainAfter⟩) := plainReplies.call_eq twins.plainRest
    have whole : grammar.parse tokens remembering = .ok tree ↔
        answer = some tree ∧ after.aborted = false ∧ tokens.length ≤ after.position :=
      parse_eq_ok_iff called
    rw [alike.trusted.live] at whole
    rw [parse_eq_ok_iff plainCalled, alike.live, alike.position]
    exact whole

namespace EndsInMark

variable {front : List (Expr Ref)} {final : Ref} {tag : String} {mark : Token}

/-- The last production: its name is the one in the reference, and it accepts the mark alone. -/
theorem exists_pattern (ends : grammar.EndsInMark front final tag) :
    ∃ pattern, grammar.rules[final.id]? = some ⟨final.name, .terminal pattern⟩ ∧
      ∀ text, pattern.accepts text = true ↔ text = tag := by
  obtain ⟨⟨name, body⟩, production, stands⟩ := (Option.any_eq_true _ _).mp ends.stands
  have named := grammar.resolved grammar.startRule (List.mem_of_getElem? getElem?_start) final (by
    rw [ends.body]
    exact Expr.mem_referencesAll.mpr ⟨.opt (.ref final), by simp, by simp [Expr.references]⟩)
  rw [production] at named
  obtain rfl : name = final.name := Option.some.inj named
  cases body with
  | terminal pattern =>
    obtain ⟨accepted, spelled⟩ := Bool.and_eq_true_iff.mp stands
    refine ⟨pattern, production, fun text => ⟨fun taken => ?_, fun same => same ▸ accepted⟩⟩
    exact String.toList_inj.mp (Pattern.eq_of_accepts spelled taken)
  | _ => contradiction

/-- All that is tried in front of the last production is tried alike with a mark behind. -/
theorem agrees (ends : grammar.EndsInMark front final tag) (tokens : List Token)
    (tagged : mark.tag = tag) :
    grammar.Agrees (· ∉ [grammar.start, final.id]) id tokens (tokens ++ [mark]) ∧
      (Task.items front).Agrees (· ∉ [grammar.start, final.id]) id tokens (tokens ++ [mark]) := by
  have alike {body : Expr Ref} (ignores : body.Ignores [grammar.start, final.id] tag) :
      body.Agrees (· ∉ [grammar.start, final.id]) id tokens (tokens ++ [mark]) := by
    refine ⟨ignores.references, fun pattern stands position => ?_⟩
    rw [Option.map_id, id, tokenMatching_append_of_refused]
    rw [tagged]
    exact ignores.terminals pattern stands
  constructor
  · intro id rule inside production
    exact alike (ends.others (rule, id) (List.mem_zipIdx_iff_getElem?.mpr production) inside)
  · intro item member
    exact alike (ends.items item member)

section Course

variable {pattern : Pattern} {run between : Run} {events : List Event}

/-- The last production gives the mark if it is there, and nothing if not. -/
theorem exists_course_mark (tokens : List Token)
    (production : grammar.rules[final.id]? = some ⟨final.name, .terminal pattern⟩)
    (live : run.aborted = false) (free : (final.id, run.position) ∉ run.active) :
    let nodes := markNodes final.name run.position
      (tokenMatching tokens run.position (some pattern))
    ∃ after events, Course grammar tokens forgetful (.body (.opt (.ref final))) run (some nodes)
      after events ∧ after.position = run.position + nodes.length := by
  have gate := Run.enter_forgetful_opened live free
  cases there : tokenMatching tokens run.position (some pattern) with
  | none =>
    have inside : Course grammar tokens forgetful (.body (.terminal pattern))
        (run.counted.begin final.id) none (run.counted.begin final.id) [] := .noToken there
    exact ⟨_, _, .opt (.ref (.failed gate production inside rfl)), Run.keep_position⟩
  | some token =>
    have inside : Course grammar tokens forgetful (.body (.terminal pattern))
        (run.counted.begin final.id) (some [.leaf token ⟨run.position, run.position + 1⟩])
        ((run.counted.begin final.id).moveTo (run.position + 1)) [] := .token there
    exact ⟨_, _, .opt (.ref (.matched gate production inside)), Run.keep_position⟩

/-- Where the items do not match, there is no tree. -/
theorem parse_of_broken (ends : grammar.EndsInMark front final tag)
    (items : Course grammar tokens forgetful (.items front)
      (({} : Run).counted.begin grammar.start) none between events) (tree : Tree) :
    grammar.parse tokens forgetful ≠ .ok tree := by
  have gate : ({} : Run).enter forgetful grammar.start = .opened ({} : Run).counted :=
    Run.enter_forgetful_opened rfl (by simp)
  obtain ⟨events, all⟩ := items.items_append_of_broken rfl [.opt (.ref final)]
  have inside := Course.brokenSeq all
  rw [← ends.body] at inside
  intro parsed
  have whole := Course.failed gate getElem?_start inside rfl
  exact absurd ((parse_eq_ok_iff_of_course whole).mp parsed).1 (by simp)

/-- Where the items match, a mark may follow, and then the sentence has to be over. -/
theorem parse_of_items (ends : grammar.EndsInMark front final tag)
    (production : grammar.rules[final.id]? = some ⟨final.name, .terminal pattern⟩)
    {first : Tree} {rest : List Tree}
    (items : Course grammar tokens forgetful (.items front)
      (({} : Run).counted.begin grammar.start) (some (first :: rest)) between events)
    {nodes : List Tree} (marks : markNodes final.name between.position
      (tokenMatching tokens between.position (some pattern)) = nodes) (tree : Tree) :
    grammar.parse tokens forgetful = .ok tree ↔
      tree = .branch grammar.startRule.name ⟨first.span.start, tokens.length⟩
        (first :: rest ++ nodes) ∧ between.position + nodes.length = tokens.length := by
  subst marks
  have gate : ({} : Run).enter forgetful grammar.start = .opened ({} : Run).counted :=
    Run.enter_forgetful_opened rfl (by simp)
  -- Only the start production is under way, so the last one is free.
  have active : between.active = [(grammar.start, 0)] := items.grows.active
  have free : (final.id, between.position) ∉ between.active := by
    rw [active, List.mem_singleton, Prod.mk.injEq]
    exact fun same => ends.apart same.1
  obtain ⟨after, others, marked, stop⟩ :=
    exists_course_mark tokens production (items.live rfl) free
  obtain ⟨events, all⟩ := items.items_append rfl (.items marked .noItems)
  have inside : Course grammar tokens forgetful
      (.body (.seq (front ++ [.opt (.ref final)]))) (({} : Run).counted.begin grammar.start)
      (some (first :: (rest ++ (markNodes final.name between.position
        (tokenMatching tokens between.position (some pattern)) ++ [])))) after events := .seq all
  rw [← ends.body, List.append_nil] at inside
  have whole := Course.matched gate getElem?_start inside
  rw [parse_eq_ok_iff_of_course whole, Run.keep_position, Option.some.injEq]
  change _ = tree ∧ after.position = tokens.length ↔ _
  rw [stop]
  constructor
  · rintro ⟨rfl, all⟩
    rw [all]
    exact ⟨rfl, rfl⟩
  · rintro ⟨rfl, all⟩
    rw [all]
    exact ⟨rfl, rfl⟩

end Course

theorem resolved (ends : grammar.EndsInMark front final tag) :
    ∀ item ∈ front, item.Resolved grammar.rules := by
  have whole := grammar.resolved grammar.startRule (List.mem_of_getElem? getElem?_start)
  rw [ends.body] at whole
  exact fun item member => whole.items item (List.mem_append_left _ member)

/-- The items are tried, and if they match they give a node. -/
theorem exists_course_items (ends : grammar.EndsInMark front final tag) (tokens : List Token) :
    ∃ nodes between events, Course grammar tokens forgetful (.items front)
      (({} : Run).counted.begin grammar.start) nodes between events ∧ nodes ≠ some [] ∧
      between.position ≤ tokens.length := by
  have rest : Run.AtRest grammar tokens {} := Run.atRest_fresh
  have gate : ({} : Run).enter forgetful grammar.start = .opened ({} : Run).counted :=
    Run.enter_forgetful_opened rfl (by simp)
  obtain ⟨answer, after, events, course⟩ :
      (Task.attempt grammar.start).Ends grammar tokens forgetful {} :=
    ends_attempt _ _ {} grammar.start_lt rest.fits
  obtain ⟨placed, _, _, _, inside, -⟩ :=
    (Leads.inside gate getElem?_start).inside_course course rest.placed
  rw [ends.body] at inside
  obtain ⟨-, _, _, _, all, -⟩ := Leads.seq.inside_course inside placed
  obtain ⟨nodes, between, events, items⟩ := all.exists_front
  refine ⟨nodes, between, events, items, ?_, (items.placed placed).1.position_le⟩
  rintro rfl
  -- What the items generate is empty only if they match without a token.
  obtain ⟨generated, -⟩ := (items.derives ends.resolved Run.derived_fresh).2 [] rfl
  have nullable : Expr.allNullable front = true := generated.isNullable rfl
  rw [ends.needed] at nullable
  contradiction

/--
A sentence that does not end in the mark has a tree if and only if it has one with the mark behind
it, and this is the same tree with the mark behind its nodes.
-/
theorem parse_append_iff (ends : grammar.EndsInMark front final tag) (tagged : mark.tag = tag)
    (other : ∀ last ∈ tokens.getLast?, last.tag ≠ tag) (marked : Tree) :
    grammar.parse (tokens ++ [mark]) forgetful = .ok marked ↔
      ∃ tree, grammar.parse tokens forgetful = .ok tree ∧
        marked = tree.append (markTree final.name tokens.length mark) := by
  obtain ⟨pattern, production, accepts⟩ := ends.exists_pattern
  obtain ⟨nodes, between, events, items, filled, within⟩ := ends.exists_course_items tokens
  obtain ⟨closed, agrees⟩ := ends.agrees tokens tagged
  obtain ⟨otherBetween, otherEvents, otherItems, alike⟩ :=
    items.alike closed agrees (Run.Alike.fresh.counted.begin grammar.start)
  cases nodes with
  | none =>
    refine ⟨fun parsed => ?_, ?_⟩
    · exact absurd parsed (ends.parse_of_broken otherItems marked)
    · rintro ⟨tree, parsed, -⟩
      exact absurd parsed (ends.parse_of_broken items tree)
  | some nodes =>
    obtain ⟨first, rest, rfl⟩ := List.exists_cons_of_ne_nil (l := nodes) (by simpa using filled)
    have same : Tree.mapTokens id = id := funext Tree.mapTokens_id
    dsimp only [Task.mapTokens, Task.mapAnswer, Option.map_some] at otherItems
    rw [same, List.map_id] at otherItems
    rcases Nat.lt_or_eq_of_le within with before | whole
    · -- The mark is too far away, and a mark in front of the end would be the last token.
      refine ⟨fun parsed => ?_, ?_⟩
      · obtain ⟨-, all⟩ := (ends.parse_of_items production otherItems rfl marked).mp parsed
        have few := length_markNodes_le final.name otherBetween.position
          (tokenMatching (tokens ++ [mark]) otherBetween.position (some pattern))
        rw [alike.position, List.length_append, List.length_singleton] at all
        rw [alike.position] at few
        omega
      · rintro ⟨tree, parsed, -⟩
        obtain ⟨-, all⟩ := (ends.parse_of_items production items rfl tree).mp parsed
        cases found : tokenMatching tokens between.position (some pattern) with
        | none =>
          rw [found] at all
          exact absurd all (Nat.ne_of_lt before)
        | some token =>
          rw [found] at all
          obtain ⟨there, accepted⟩ := Option.filter_eq_some_iff.mp found
          have last : token ∈ tokens.getLast? := by
            rw [List.getLast?_eq_getElem?, ← all]
            exact there
          exact absurd ((accepts token.tag).mp (by simpa using accepted)) (other token last)
    · have nothing : markNodes final.name between.position
          (tokenMatching tokens between.position (some pattern)) = [] := by
        simp [markNodes, tokenMatching, whole]
      have there : markNodes final.name otherBetween.position
          (tokenMatching (tokens ++ [mark]) otherBetween.position (some pattern)) =
            [markTree final.name tokens.length mark] := by
        rw [alike.position, whole]
        simp [markNodes, tokenMatching, (accepts mark.tag).mpr tagged]
      rw [ends.parse_of_items production otherItems there, alike.position]
      simp only [ends.parse_of_items production items nothing]
      constructor
      · rintro ⟨rfl, -⟩
        refine ⟨_, ⟨rfl, whole⟩, ?_⟩
        simp [Tree.append, markTree, Tree.span]
      · rintro ⟨tree, ⟨rfl, -⟩, rfl⟩
        refine ⟨?_, ?_⟩
        · simp [Tree.append, markTree, Tree.span]
        · rw [whole, List.length_append]
          rfl

end EndsInMark

end Grammar

end Constituency
