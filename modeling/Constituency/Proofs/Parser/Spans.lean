import Constituency.Proofs.Parser.Calls
import Mathlib.Data.List.Chain

/-!
# Spans

A tree that covers a stretch of the tokens has just these tokens as its leaves, and the span of
each branch reaches from its first leaf to its last one. A call that matches moves the cursor over
the tokens of its tree, and one that does not match leaves the cursor where it was.
-/
namespace Constituency

variable {grammar : Grammar} {tokens : List Token} {options : ParseOptions}

/-- The leaves for the tokens from one position to another, each with the span of its place. -/
def leavesBetween (tokens : List Token) (start stop : Nat) : List (Token × Span) :=
  (List.range' start (stop - start)).filterMap fun position =>
    tokens[position]?.map fun token => (token, ⟨position, position + 1⟩)

section Leaves

variable {start middle stop : Nat}

theorem leavesBetween_self : leavesBetween tokens start start = [] := by
  simp [leavesBetween]

theorem leavesBetween_append (first : start ≤ middle) (second : middle ≤ stop) :
    leavesBetween tokens start middle ++ leavesBetween tokens middle stop =
      leavesBetween tokens start stop := by
  have split : List.range' start (stop - start) =
      List.range' start (middle - start) ++ List.range' middle (stop - middle) := by
    have joined := List.range'_append_1 (s := start) (m := middle - start) (n := stop - middle)
    rw [show start + (middle - start) = middle by omega,
      show middle - start + (stop - middle) = stop - start by omega] at joined
    exact joined.symm
  simp only [leavesBetween, split, List.filterMap_append]

theorem leavesBetween_succ {token : Token} (there : tokens[start]? = some token) :
    leavesBetween tokens start (start + 1) = [(token, ⟨start, start + 1⟩)] := by
  simp [leavesBetween, there]

theorem head?_leavesBetween (less : start < stop) (within : stop ≤ tokens.length) :
    (leavesBetween tokens start stop).head?.map (·.2.start) = some start := by
  have there := List.getElem?_eq_getElem (Nat.lt_of_lt_of_le less within)
  rw [← leavesBetween_append (Nat.le_succ start) less, leavesBetween_succ there]
  rfl

theorem getLast?_leavesBetween (less : start < stop) (within : stop ≤ tokens.length) :
    (leavesBetween tokens start stop).getLast?.map (·.2.stop) = some stop := by
  obtain ⟨last, rfl⟩ : ∃ last, stop = last + 1 := ⟨stop - 1, by omega⟩
  have there := List.getElem?_eq_getElem (l := tokens) (i := last) within
  rw [← leavesBetween_append (Nat.le_of_lt_succ less) (Nat.le_succ last), leavesBetween_succ there]
  simp

end Leaves

namespace Tree

mutual

/--
Whether every branch reaches from the start of its first leaf to the end of its last one, and its
children lie side by side.
-/
def Tight : Tree → Prop
  | .leaf .. => True
  | .branch _ span children =>
    (leavesAll children).head?.map (·.2.start) = some span.start ∧
      (leavesAll children).getLast?.map (·.2.stop) = some span.stop ∧
      children.IsChain (fun left right => left.span.stop = right.span.start) ∧
      TightAll children

def TightAll : List Tree → Prop
  | [] => True
  | child :: rest => child.Tight ∧ TightAll rest

end

variable {start stop : Nat}

mutual

theorem Covers.leaves_eq {tree : Tree} {start stop : Nat} (covers : tree.Covers tokens start stop) :
    tree.leaves = leavesBetween tokens start stop := by
  have bounds := covers.lt
  cases tree with
  | leaf token span =>
    obtain ⟨there, rfl, rfl⟩ := covers
    exact (leavesBetween_succ there).symm
  | branch label span children =>
    obtain ⟨-, -, all⟩ := covers
    exact all.leavesAll_eq (by omega)

theorem CoversAll.leavesAll_eq {nodes : List Tree} {start stop : Nat}
    (covers : CoversAll tokens nodes start stop) (inside : start ≤ tokens.length) :
    leavesAll nodes = leavesBetween tokens start stop := by
  cases nodes with
  | nil =>
    obtain rfl : stop = start := covers
    exact leavesBetween_self.symm
  | cons child rest =>
    obtain ⟨middle, head, tail⟩ := covers
    obtain ⟨less, within⟩ := head.lt
    rw [leavesAll, head.leaves_eq, tail.leavesAll_eq within]
    exact leavesBetween_append (Nat.le_of_lt less) (tail.le within).1

end

theorem CoversAll.isChain {nodes : List Tree} {start stop : Nat}
    (covers : CoversAll tokens nodes start stop) :
    nodes.IsChain (fun left right => left.span.stop = right.span.start) := by
  induction nodes generalizing start with
  | nil => exact .nil
  | cons child rest ih =>
    obtain ⟨middle, head, tail⟩ := covers
    cases rest with
    | nil => exact .singleton _
    | cons next others =>
      obtain ⟨_, second, -⟩ := id tail
      refine .cons_cons ?_ (ih tail)
      rw [head.span_eq, second.span_eq]

mutual

theorem Covers.tight {tree : Tree} {start stop : Nat} (covers : tree.Covers tokens start stop) :
    tree.Tight := by
  obtain ⟨less, within⟩ := covers.lt
  cases tree with
  | leaf token span => trivial
  | branch label span children =>
    have leaves : leavesAll children = leavesBetween tokens start stop := covers.leaves_eq
    obtain ⟨-, rfl, all⟩ := covers
    refine ⟨?_, ?_, all.isChain, all.tightAll⟩
    · rw [leaves]
      exact head?_leavesBetween less within
    · rw [leaves]
      exact getLast?_leavesBetween less within

theorem CoversAll.tightAll {nodes : List Tree} {start stop : Nat}
    (covers : CoversAll tokens nodes start stop) : TightAll nodes := by
  cases nodes with
  | nil => trivial
  | cons child rest =>
    obtain ⟨middle, head, tail⟩ := covers
    exact ⟨head.tight, tail.tightAll⟩

end

end Tree

/-! ### Calls -/

section Replies

variable {run after : Run} {call : Call} {events : List Event}

private theorem Parser.Replies.unmoved
    (replies : Replies ⟨grammar, tokens, options, run⟩ call none after events)
    (rest : run.AtRest grammar tokens) : after.position = run.position := by
  cases replies with
  | attempted target course => exact (course.placed rest.placed).2
  | unknown missing => rfl

theorem Parser.Replies.covers {tree : Tree}
    (replies : Replies ⟨grammar, tokens, options, run⟩ call (some tree) after events)
    (rest : run.AtRest grammar tokens) : tree.Covers tokens run.position after.position := by
  cases replies with
  | attempted target course => exact (course.placed rest.placed).2

private theorem Parser.Replies.furthest_le {tree : Option Tree}
    (replies : Replies ⟨grammar, tokens, options, run⟩ call tree after events) :
    run.furthest ≤ after.furthest := by
  cases replies with
  | attempted target course => exact course.grows.furthest
  | unknown missing => exact Nat.le_refl _

end Replies

/--
Whatever was called before, a call that does not match leaves the cursor where it was, and a tree
that it gives consists of the tokens that the cursor has passed, at least one of them, with exact
spans. The cursor never passes the furthest end, which lies within the sentence and never
decreases.
-/
theorem Parser.call_spans (grammar : Grammar) (tokens : List Token) (options : ParseOptions)
    (calls : List Call) (call : Call) :
    let parser := callAll { grammar := grammar, tokens := tokens, options := options } calls
    let after := (parser.call call).2
    ((parser.call call).1 = none → after.run.position = parser.run.position) ∧
    (∀ tree, (parser.call call).1 = some tree →
      parser.run.position < after.run.position ∧ after.run.position ≤ tokens.length ∧
      tree.leaves = leavesBetween tokens parser.run.position after.run.position ∧
      tree.Tight ∧ tree.span = ⟨parser.run.position, after.run.position⟩) ∧
    after.run.position ≤ after.run.furthest ∧ after.run.furthest ≤ tokens.length ∧
    parser.run.furthest ≤ after.run.furthest := by
  obtain ⟨run, equal, rest⟩ := exists_callAll_fresh_eq grammar tokens options calls
  obtain ⟨answer, last, events, replies⟩ := exists_replies options call rest
  have lastRest := replies.atRest rest
  rw [equal]
  dsimp only
  rw [replies.call_eq rest]
  refine ⟨?_, ?_, lastRest.position_le, lastRest.placed.furthest_le, replies.furthest_le⟩
  · rintro rfl
    exact replies.unmoved rest
  · rintro tree rfl
    have covers := replies.covers rest
    exact ⟨covers.lt.1, covers.lt.2, covers.leaves_eq, covers.tight, covers.span_eq⟩

end Constituency
