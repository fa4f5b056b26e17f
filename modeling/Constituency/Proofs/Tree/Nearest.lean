import Constituency.Proofs.Tree.Address
import Constituency.Proofs.Tree.Labels
import Mathlib.Logic.Relation

/-!
# Renames of the nearest branch

The requests of the leaves go up the tree. A branch serves the first one that asks for its label,
takes the new label, and goes on until no request asks for the label it has; the others go further
up. So a request that passes a branch asks for another label than the branch has in the end.
-/
namespace Constituency.Tree

/-! ### The rounds at one branch -/

/-- One round at a branch: of the requests for its label the first one is served. -/
inductive Round : String × List Rename → String × List Rename → Prop
  | serve {front back : List Rename} {rename : Rename}
    (first : ∀ earlier ∈ front, earlier.old ≠ rename.old) :
    Round (rename.old, front ++ rename :: back) (rename.new, front ++ back)

theorem Round.length_lt {earlier later : String × List Rename} (round : Round earlier later) :
    later.2.length < earlier.2.length := by
  cases round with
  | serve first => simp

/-- Rounds use up requests, so they come to an end, also where labels come back. -/
theorem wellFounded_round : WellFounded fun later earlier => Round earlier later :=
  Subrelation.wf Round.length_lt (measure fun state : String × List Rename => state.2.length).wf

theorem not_round_of_unasked {label : String} {requests : List Rename}
    (unasked : ∀ rename ∈ requests, rename.old ≠ label) (next : String × List Rename) :
    ¬ Round (label, requests) next := by
  intro round
  generalize same : (label, requests) = state at round
  cases round with
  | @serve front back rename first =>
    obtain ⟨rfl, rfl⟩ := Prod.mk.inj same
    exact unasked rename (by simp) rfl

/-- Either nothing is asked of a branch, or it serves the first request for its label. -/
theorem serve_cases (rounds : Nat) (label : String) (requests : List Rename) :
    (∀ rename ∈ requests, rename.old ≠ label) ∨
    ∃ front rename back, requests = front ++ rename :: back ∧ rename.old = label ∧
      (∀ earlier ∈ front, earlier.old ≠ label) ∧
      serve (rounds + 1) label requests = serve rounds rename.new (front ++ back) := by
  cases found : requests.find? (·.old == label) with
  | none => exact .inl (by simpa using found)
  | some rename =>
    obtain ⟨asks, front, back, rfl, first⟩ := List.find?_eq_some_iff_append.mp found
    have asks : rename.old = label := by simpa using asks
    have first : ∀ earlier ∈ front, earlier.old ≠ label := by simpa using first
    -- No earlier request asks, so erasing takes out the one that was found.
    refine .inr ⟨front, rename, back, rfl, asks, first, ?_⟩
    rw [serve, found]
    dsimp only
    rw [List.eraseP_append_right _ (by simpa using first),
      List.eraseP_cons_of_pos (by simpa using asks)]

theorem serve_runs {rounds : Nat} {label : String} {requests : List Rename}
    (enough : requests.length ≤ rounds) :
    Relation.ReflTransGen Round (label, requests) (serve rounds label requests) := by
  induction rounds generalizing label requests with
  | zero => exact .refl
  | succ rounds ih =>
    rcases serve_cases rounds label requests with
      unasked | ⟨front, rename, back, rfl, rfl, first, turn⟩
    · rw [serve_of_unasked unasked]
    · rw [turn]
      refine .head (.serve first) (ih ?_)
      simp at enough ⊢
      omega

/-- Renames that lead from one label to another, each of them asking for the label that it meets. -/
inductive Through : List Rename → String → String → Prop
  | done (label : String) : Through [] label label
  | turn (rename : Rename) {rest : List Rename} {final : String}
    (later : Through rest rename.new final) : Through (rename :: rest) rename.old final

/-- What a branch makes of its label: some requests have their turns, and no other one asks. -/
theorem exists_turns {α : Type} (ask : α → Rename) {rounds : Nat} (label : String)
    {requests : List α} (enough : requests.length ≤ rounds) :
    ∃ (turns left : List α) (final : String),
      serve rounds label (requests.map ask) = (final, left.map ask) ∧
      (turns ++ left).Perm requests ∧ Through (turns.map ask) label final ∧
      ∀ request ∈ left, (ask request).old ≠ final := by
  induction rounds generalizing label requests with
  | zero =>
    obtain rfl := List.length_eq_zero_iff.mp (Nat.le_zero.mp enough)
    exact ⟨[], [], label, rfl, .refl [], .done label, nofun⟩
  | succ rounds ih =>
    rcases serve_cases rounds label (requests.map ask) with
      unasked | ⟨front, rename, back, split, asks, first, turn⟩
    · exact ⟨[], requests, label, serve_of_unasked unasked, .refl requests, .done label,
        fun request member => unasked _ (List.mem_map_of_mem member)⟩
    · obtain ⟨front, rest, rfl, rfl, behind⟩ := List.map_eq_append_iff.mp split
      obtain ⟨request, back, rfl, rfl, rfl⟩ := List.map_eq_cons_iff.mp behind
      have fewer : (front ++ back).length ≤ rounds := by
        simp at enough ⊢
        omega
      obtain ⟨turns, left, final, served, all, through, unasked⟩ := ih (ask request).new fewer
      refine ⟨request :: turns, left, final, ?_, ?_, ?_, unasked⟩
      · rw [turn, ← List.map_append, served]
      · -- Where the request stood makes no difference to what becomes of all requests.
        exact (all.cons request).trans List.perm_middle.symm
      · rw [← asks]
        exact .turn (ask request) through

/-- A branch goes on until nothing asks for its label. -/
theorem not_round_serve {rounds : Nat} {label : String} {requests : List Rename}
    (enough : requests.length ≤ rounds) (next : String × List Rename) :
    ¬ Round (serve rounds label requests) next := by
  obtain ⟨turns, left, final, served, -, -, unasked⟩ := exists_turns id label enough
  rw [List.map_id, List.map_id] at served
  rw [served]
  exact not_round_of_unasked unasked next

/-! ### Trees but for their labels -/

mutual

/-- The same tree with empty labels. -/
def unlabelled : Tree → Tree
  | .leaf token span => .leaf token span
  | .branch _ span children => .branch "" span (unlabelledAll children)

def unlabelledAll : List Tree → List Tree
  | [] => []
  | child :: rest => child.unlabelled :: unlabelledAll rest

end

theorem unlabelledAll_eq (children : List Tree) :
    unlabelledAll children = children.map unlabelled := by
  induction children with
  | nil => rfl
  | cons child rest ih => rw [unlabelledAll, ih, List.map_cons]

theorem unlabelled_branch (label : String) (span : Span) (children : List Tree) :
    (Tree.branch label span children).unlabelled =
      .branch "" span (children.map unlabelled) := by
  rw [unlabelled, unlabelledAll_eq]

/-- Only labels are changed. -/
theorem unlabelled_serveAll (renameFor : String → Option Rename) (tree : Tree) :
    (tree.serveAll renameFor).1.unlabelled = tree.unlabelled := by
  induction tree using Tree.children_induction with
  | leaf token span => rfl
  | branch label span children ih =>
    rw [serveAll, serveChildren_eq]
    dsimp only
    rw [unlabelled_branch, unlabelled_branch, List.map_map]
    exact congrArg _ (List.map_congr_left ih)

/-! ### Who serves whom -/

/-- The label at an address. -/
def labelAt? (tree : Tree) (address : List Nat) : Option String :=
  (tree.node? address).bind label?

/-- The rename that the leaf at an address asks for. -/
def askedAt? (renameFor : String → Option Rename) (tree : Tree) (address : List Nat) :
    Option Rename :=
  (tree.node? address).bind fun node => node.leaf?.bind (asks renameFor)

/-- The address of a leaf and the rename that it asks for. -/
abbrev Request := List Nat × Rename

/--
Whether `server` tells, for each leaf whose request is served when the labels of one tree become
those of another, the branch that serves it.
-/
structure ServedBy (renameFor : String → Option Rename) (tree renamed : Tree)
    (server : List Nat → Option (List Nat)) : Prop where
  /-- Requests are served above the leaves that have them. -/
  above : ∀ leaf branch, server leaf = some branch →
    (tree.askedAt? renameFor leaf).isSome ∧ Above branch leaf
  /-- The label of a branch is sent through the requests that it serves, each in its turn. -/
  turns : ∀ branch label, tree.labelAt? branch = some label →
    ∃ (turns : List Request) (final : String), turns.Nodup ∧
      (∀ leaf rename, (leaf, rename) ∈ turns ↔
        tree.askedAt? renameFor leaf = some rename ∧ server leaf = some branch) ∧
      Through (turns.map Prod.snd) label final ∧ renamed.labelAt? branch = some final

/-- Whether the request of a leaf goes past a branch above it, to be served further up or never. -/
def Passes (server : List Nat → Option (List Nat)) (leaf branch : List Nat) : Prop :=
  Above branch leaf ∧ ∀ upper, server leaf = some upper → Above upper branch

/-- Whether the requests that are left have passed all branches but the root. -/
structure Passed (renameFor : String → Option Rename) (tree renamed : Tree)
    (server : List Nat → Option (List Nat)) (left : List Request) : Prop
    extends ServedBy renameFor tree renamed server where
  nodup : left.Nodup
  mem_left : ∀ leaf rename, (leaf, rename) ∈ left ↔
    tree.askedAt? renameFor leaf = some rename ∧ server leaf = none
  nearest : ∀ leaf rename branch final, tree.askedAt? renameFor leaf = some rename →
    branch ≠ [] → Passes server leaf branch → renamed.labelAt? branch = some final →
    final ≠ rename.old

/-- Whether the requests that are left have passed the root as well. -/
structure Settled (renameFor : String → Option Rename) (tree renamed : Tree)
    (server : List Nat → Option (List Nat)) (left : List Request) : Prop
    extends Passed renameFor tree renamed server left where
  unasked : ∀ request ∈ left, renamed.label? ≠ some request.2.old

variable {renameFor : String → Option Rename} {tree renamed : Tree}
  {server : List Nat → Option (List Nat)} {left : List Request}

/-- Each branch that a request passes has another label in the end. -/
theorem Settled.passes (settled : Settled renameFor tree renamed server left)
    {leaf branch : List Nat} {rename : Rename} {final : String}
    (asked : tree.askedAt? renameFor leaf = some rename) (passes : Passes server leaf branch)
    (named : renamed.labelAt? branch = some final) : final ≠ rename.old := by
  cases branch with
  | nil =>
    -- Nothing stands above the root, so the request is still left.
    have unserved : server leaf = none := by
      by_contra served
      obtain ⟨upper, there⟩ := Option.ne_none_iff_exists'.mp served
      exact not_above_nil upper (passes.2 upper there)
    have member := (settled.mem_left leaf rename).mpr ⟨asked, unserved⟩
    rintro rfl
    exact settled.unasked _ member named
  | cons index rest =>
    exact settled.nearest leaf rename _ final asked (List.cons_ne_nil index rest) passes named

/-! ### Below a branch -/

section Branch

variable {label : String} {span : Span} {children : List Tree}

theorem askedAt?_child {index : Nat} {child : Tree} (there : children[index]? = some child)
    (rest : List Nat) : (Tree.branch label span children).askedAt? renameFor (index :: rest) =
      child.askedAt? renameFor rest := by
  rw [askedAt?, node?_cons, Tree.children, there, Option.bind_some]
  rfl

theorem labelAt?_child {index : Nat} {child : Tree} (there : children[index]? = some child)
    (rest : List Nat) : (Tree.branch label span children).labelAt? (index :: rest) =
      child.labelAt? rest := by
  rw [labelAt?, node?_cons, Tree.children, there, Option.bind_some]
  rfl

theorem labelAt?_map {rename : Tree → Tree} {index : Nat} {child : Tree}
    (there : children[index]? = some child) (rest : List Nat) :
    (Tree.branch label span (children.map rename)).labelAt? (index :: rest) =
      (rename child).labelAt? rest := by
  have renamedThere : (children.map rename)[index]? = some (rename child) := by
    rw [List.getElem?_map, there, Option.map_some]
  exact labelAt?_child renamedThere rest

/-- A node below a branch is a child or stands below one. -/
theorem exists_child {address : List Nat} {node : Tree} (below : address ≠ [])
    (there : (Tree.branch label span children).node? address = some node) :
    ∃ index child rest, children[index]? = some child ∧ address = index :: rest := by
  obtain ⟨index, rest, rfl⟩ := List.exists_cons_of_ne_nil below
  obtain ⟨child, inside, -⟩ := Option.bind_eq_some_iff.mp there
  exact ⟨index, child, rest, inside, rfl⟩

theorem exists_child_of_askedAt? {leaf : List Nat} {rename : Rename}
    (asked : (Tree.branch label span children).askedAt? renameFor leaf = some rename) :
    ∃ index child rest, children[index]? = some child ∧ leaf = index :: rest ∧
      child.askedAt? renameFor rest = some rename := by
  obtain ⟨node, there, -⟩ := Option.bind_eq_some_iff.mp asked
  have below : leaf ≠ [] := by
    rintro rfl
    contradiction
  obtain ⟨index, child, rest, inside, rfl⟩ := exists_child below there
  exact ⟨index, child, rest, inside, rfl, askedAt?_child inside rest ▸ asked⟩

/-- A leaf below a child is served where it is served in the child. -/
def serverBelow (servers : Tree → List Nat → Option (List Nat)) (children : List Tree) :
    List Nat → Option (List Nat)
  | [] => none
  | index :: rest => children[index]?.bind fun child => (servers child rest).map (index :: ·)

variable {servers : Tree → List Nat → Option (List Nat)} {lefts : Tree → List Request}
  {rename : Tree → Tree}

theorem serverBelow_child {index : Nat} {child : Tree} (there : children[index]? = some child)
    (rest : List Nat) : serverBelow servers children (index :: rest) =
      (servers child rest).map (index :: ·) := by
  rw [serverBelow, there, Option.bind_some]

theorem exists_child_of_serverBelow {leaf branch : List Nat}
    (served : serverBelow servers children leaf = some branch) :
    ∃ index child rest upper, children[index]? = some child ∧ leaf = index :: rest ∧
      servers child rest = some upper ∧ branch = index :: upper := by
  cases leaf with
  | nil => contradiction
  | cons index rest =>
    obtain ⟨child, there, inside⟩ := Option.bind_eq_some_iff.mp served
    obtain ⟨upper, serves, rfl⟩ := Option.map_eq_some_iff.mp inside
    exact ⟨index, child, rest, upper, there, rfl, serves, rfl⟩

theorem serverBelow_ne_root (leaf : List Nat) : serverBelow servers children leaf ≠ some [] := by
  intro served
  obtain ⟨index, child, rest, upper, -, -, -, same⟩ := exists_child_of_serverBelow served
  contradiction

/-- What is served in the children of a branch is served below it. -/
theorem servedBy_branch (label : String) (span : Span) (each : ∀ child ∈ children,
      ServedBy renameFor child (rename child) (servers child)) :
    ServedBy renameFor (.branch label span children) (.branch label span (children.map rename))
      (serverBelow servers children) where
  above := by
    intro leaf branch served
    obtain ⟨index, child, rest, upper, there, rfl, serves, rfl⟩ :=
      exists_child_of_serverBelow served
    obtain ⟨asked, above⟩ := (each child (List.mem_of_getElem? there)).above rest upper serves
    rw [askedAt?_child there, cons_above_cons]
    exact ⟨asked, rfl, above⟩
  turns := by
    intro branch own named
    rcases eq_or_ne branch [] with rfl | below
    · -- The branch itself has served nobody yet.
      refine ⟨[], own, List.nodup_nil, fun leaf asked => ?_, .done own, named⟩
      simp [serverBelow_ne_root]
    -- Any other branch belongs to one child, and so do the requests that it has served.
    obtain ⟨node, stands, -⟩ := Option.bind_eq_some_iff.mp named
    obtain ⟨index, child, rest, there, rfl⟩ := exists_child below stands
    rw [labelAt?_child there] at named
    obtain ⟨turns, final, nodup, mem, through, became⟩ :=
      (each child (List.mem_of_getElem? there)).turns rest own named
    refine ⟨turns.map fun request => (index :: request.1, request.2), final, ?_, ?_, ?_, ?_⟩
    · refine nodup.map ?_
      rintro ⟨leaf, asked⟩ ⟨leaf', asked'⟩ same
      simpa using same
    · intro leaf asked
      constructor
      · intro member
        obtain ⟨⟨inner, asked⟩, inside, same⟩ := List.mem_map.mp member
        obtain ⟨rfl, rfl⟩ := Prod.mk.inj same
        obtain ⟨asks, serves⟩ := (mem inner asked).mp inside
        rw [askedAt?_child there, serverBelow_child there, serves]
        exact ⟨asks, rfl⟩
      · rintro ⟨asks, served⟩
        obtain ⟨other, child', inner, upper, there', rfl, serves, same⟩ :=
          exists_child_of_serverBelow served
        obtain ⟨rfl, rfl⟩ := List.cons.inj same
        obtain rfl : child = child' := Option.some.inj (there.symm.trans there')
        rw [askedAt?_child there] at asks
        exact List.mem_map.mpr ⟨(inner, asked), (mem inner asked).mpr ⟨asks, serves⟩, rfl⟩
    · rw [List.map_map]
      exact through
    · rw [labelAt?_map there, became]

/-- What has been settled in the children of a branch has passed all branches below it. -/
theorem passed_branch (label : String) (span : Span) (each : ∀ child ∈ children,
      Settled renameFor child (rename child) (servers child) (lefts child)) :
    Passed renameFor (.branch label span children) (.branch label span (children.map rename))
      (serverBelow servers children) (gather lefts children) where
  toServedBy := servedBy_branch label span fun child member => (each child member).toServedBy
  nodup := nodup_gather fun child member => (each child member).nodup
  mem_left := by
    intro leaf asked
    rw [mem_gather]
    constructor
    · rintro ⟨index, child, rest, there, inside, rfl⟩
      obtain ⟨asks, unserved⟩ :=
        ((each child (List.mem_of_getElem? there)).mem_left rest asked).mp inside
      rw [askedAt?_child there, serverBelow_child there, unserved]
      exact ⟨asks, rfl⟩
    · rintro ⟨asks, unserved⟩
      obtain ⟨index, child, rest, there, rfl, inside⟩ := exists_child_of_askedAt? asks
      rw [serverBelow_child there, Option.map_eq_none_iff] at unserved
      have left := (each child (List.mem_of_getElem? there)).mem_left rest asked
      exact ⟨index, child, rest, there, left.mpr ⟨inside, unserved⟩, rfl⟩
  nearest := by
    intro leaf asked branch final asks below passes named
    obtain ⟨index, child, rest, there, rfl, inside⟩ := exists_child_of_askedAt? asks
    -- The branch that is passed stands in the same child as the leaf, and so do all below it.
    obtain ⟨other, inner, rfl⟩ := List.exists_cons_of_ne_nil below
    obtain ⟨rfl, above⟩ := cons_above_cons.mp passes.1
    rw [labelAt?_map there] at named
    have settled := each child (List.mem_of_getElem? there)
    refine settled.passes inside ⟨above, fun upper serves => ?_⟩ named
    have outer := passes.2 (index :: upper) (by rw [serverBelow_child there, serves]; rfl)
    exact (cons_above_cons.mp outer).2

/-! ### At a branch -/

/-- The requests that have their turns at a branch are served there. -/
def serverAt (turns : List Request) (server : List Nat → Option (List Nat)) (leaf : List Nat) :
    Option (List Nat) :=
  if leaf ∈ turns.map Prod.fst then some [] else server leaf

theorem serverAt_of_mem {turns : List Request} {leaf : List Nat} {asked : Rename}
    (member : (leaf, asked) ∈ turns) : serverAt turns server leaf = some [] :=
  if_pos (List.mem_map.mpr ⟨(leaf, asked), member, rfl⟩)

theorem serverAt_of_forall_not_mem {turns : List Request} {leaf : List Nat}
    (absent : ∀ asked, (leaf, asked) ∉ turns) : serverAt turns server leaf = server leaf := by
  refine if_neg fun member => ?_
  obtain ⟨⟨leaf, asked⟩, inside, rfl⟩ := List.mem_map.mp member
  exact absent asked inside

theorem serverAt_cases {turns : List Request} {leaf branch : List Nat}
    (served : serverAt turns server leaf = some branch) :
    (branch = [] ∧ ∃ asked, (leaf, asked) ∈ turns) ∨ server leaf = some branch := by
  by_cases turn : ∃ asked, (leaf, asked) ∈ turns
  · obtain ⟨asked, member⟩ := turn
    rw [serverAt_of_mem member] at served
    exact .inl ⟨(Option.some.inj served).symm, asked, member⟩
  · rw [serverAt_of_forall_not_mem (not_exists.mp turn)] at served
    exact .inr served

section Turns

variable {others : List Tree} {turns rest : List Request} {final : String}
  (passed : Passed renameFor (.branch label span children) (.branch label span others) server left)
  (all : (turns ++ rest).Perm left)

include passed all

/-- A request that has its turn has not been served below. -/
theorem Passed.unserved {leaf : List Nat} {asked : Rename} (member : (leaf, asked) ∈ turns) :
    (Tree.branch label span children).askedAt? renameFor leaf = some asked ∧ server leaf = none :=
  (passed.mem_left leaf asked).mp (all.mem_iff.mp (List.mem_append_left rest member))

theorem Passed.serverAt_of_served {leaf branch : List Nat} (served : server leaf = some branch) :
    serverAt turns server leaf = some branch := by
  rw [serverAt_of_forall_not_mem, served]
  intro asked member
  rw [(passed.unserved all member).2] at served
  contradiction

/-- A leaf has one request, so the one that has its turn is the one that it asks for. -/
theorem Passed.mem_turns {leaf : List Nat} {asked : Rename}
    (unserved : ∀ leaf, server leaf ≠ some []) : (leaf, asked) ∈ turns ↔
      (Tree.branch label span children).askedAt? renameFor leaf = some asked ∧
        serverAt turns server leaf = some [] := by
  constructor
  · intro member
    exact ⟨(passed.unserved all member).1, serverAt_of_mem member⟩
  · rintro ⟨asks, serves⟩
    rcases serverAt_cases serves with ⟨-, other, member⟩ | before
    · obtain rfl := Option.some.inj (asks.symm.trans (passed.unserved all member).1)
      exact member
    · exact absurd before (unserved leaf)

/-- A branch serves some of the requests that have passed the branches below it. -/
theorem Passed.servedBy (unserved : ∀ leaf, server leaf ≠ some [])
    (through : Through (turns.map Prod.snd) label final) (nodup : turns.Nodup) :
    ServedBy renameFor (.branch label span children) (.branch final span others)
      (serverAt turns server) where
  above := by
    intro leaf branch serves
    rcases serverAt_cases serves with ⟨rfl, asked, member⟩ | before
    · have asks := (passed.unserved all member).1
      obtain ⟨index, child, inner, -, rfl, -⟩ := exists_child_of_askedAt? asks
      exact ⟨by rw [asks]; rfl, above_nil_cons index inner⟩
    · exact passed.above leaf branch before
  turns := by
    intro branch own named
    rcases eq_or_ne branch [] with rfl | below
    · obtain rfl : label = own := Option.some.inj named
      exact ⟨turns, final, nodup, fun leaf asked => passed.mem_turns all unserved, through, rfl⟩
    · -- Further down nothing changes, neither a label nor who is served there.
      obtain ⟨index, inner, rfl⟩ := List.exists_cons_of_ne_nil below
      obtain ⟨earlier, last, nodup, mem, way, became⟩ := passed.turns (index :: inner) own named
      refine ⟨earlier, last, nodup, fun leaf asked => (mem leaf asked).trans ?_, way, became⟩
      refine and_congr_right fun asks => ⟨passed.serverAt_of_served all, fun serves => ?_⟩
      rcases serverAt_cases serves with ⟨root, -⟩ | before
      · contradiction
      · exact before

/-- If none of the other requests asks for the label in the end, they go past the branch. -/
theorem Passed.settle (unserved : ∀ leaf, server leaf ≠ some [])
    (through : Through (turns.map Prod.snd) label final)
    (unasked : ∀ request ∈ rest, request.2.old ≠ final) :
    Settled renameFor (.branch label span children) (.branch final span others)
      (serverAt turns server) rest := by
  obtain ⟨turnsNodup, restNodup, apart⟩ := List.nodup_append'.mp (all.nodup_iff.mpr passed.nodup)
  refine ⟨⟨passed.servedBy all unserved through turnsNodup, restNodup, ?mem_left, ?nearest⟩,
    ?unasked⟩
  case mem_left =>
    intro leaf asked
    have before := passed.mem_left leaf asked
    rw [← all.mem_iff, List.mem_append] at before
    constructor
    · intro member
      obtain ⟨asks, nobody⟩ := before.mp (.inr member)
      rw [serverAt_of_forall_not_mem]
      · exact ⟨asks, nobody⟩
      · -- Another request of the same leaf would be the same request.
        intro other turn
        obtain rfl := Option.some.inj (asks.symm.trans (passed.unserved all turn).1)
        exact apart turn member
    · rintro ⟨asks, nobody⟩
      have noTurn : ∀ other, (leaf, other) ∉ turns := by
        intro other turn
        rw [serverAt_of_mem turn] at nobody
        contradiction
      rw [serverAt_of_forall_not_mem noTurn] at nobody
      exact (before.mpr ⟨asks, nobody⟩).resolve_left (noTurn asked)
  case nearest =>
    intro leaf asked branch last asks below passes named
    obtain ⟨index, inner, rfl⟩ := List.exists_cons_of_ne_nil below
    refine passed.nearest leaf asked _ last asks below ⟨passes.1, fun upper serves => ?_⟩ named
    exact passes.2 upper (passed.serverAt_of_served all serves)
  case unasked =>
    intro request member named
    exact unasked request member (Option.some.inj named).symm

end Turns

end Branch

/-! ### The whole tree -/

theorem askedAt?_leaf {token : Token} {span : Span} {leaf : List Nat} {asked : Rename} :
    (Tree.leaf token span).askedAt? renameFor leaf = some asked ↔
      leaf = [] ∧ renameFor token.tag = some asked := by
  cases leaf with
  | nil =>
    have own : (Tree.leaf token span).askedAt? renameFor [] = renameFor token.tag := rfl
    simp [own]
  | cons index rest =>
    have nobody : (Tree.leaf token span).askedAt? renameFor (index :: rest) = none := rfl
    simp [nobody]

theorem settled_leaf (renameFor : String → Option Rename) (token : Token) (span : Span) :
    Settled renameFor (.leaf token span) (.leaf token span) (fun _ => none)
      ((renameFor token.tag).toList.map fun asked => ([], asked)) where
  above := nofun
  turns := by
    intro branch label named
    cases branch <;> contradiction
  nodup := by
    cases renameFor token.tag <;> simp
  mem_left := by
    intro leaf asked
    rw [askedAt?_leaf]
    simp [eq_comm, and_comm]
  nearest := by
    intro leaf asked branch final asks below passes
    obtain ⟨rfl, -⟩ := askedAt?_leaf.mp asks
    exact absurd passes.1 (not_above_nil branch)
  unasked := nofun

/-- The requests of all leaves are served on their way up or left at the root. -/
theorem exists_settled (renameFor : String → Option Rename) (tree : Tree) :
    ∃ server left, Settled renameFor tree (tree.serveAll renameFor).1 server left ∧
      left.map Prod.snd = (tree.serveAll renameFor).2 := by
  induction tree using Tree.children_induction with
  | leaf token span =>
    refine ⟨_, _, settled_leaf renameFor token span, ?_⟩
    rw [serveAll, List.map_map]
    exact List.map_id' _
  | branch label span children ih =>
    -- Servers are chosen for all trees; those that are no children of the branch get any.
    have each : ∀ child, ∃ server left, child ∈ children →
        Settled renameFor child (child.serveAll renameFor).1 server left ∧
          left.map Prod.snd = (child.serveAll renameFor).2 := by
      intro child
      by_cases member : child ∈ children
      · obtain ⟨server, left, settled⟩ := ih child member
        exact ⟨server, left, fun _ => settled⟩
      · exact ⟨fun _ => none, [], fun inside => absurd inside member⟩
    choose servers lefts each using each
    have passed := passed_branch label span fun child member => (each child member).1
    have requests : (gather lefts children).map Prod.snd =
        children.flatMap fun child => (child.serveAll renameFor).2 := by
      rw [map_snd_gather]
      exact List.flatMap_congr fun child member => (each child member).2
    rw [serveAll, serveChildren_eq, ← requests]
    dsimp only
    have enough : (gather lefts children).length ≤ ((gather lefts children).map Prod.snd).length :=
      Nat.le_of_eq (List.length_map Prod.snd).symm
    obtain ⟨turns, rest, final, served, all, through, unasked⟩ := exists_turns Prod.snd label enough
    rw [served]
    exact ⟨_, rest, passed.settle all serverBelow_ne_root through unasked, rfl⟩

/--
Whether requests of leaves turn one tree into another, each served at most once and by the nearest
branch that has the label it asks for when its turn comes.
-/
structure RenamesNearest (renameFor : String → Option Rename) (tree renamed : Tree)
    (server : List Nat → Option (List Nat)) : Prop
    extends ServedBy renameFor tree renamed server where
  /-- Nothing but labels changes. -/
  unlabelled : renamed.unlabelled = tree.unlabelled
  /-- A branch that a request passes is not called in the end what the request asks for. -/
  nearest : ∀ leaf rename branch final, tree.askedAt? renameFor leaf = some rename →
    Passes server leaf branch → renamed.labelAt? branch = some final → final ≠ rename.old

theorem exists_renamesNearest (renameFor : String → Option Rename) (tree : Tree) :
    ∃ server, RenamesNearest renameFor tree (tree.serveAll renameFor).1 server := by
  obtain ⟨server, left, settled, -⟩ := exists_settled renameFor tree
  refine ⟨server, settled.toServedBy, unlabelled_serveAll renameFor tree, ?_⟩
  intro leaf rename branch final asked passes named
  exact settled.passes asked passes named

/--
Renaming changes labels only. The request of a leaf is served by at most one branch, which stands
above it. The label of a branch is sent through the requests that it serves, each of which asks for
the label that it meets; and every branch that a request passes, on its way to the one that serves
it or to the root and beyond, has another label in the end than the request asks for. The rounds at
a branch come to an end whatever is asked, and serving is going through them to their end.
-/
theorem remapLabels_renamesNearest (table : TagTable) (tree : Tree) :
    (∃ server, RenamesNearest table.renameFor tree (tree.remapLabels table) server) ∧
    (WellFounded fun later earlier => Round earlier later) ∧
    ∀ label requests, Relation.ReflTransGen Round (label, requests)
        (serve requests.length label requests) ∧
      ∀ next, ¬ Round (serve requests.length label requests) next :=
  ⟨exists_renamesNearest table.renameFor tree, wellFounded_round, fun _ requests =>
    ⟨serve_runs (Nat.le_refl requests.length), not_round_serve (Nat.le_refl requests.length)⟩⟩

end Constituency.Tree
