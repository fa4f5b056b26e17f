import Constituency.Proofs.TagTable.Pass
import Constituency.Proofs.TagTable.Registry

/-!
# The applications of a retagging

A log is kept beside the sweeps of a table: for every window that was replaced, the rule, the window,
what its template gave and what then stood in the sentence. Replaying the log does to a sentence what
retagging does, so these are the windows that were replaced, and nothing else has changed. The counts
that the sweeps carry along belong to one number each. So in the log of a whole sentence the
applications under a number are counted from one on without a gap, whatever other rules do, and each
minted tag tells which one it is. A rule that shares its number with no other one has the count for
itself.
-/
namespace Constituency

open Constituency.Text

/-- A window that was replaced. -/
structure Application where
  rule : NumberedRule
  /-- The place of the window: how many tokens stand in front of it. -/
  place : Nat
  window : List Token
  /-- What the template gives for the window. -/
  replacement : List Token
  /-- What stands in the sentence afterwards. -/
  written : List Token

namespace Application

/-- The tag that a numbered rule has given to the last token it wrote. -/
def minted? (application : Application) : Option String :=
  if application.rule.ordinal.isSome then application.written.getLast?.map Token.tag else none

/-- Everything that one application wrote stands in front of the other one. -/
def Precedes (one other : Application) : Prop := one.place + one.written.length ≤ other.place

/-- Puts what was written where the window stands, if it does stand there. -/
def replay? (application : Application) (tokens : List Token) : Option (List Token) :=
  let behind := tokens.drop application.place
  if application.window.isPrefixOf behind then
    some (tokens.take application.place ++ application.written ++
      behind.drop application.window.length)
  else none

theorem replay?_eq_some {application : Application} {front back : List Token}
    (place : application.place = front.length) :
    application.replay? (front ++ (application.window ++ back)) =
      some (front ++ application.written ++ back) := by
  have begins : application.window.isPrefixOf (application.window ++ back) = true :=
    List.isPrefixOf_iff_prefix.mpr (List.prefix_append ..)
  rw [replay?, place, List.drop_left, List.take_left, if_pos begins, List.drop_left]

end Application

namespace NumberedRule

variable {rule : NumberedRule} {state next : Sweep}

/-- What a step that led from one state to the next has replaced, if anything. -/
def applied? (rule : NumberedRule) (state next : Sweep) : Option Application :=
  let window := state.rest.take rule.span
  (rule.replace? (joinTokens window)).map fun replacement => {
    rule, window, replacement
    place := state.front.length
    written := next.front.drop state.front.length }

/-- The applications of a rule from a state on, to the end of its sweep. -/
def log (rule : NumberedRule) (state : Sweep) : List Application :=
  match stepped : rule.step state with
  | none => []
  | some next =>
    have := step_progress stepped
    (rule.applied? state next).toList ++ rule.log next
termination_by state.tokens.length - state.index

/-- The applications of some rules that go over a sentence one after the other. -/
def logAll : List NumberedRule → Sweep → List Application
  | [], _ => []
  | rule :: rules, state =>
    rule.log { state with index := 0 } ++ logAll rules (rule.sweep { state with index := 0 })

end NumberedRule

/-- The applications of all rules of a table in one retagging. -/
def TagTable.log (table : TagTable) (tokens : List Token) : List Application :=
  NumberedRule.logAll table.rules { tokens }

namespace NumberedRule

variable {rule : NumberedRule} {state next : Sweep}

/-! ### The log of one sweep -/

/-- What a step does, as far as the log shows it. -/
inductive Logged (rule : NumberedRule) (state next : Sweep) : Prop
  | applied (application : Application)
    (logged : rule.applied? state next = some application)
    (own : application.rule = rule) (place : application.place = state.front.length)
    (found : rule.replace? (joinTokens application.window) = some application.replacement)
    (written : application.written =
      rule.mint (rule.applications state.counts + 1) application.replacement)
    (front : next.front.length = state.front.length + application.written.length)
    (counts : next.counts = rule.record state.counts)
    (replayed : application.replay? state.tokens = some next.tokens)
  | kept (logged : rule.applied? state next = none)
    (front : state.front.length ≤ next.front.length) (counts : next.counts = state.counts)
    (tokens : next.tokens = state.tokens)

theorem logged_of_step (stepped : rule.step state = some next) : Logged rule state next := by
  cases stepped_of_step stepped with
  | @replaced replacement found front rest counts =>
    let application : Application := {
      rule, replacement
      place := state.front.length
      window := state.rest.take rule.span
      written := next.front.drop state.front.length }
    have written : application.written =
        rule.mint (rule.applications state.counts + 1) replacement := by
      change next.front.drop state.front.length = _
      rw [front, List.drop_left]
    have logged : rule.applied? state next = some application := by
      rw [applied?, found]
      rfl
    have replayed : application.replay? state.tokens = some next.tokens := by
      have before : state.tokens =
          state.front ++ (application.window ++ state.rest.drop rule.span) := by
        rw [List.take_append_drop, Sweep.front_append_rest]
      have behind : next.tokens =
          state.front ++ application.written ++ state.rest.drop rule.span := by
        rw [written, ← front, ← rest, Sweep.front_append_rest]
      rw [before, behind]
      exact Application.replay?_eq_some rfl
    have longer : next.front.length = state.front.length + application.written.length := by
      rw [written, front, List.length_append]
    exact .applied application logged rfl rfl found written longer counts replayed
  | kept missing front rest counts =>
    have logged : rule.applied? state next = none := by
      rw [applied?, missing]
      rfl
    have tokens : next.tokens = state.tokens := by
      rw [← next.front_append_rest, front, rest, List.append_assoc, List.take_append_drop,
        Sweep.front_append_rest]
    exact .kept logged (by simp [front]) counts tokens

theorem log_of_step (stepped : rule.step state = some next) :
    rule.log state = (rule.applied? state next).toList ++ rule.log next := by
  rw [log]
  split
  next halted => simp [halted] at stepped
  next other same =>
    obtain rfl := Option.some.inj (same.symm.trans stepped)
    rfl

theorem log_of_halted (halted : rule.step state = none) : rule.log state = [] := by
  rw [log]
  split
  next => rfl
  next other same => simp [halted] at same

/-- Replaying the log of a sweep does what the sweep does. -/
theorem replay_log (rule : NumberedRule) (state : Sweep) :
    (rule.log state).foldlM (fun tokens application => application.replay? tokens) state.tokens =
      some (rule.sweep state).tokens := by
  fun_induction rule.sweep state with
  | case1 state halted =>
    rw [log_of_halted halted]
    rfl
  | case2 state next stepped _ ih =>
    rw [log_of_step stepped]
    cases logged_of_step stepped with
    | applied first entry _ _ _ _ _ _ replayed =>
      rw [entry, Option.toList_some, List.singleton_append, List.foldlM_cons, replayed]
      exact ih
    | kept entry _ _ tokens =>
      rw [entry, Option.toList_none, List.nil_append, ← tokens]
      exact ih

/-- The entries of a sweep's log in order, each with the number of its application. -/
theorem getElem?_log {done : Nat} {application : Application} {place : Nat}
    (counted : rule.ordinal ≠ none → rule.applications state.counts = done)
    (logged : (rule.log state)[place]? = some application) :
    application.rule = rule ∧
      rule.replace? (joinTokens application.window) = some application.replacement ∧
      application.written = rule.mint (done + place + 1) application.replacement := by
  fun_induction rule.log state generalizing done place with
  | case1 state halted => simp at logged
  | case2 state next stepped _ ih =>
    cases logged_of_step stepped with
    | applied first entry own _ found written _ counts =>
      rw [entry, Option.toList_some, List.singleton_append] at logged
      cases place with
      | zero =>
        obtain rfl := Option.some.inj logged
        have minted := mint_congr first.replacement fun numbered =>
          congrArg (· + 1) (counted numbered)
        exact ⟨own, found, written.trans minted⟩
      | succ place =>
        -- The entry belongs to the rest of the sweep, which counts on from one more.
        have more (numbered : rule.ordinal ≠ none) : rule.applications next.counts = done + 1 := by
          rw [counts, applications_record numbered, counted numbered]
        have later := ih more logged
        rwa [show done + 1 + place = done + (place + 1) by omega] at later
    | kept entry _ counts =>
      rw [entry, Option.toList_none, List.nil_append] at logged
      exact ih (counts ▸ counted) logged

theorem rule_of_mem_log {application : Application} (member : application ∈ rule.log state) :
    application.rule = rule := by
  obtain ⟨place, found⟩ := List.getElem?_of_mem member
  exact (getElem?_log (fun _ => rfl) found).1

/-- A sweep logs as many windows as its pass replaces. -/
theorem length_log (rule : NumberedRule) (state : Sweep) :
    (rule.log state).length = rule.hits state.rest := by
  fun_induction rule.log state with
  | case1 state halted => rw [hits_of_short (step_eq_none_iff.mp halted), List.length_nil]
  | case2 state next stepped _ ih =>
    rw [hits, if_neg (not_short_of_step stepped), List.length_append, ih, applied?]
    cases stepped_of_step stepped with
    | replaced found front rest counts =>
      rw [found, rest, Nat.add_comm]
      rfl
    | kept missing front rest counts =>
      rw [missing, rest]
      exact Nat.zero_add _

/-- A sweep moves to the right: what it writes stands behind all that it wrote before. -/
theorem pairwise_precedes_log (rule : NumberedRule) (state : Sweep) :
    (∀ application ∈ rule.log state, state.front.length ≤ application.place) ∧
      (rule.log state).Pairwise Application.Precedes := by
  fun_induction rule.log state with
  | case1 state halted => simp
  | case2 state next stepped _ ih =>
    obtain ⟨behind, ordered⟩ := ih
    cases logged_of_step stepped with
    | applied first entry _ place _ _ front _ =>
      rw [entry, Option.toList_some, List.singleton_append, List.pairwise_cons,
        List.forall_mem_cons]
      -- All later windows lie behind the next place, which is behind what was written here.
      refine ⟨⟨Nat.le_of_eq place.symm, fun later member => ?_⟩, fun later member => ?_, ordered⟩
      · have := behind later member
        omega
      · have := behind later member
        rw [Application.Precedes]
        omega
    | kept entry front _ =>
      rw [entry, Option.toList_none, List.nil_append]
      exact ⟨fun later member => Nat.le_trans front (behind later member), ordered⟩

/-! ### The log of all sweeps -/

theorem rule_of_mem_logAll {rules : List NumberedRule} {application : Application}
    (member : application ∈ logAll rules state) : application.rule ∈ rules := by
  induction rules generalizing state with
  | nil => contradiction
  | cons rule rules ih =>
    rcases List.mem_append.mp member with first | later
    · exact rule_of_mem_log first ▸ List.mem_cons_self ..
    · exact List.mem_cons_of_mem _ (ih later)

theorem replay_logAll (rules : List NumberedRule) (state : Sweep) :
    (logAll rules state).foldlM (fun tokens application => application.replay? tokens)
        state.tokens =
      some (rules.foldl (fun state rule => rule.sweep { state with index := 0 }) state).tokens := by
  induction rules generalizing state with
  | nil => rfl
  | cons rule rules ih =>
    have first := replay_log rule { state with index := 0 }
    rw [logAll, List.foldlM_append, first]
    exact ih _

/-- What a sweep logs under a number: everything if it is that of the rule, and else nothing. -/
theorem filter_log (rule : NumberedRule) (state : Sweep) (ordinal : Nat) :
    (rule.log state).filter (·.rule.ordinal == some ordinal) =
      if rule.ordinal = some ordinal then rule.log state else [] := by
  split
  next own =>
    refine List.filter_eq_self.mpr fun application logged => ?_
    simpa [rule_of_mem_log logged] using own
  next other =>
    refine List.filter_eq_nil_iff.mpr fun application logged => ?_
    simpa [rule_of_mem_log logged] using other

/-- The applications under a number in order: each counts one more than the one before. -/
theorem getElem?_filter_logAll {rules : List NumberedRule} {ordinal place : Nat}
    {application : Application}
    (logged : ((logAll rules state).filter (·.rule.ordinal == some ordinal))[place]? =
      some application) :
    application.rule.replace? (joinTokens application.window) = some application.replacement ∧
      application.written =
        application.rule.mint (state.applied ordinal + place + 1) application.replacement := by
  induction rules generalizing state place with
  | nil => simp [logAll] at logged
  | cons rule rules ih =>
    rw [logAll, List.filter_append, filter_log] at logged
    have applied := applied_sweep rule { state with index := 0 } ordinal
    change _ = state.applied ordinal + _ at applied
    rw [← length_log] at applied
    split at logged
    next own =>
      rw [if_pos own] at applied
      rw [List.getElem?_append] at logged
      split at logged
      next within =>
        have counted : rule.applications ({ state with index := 0 } : Sweep).counts =
            state.applied ordinal := by
          rw [applications_eq, own]
          rfl
        obtain ⟨mine, found, written⟩ := getElem?_log (fun _ => counted) logged
        exact ⟨mine ▸ found, mine ▸ written⟩
      next behind =>
        -- The sweep in front has counted what it logged.
        obtain ⟨found, written⟩ := ih logged
        refine ⟨found, ?_⟩
        rw [written]
        congr 2
        omega
    next other =>
      rw [if_neg other, Nat.add_zero] at applied
      rw [List.nil_append] at logged
      exact applied ▸ ih logged

/-- A rule that is the only one with its number has logged all under that number in one sweep. -/
theorem filter_logAll {rules : List NumberedRule} {ordinal : Nat} (state : Sweep)
    (only : rules.filter (·.ordinal == some ordinal) = [rule]) :
    ∃ start, (logAll rules state).filter (·.rule.ordinal == some ordinal) = rule.log start := by
  induction rules generalizing state with
  | nil => contradiction
  | cons first rest ih =>
    rw [logAll, List.filter_append, filter_log]
    split
    next own =>
      rw [List.filter_cons_of_pos (by simpa using own), List.cons_eq_cons] at only
      obtain ⟨rfl, none⟩ := only
      have nothing : ∀ application ∈ logAll rest (first.sweep { state with index := 0 }),
          ¬ (application.rule.ordinal == some ordinal) = true := fun application logged =>
        List.filter_eq_nil_iff.mp none _ (rule_of_mem_logAll logged)
      exact ⟨_, by rw [List.filter_eq_nil_iff.mpr nothing, List.append_nil]⟩
    next other =>
      rw [List.filter_cons_of_neg (by simpa using other)] at only
      exact ih _ only

/-! ### Minted tags -/

/-- A numbered rule changes the tag of the last token of the replacement, and nothing else. -/
theorem mint_of_ordinal {ordinal : Nat} {replacement : List Token} (occurrence : Nat)
    (own : rule.ordinal = some ordinal) (some : replacement ≠ []) :
    ∃ front last, replacement = front ++ [last] ∧ rule.mint occurrence replacement =
      front ++ [{ last with tag := SyntheticTag.display ⟨rule.base, ordinal, occurrence⟩ }] := by
  obtain ⟨front, last, rfl⟩ := (List.eq_nil_or_concat' replacement).resolve_left some
  exact ⟨front, last, rfl, by rw [mint_append, own]⟩

end NumberedRule

namespace TagTable

open NumberedRule

variable {table : TagTable} {tokens : List Token} {ordinal place : Nat} {application : Application}

/-- Retagging replaces the logged windows, and changes nothing else. -/
theorem replay_log (table : TagTable) (tokens : List Token) :
    (table.log tokens).foldlM (fun tokens application => application.replay? tokens) tokens =
      some (table.retag tokens) :=
  replay_logAll table.rules { tokens }

/-- The applications under a number are those of rules that have it, counted from one on. -/
theorem getElem?_filter_log
    (logged : ((table.log tokens).filter (·.rule.ordinal == some ordinal))[place]? =
      some application) :
    application.rule ∈ table.rules ∧ application.rule.ordinal = some ordinal ∧
      application.rule.replace? (joinTokens application.window) = some application.replacement ∧
      ∃ front last, application.replacement = front ++ [last] ∧ application.written = front ++ [
        { last with tag := SyntheticTag.display ⟨application.rule.base, ordinal, place + 1⟩ }] := by
  obtain ⟨member, own⟩ := List.mem_filter.mp (List.mem_of_getElem? logged)
  obtain ⟨found, written⟩ := getElem?_filter_logAll logged
  have counted : Sweep.applied { tokens } ordinal + place + 1 = place + 1 :=
    congrArg (· + 1) (Nat.zero_add place)
  rw [counted] at written
  have own := beq_iff_eq.mp own
  exact ⟨rule_of_mem_logAll member, own, found,
    written ▸ mint_of_ordinal (place + 1) own (TagRule.replacement_ne_nil found)⟩

theorem minted?_of_getElem?_filter_log
    (logged : ((table.log tokens).filter (·.rule.ordinal == some ordinal))[place]? =
      some application) :
    application.minted? =
      some (SyntheticTag.display ⟨application.rule.base, ordinal, place + 1⟩) := by
  obtain ⟨-, own, -, front, last, -, written⟩ := getElem?_filter_log logged
  simp [Application.minted?, own, written]

/-- A minted tag tells the number of its rule. -/
theorem ordinal_of_minted? {tag : String} (member : application ∈ table.log tokens)
    (minted : application.minted? = some tag) :
    ∃ ordinal occurrence, application.rule.ordinal = some ordinal ∧
      tag = SyntheticTag.display ⟨application.rule.base, ordinal, occurrence⟩ := by
  cases own : application.rule.ordinal with
  | none => simp [Application.minted?, own] at minted
  | some ordinal =>
    have listed : application ∈
        (table.log tokens).filter (·.rule.ordinal == some ordinal) :=
      List.mem_filter.mpr ⟨member, by simpa using own⟩
    obtain ⟨place, logged⟩ := List.getElem?_of_mem listed
    rw [minted?_of_getElem?_filter_log logged, Option.some.injEq] at minted
    exact ⟨ordinal, place + 1, rfl, minted.symm⟩

/-- Applications under one number mint different tags. -/
theorem pairwise_minted?_filter_log (table : TagTable) (tokens : List Token) (ordinal : Nat) :
    ((table.log tokens).filter (·.rule.ordinal == some ordinal)).Pairwise
      fun one other => one.minted? ≠ other.minted? := by
  rw [List.pairwise_iff_getElem]
  intro i j here there before same
  rw [minted?_of_getElem?_filter_log (List.getElem?_eq_getElem here),
    minted?_of_getElem?_filter_log (List.getElem?_eq_getElem there), Option.some.injEq] at same
  have counts := congrArg SyntheticTag.occurrence (SyntheticTag.display_inj.mp same)
  dsimp only at counts
  omega

theorem nodup_minted?_log (table : TagTable) (tokens : List Token) :
    ((table.log tokens).filterMap Application.minted?).Nodup := by
  refine List.pairwise_filterMap.mpr (List.pairwise_iff_forall_sublist.mpr ?_)
  rintro one other both tag minted _ minted' rfl
  obtain ⟨mine, theirs⟩ : one ∈ table.log tokens ∧ other ∈ table.log tokens :=
    ⟨both.subset (by simp), both.subset (by simp)⟩
  obtain ⟨ordinal, occurrence, own, rfl⟩ := ordinal_of_minted? mine minted
  obtain ⟨ordinal', occurrence', own', same⟩ := ordinal_of_minted? theirs minted'
  obtain rfl : ordinal = ordinal' :=
    congrArg SyntheticTag.ordinal (SyntheticTag.display_inj.mp same)
  -- Both stand under the number that the tag tells.
  have listed := both.filter (·.rule.ordinal == some ordinal)
  simp only [List.filter_cons, own, own', beq_self_eq_true, if_true, List.filter_nil] at listed
  exact List.pairwise_iff_forall_sublist.mp (pairwise_minted?_filter_log table tokens ordinal)
    listed (minted.trans minted'.symm)

/--
Retagging replaces the logged windows one after the other, and changes nothing else. Of the
applications under a number, the `k`-th gives the last token of what the template gives the tag with
the rule's base, the number and `k`, and leaves the other tokens as they are; where the numbers are
words of the machine, this tag leads to the last rule that has the number. A rule that is the only
one with its number has made all these applications itself, from left to right, and the tags lead to
it. No two applications mint the same tag, and a tag is read back as what it was made of.
-/
theorem log_numbered (table : TagTable) (tokens : List Token) :
    (table.log tokens).foldlM (fun tokens application => application.replay? tokens) tokens =
      some (table.retag tokens) ∧
    (∀ ordinal place application,
      ((table.log tokens).filter (·.rule.ordinal == some ordinal))[place]? = some application →
        application.rule ∈ table.rules ∧ application.rule.ordinal = some ordinal ∧
        application.rule.replace? (joinTokens application.window) = some application.replacement ∧
        (∃ front last, application.replacement = front ++ [last] ∧
          application.written = front ++ [{ last with
            tag := SyntheticTag.display ⟨application.rule.base, ordinal, place + 1⟩ }]) ∧
        (ordinal ≤ maxWord → place + 1 ≤ maxWord →
          table.ruleFor (SyntheticTag.display ⟨application.rule.base, ordinal, place + 1⟩) =
            (table.rules.filter (·.ordinal == some ordinal)).getLast?)) ∧
    (∀ rule ordinal, table.rules.filter (·.ordinal == some ordinal) = [rule] →
      let own := (table.log tokens).filter (·.rule.ordinal == some ordinal)
      own.Pairwise Application.Precedes ∧ (∀ application ∈ own, application.rule = rule) ∧
      ∀ occurrence, ordinal ≤ maxWord → occurrence ≤ maxWord →
        table.ruleFor (SyntheticTag.display ⟨rule.base, ordinal, occurrence⟩) = some rule) ∧
    ((table.log tokens).filterMap Application.minted?).Nodup ∧
    ∀ (rule : TagRule) (ordinal occurrence : Nat), ordinal ≤ maxWord → occurrence ≤ maxWord →
      SyntheticTag.read (SyntheticTag.display ⟨rule.base, ordinal, occurrence⟩) =
        some ⟨rule.base, ordinal, occurrence⟩ := by
  refine ⟨table.replay_log tokens, ?_, ?_, nodup_minted?_log table tokens, ?_⟩
  · intro ordinal place application logged
    obtain ⟨member, own, found, written⟩ := getElem?_filter_log logged
    refine ⟨member, own, found, written, fun small small' => ?_⟩
    rw [ruleFor_display application.rule.base_nonempty, if_pos ⟨small, small'⟩,
      ruleByOrdinal_eq_getLast?]
  · intro rule ordinal only
    obtain ⟨start, logged⟩ := filter_logAll { tokens } only
    dsimp only
    rw [log, logged]
    exact ⟨(pairwise_precedes_log rule start).2, fun application => rule_of_mem_log,
      fun occurrence => ruleFor_minted only⟩
  · intro rule ordinal occurrence small small'
    rw [SyntheticTag.read_display_eq _ rule.base_nonempty, if_pos ⟨small, small'⟩]

/-- Two copies of one numbered rule that were registered again, without its label. -/
def copies : TagTable :=
  (build [.rule Registry.stripped, .rule { Registry.stripped with notes := some "again" }] 2).1

/--
Two such copies share the number that they bring along. So the first application of the second copy
is counted as the second one, and the tag of the first copy leads to the other.
-/
theorem not_log_numbered_copies :
    copies.retag [⟨"x", "A"⟩] = [⟨"x", "A#1.2"⟩] ∧
    (copies.log [⟨"x", "A"⟩]).map (fun application =>
        (application.rule.notes, application.rule.ordinal, application.minted?)) =
      [(none, some 1, some "A#1.1"), (some "again", some 1, some "A#1.2")] ∧
    (copies.ruleFor "A#1.1").map (·.notes) = some (some "again") := by
  decide +kernel

end TagTable

end Constituency
