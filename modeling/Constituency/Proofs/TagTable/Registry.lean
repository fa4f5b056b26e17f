import Constituency.Proofs.TagTable.Ordinals

/-!
# Tables from one counter

All tables draw the numbers of their rules from one counter, on whichever builder a rule is
registered and whether or not a text breaks off behind it. A registry holds what was called on the
builders so far. So the rules that have to be told apart get consecutive numbers in the order of
their registration, over all builders. They are the only rules with a number exactly if nobody
registers a rule that brings the number of an earlier registration along, and then each number leads
to one rule of one table.
-/
namespace Constituency

open Constituency.Text

/-! ### Calls on builders -/

/-- Registers an entry, with `next` as the first number that is free. -/
def TagEntry.register : TagEntry → Nat → TagEntry × Nat
  | .rule own, next => (.rule (own.register next).1, (own.register next).2)
  | other, next => (other, next)

/-- The number of a rule; other entries have none. -/
def TagEntry.ordinal? : TagEntry → Option Nat
  | .rule own => own.ordinal
  | _ => none

/-- What is done on the way to some tables. The builders are told apart by numbers. -/
inductive Making where
  | call (builder : Nat) (entry : TagEntry)
  /-- A text is read by a builder of its own, up to the first error. -/
  | text (builder : Nat) (content : String)

namespace Making

def builder : Making → Nat
  | .call builder _ => builder
  | .text builder _ => builder

/-- The calls that a making comes down to. -/
def calls : Making → List (Nat × TagEntry)
  | .call builder entry => [(builder, entry)]
  | .text builder content => (TagTable.entriesOf content).1.map (builder, ·)

/-- Whether a rule is registered that keeps the number of an earlier registration. -/
def bringsNumber : Making → Bool
  | .call _ (.rule rule) => rule.bringsNumber
  | _ => false

theorem builder_of_mem_calls {making : Making} {call : Nat × TagEntry}
    (member : call ∈ making.calls) : call.1 = making.builder := by
  cases making with
  | call builder entry => exact congrArg Prod.fst (List.mem_singleton.mp member)
  | text builder content =>
    obtain ⟨entry, -, rfl⟩ := List.mem_map.mp member
    rfl

/-- Only calls can bring numbers along. -/
theorem bringsNumber_eq_false_iff {makings : List Making} :
    (∀ making ∈ makings, making.bringsNumber = false) ↔
      ∀ rule ∈ TagTable.rulesOf ((makings.flatMap calls).map Prod.snd),
        rule.bringsNumber = false := by
  constructor
  · intro fresh rule member
    obtain ⟨call, called, entry⟩ := List.mem_map.mp (TagTable.mem_rulesOf.mp member)
    obtain ⟨making, listed, own⟩ := List.mem_flatMap.mp called
    cases making with
    | call builder given =>
      obtain rfl := List.mem_singleton.mp own
      obtain rfl : given = .rule rule := entry
      exact fresh _ listed
    | text builder content =>
      obtain ⟨given, spelled, rfl⟩ := List.mem_map.mp own
      obtain rfl : given = .rule rule := entry
      simp [NumberedRule.bringsNumber, TagTable.ordinal_of_mem_entriesOf spelled]
  · intro fresh making member
    cases making with
    | text builder content => rfl
    | call builder entry =>
      cases entry with
      | link name address => rfl
      | pos tag entry => rfl
      | rule rule =>
        have called : (builder, .rule rule) ∈ makings.flatMap Making.calls :=
          List.mem_flatMap.mpr ⟨_, member, List.mem_singleton_self _⟩
        exact fresh rule (TagTable.mem_rulesOf.mpr (List.mem_map.mpr ⟨_, called, rfl⟩))

end Making

/-- What was called on all builders so far, with the rules as they were registered. -/
structure Registry where
  calls : List (Nat × TagEntry) := []
  /-- The number of the next rule that has to be told apart. -/
  next : Nat

namespace Registry

open TagTable

def call (registry : Registry) : Nat × TagEntry → Registry
  | (builder, entry) =>
    { calls := registry.calls ++ [(builder, (entry.register registry.next).1)]
      next := (entry.register registry.next).2 }

def make (registry : Registry) (making : Making) : Registry := making.calls.foldl call registry

/-- Goes through some makings, with the numbers from `start` on. -/
def run (makings : List Making) (start : Nat) : Registry := makings.foldl make { next := start }

/-- What was called on the chosen builders. -/
def entries (registry : Registry) (chosen : Nat → Bool) : List TagEntry :=
  (registry.calls.filter (chosen ·.1)).map Prod.snd

/-- All rules in the order of their registration. -/
def rules (registry : Registry) : List NumberedRule := rulesOf (registry.entries fun _ => true)

/-- The table that a builder gives. -/
def tableOf (registry : Registry) (builder : Nat) : TagTable :=
  let own := registry.entries (· == builder)
  assemble (rulesOf own) own

variable {registry : Registry} {chosen : Nat → Bool} {calls : List (Nat × TagEntry)}

theorem run_eq_foldl_call (makings : List Making) (start : Nat) :
    run makings start = (makings.flatMap Making.calls).foldl call { next := start } := by
  rw [List.foldl_flatMap]
  rfl

theorem entries_call (registry : Registry) (builder : Nat) (entry : TagEntry) :
    (registry.call (builder, entry)).entries chosen = registry.entries chosen ++
      if chosen builder then [(entry.register registry.next).1] else [] := by
  rw [call, entries, entries, List.filter_append, List.map_append]
  by_cases own : chosen builder = true <;> simp [own]

/-- Calls on other builders leave a builder as it is. -/
theorem entries_foldl_call_of_others (others : ∀ call ∈ calls, chosen call.1 = false) :
    (calls.foldl call registry).entries chosen = registry.entries chosen := by
  induction calls generalizing registry with
  | nil => rfl
  | cons first rest ih =>
    obtain ⟨here, later⟩ := List.forall_mem_cons.mp others
    rw [List.foldl_cons, ih later, entries_call, here, if_neg Bool.false_ne_true, List.append_nil]

/-- Calls on chosen builders register their rules in order, and the other entries as they are. -/
theorem foldl_call (chosen : Nat → Bool) (registry : Registry)
    (all : ∀ call ∈ calls, chosen call.1 = true) :
    let own := calls.map Prod.snd
    let last := calls.foldl call registry
    rulesOf (last.entries chosen) =
        rulesOf (registry.entries chosen) ++ (number (rulesOf own) registry.next).1 ∧
      linksOf (last.entries chosen) = linksOf (registry.entries chosen) ++ linksOf own ∧
      glossaryOf (last.entries chosen) =
        glossaryOf (registry.entries chosen) ++ glossaryOf own ∧
      last.next = (number (rulesOf own) registry.next).2 := by
  induction calls generalizing registry with
  | nil => simp [rulesOf, linksOf, glossaryOf, number]
  | cons first rest ih =>
    obtain ⟨builder, entry⟩ := first
    obtain ⟨here, later⟩ := List.forall_mem_cons.mp all
    obtain ⟨rules, links, glossary, next⟩ := ih (registry.call (builder, entry)) later
    have here : chosen builder = true := here
    rw [entries_call, here, if_pos rfl] at rules links glossary
    dsimp only at rules links glossary next ⊢
    rw [List.foldl_cons, rules, links, glossary, next]
    cases entry <;>
      simp [rulesOf, linksOf, glossaryOf, number, call, TagEntry.register, List.filterMap_append]

/-- All rules of some makings are numbered as those of one list. -/
theorem rules_run (makings : List Making) (start : Nat) :
    let given := rulesOf ((makings.flatMap Making.calls).map Prod.snd)
    (run makings start).rules = (number given start).1 ∧
      (run makings start).next = (number given start).2 := by
  rw [run_eq_foldl_call]
  obtain ⟨rules, -, -, next⟩ :=
    foldl_call (fun _ => true) { next := start } fun _ _ => rfl
  exact ⟨rules, next⟩

/-- A builder on which everything is called in one go gives the table of its entries. -/
theorem tableOf_run {front own back : List Making} {builder : Nat} (start : Nat)
    (inside : ∀ making ∈ own, making.builder = builder)
    (others : ∀ making ∈ front ++ back, making.builder ≠ builder) :
    let entries := (own.flatMap Making.calls).map Prod.snd
    (run (front ++ own ++ back) start).tableOf builder =
        (build entries (run front start).next).1 ∧
      (run (front ++ own) start).next = (build entries (run front start).next).2 := by
  -- The calls in front and behind go to other builders, so they leave this one as it is.
  have apart {makings : List Making} (within : ∀ making ∈ makings, making ∈ front ++ back) :
      ∀ call ∈ makings.flatMap Making.calls, (call.1 == builder) = false := by
    intro call member
    obtain ⟨making, listed, called⟩ := List.mem_flatMap.mp member
    simpa [Making.builder_of_mem_calls called] using others making (within making listed)
  have mine : ∀ call ∈ own.flatMap Making.calls, (call.1 == builder) = true := by
    intro call member
    obtain ⟨making, listed, called⟩ := List.mem_flatMap.mp member
    simpa [Making.builder_of_mem_calls called] using inside making listed
  have empty : (run front start).entries (· == builder) = [] := by
    rw [run_eq_foldl_call]
    exact entries_foldl_call_of_others (apart fun making => List.mem_append_left back)
  have whole : run (front ++ own) start =
      (own.flatMap Making.calls).foldl call (run front start) := by
    rw [run_eq_foldl_call, run_eq_foldl_call, List.flatMap_append, List.foldl_append]
  have behind : (run (front ++ own ++ back) start).entries (· == builder) =
      (run (front ++ own) start).entries (· == builder) := by
    rw [run_eq_foldl_call, List.flatMap_append, List.foldl_append, ← run_eq_foldl_call]
    exact entries_foldl_call_of_others (apart fun making => List.mem_append_right front)
  obtain ⟨rules, links, glossary, next⟩ := foldl_call (· == builder) (run front start) mine
  rw [empty] at rules links glossary
  refine ⟨?_, whole ▸ next⟩
  simp only [tableOf, build, assemble, behind, whole, rules, links, glossary]
  rfl

/-- Calls in one go give the table that is built from their entries. -/
theorem build_eq {front back : List Making} {builder start : Nat} {entries : List TagEntry}
    (others : ∀ making ∈ front ++ back, making.builder ≠ builder) :
    TagTable.build entries (run front start).next =
      ((run (front ++ entries.map (.call builder) ++ back) start).tableOf builder,
        (run (front ++ entries.map (.call builder)) start).next) := by
  have inside : ∀ making ∈ entries.map (Making.call builder), making.builder = builder := by
    simp [Making.builder]
  have own : ((entries.map (Making.call builder)).flatMap Making.calls).map Prod.snd = entries := by
    simp [List.flatMap_map, List.map_flatMap, Making.calls]
  obtain ⟨table, free⟩ := tableOf_run start inside others
  rw [own] at table free
  exact (Prod.ext table free).symm

/-- A text in which no error is found gives the table that is read from it. -/
theorem read_eq {front back : List Making} {builder start : Nat} {content : String}
    (others : ∀ making ∈ front ++ back, making.builder ≠ builder) :
    TagTable.read content (run front start).next =
      (match (entriesOf content).2 with
        | none => .ok ((run (front ++ [.text builder content] ++ back) start).tableOf builder)
        | some error => .error error,
      (run (front ++ [.text builder content]) start).next) := by
  have inside : ∀ making ∈ [Making.text builder content], making.builder = builder := by
    simp [Making.builder]
  have own : ([Making.text builder content].flatMap Making.calls).map Prod.snd =
      (entriesOf content).1 := by
    simp [Making.calls, Function.comp_def]
  obtain ⟨table, free⟩ := tableOf_run start inside others
  rw [own] at table free
  rw [table, free]
  rfl

/-! ### Numbers in a registry -/

theorem filterMap_ordinal_rulesOf (calls : List (Nat × TagEntry)) :
    (rulesOf (calls.map Prod.snd)).filterMap NumberedRule.ordinal =
      calls.filterMap (·.2.ordinal?) := by
  rw [rulesOf, List.filterMap_map, List.filterMap_filterMap]
  refine List.filterMap_congr fun call _ => ?_
  obtain ⟨builder, entry⟩ := call
  cases entry <;> rfl

theorem ordinals_tableOf (registry : Registry) (builder : Nat) :
    ((registry.tableOf builder).rules.filterMap NumberedRule.ordinal).Perm
      ((registry.calls.filter (·.1 == builder)).filterMap (·.2.ordinal?)) :=
  (ordinals_rules_assemble ..).trans (.of_eq (filterMap_ordinal_rulesOf _))

theorem ordinals_rules (registry : Registry) :
    registry.rules.filterMap NumberedRule.ordinal = registry.calls.filterMap (·.2.ordinal?) := by
  rw [rules, entries, List.filter_true, filterMap_ordinal_rulesOf]

theorem unshared_tableOf (nodup : (registry.rules.filterMap NumberedRule.ordinal).Nodup)
    (builder : Nat) : (registry.tableOf builder).Unshared := by
  rw [ordinals_rules] at nodup
  exact (ordinals_tableOf registry builder).nodup_iff.mpr
    (nodup.sublist (List.filter_sublist.filterMap _))

/-- Where no number is given twice, two builders have none in common. -/
theorem isStrangeTo_tableOf (nodup : (registry.rules.filterMap NumberedRule.ordinal).Nodup)
    {builder other : Nat} (different : builder ≠ other) :
    (registry.tableOf builder).IsStrangeTo (registry.tableOf other) := by
  -- The calls on the one builder and all other calls share out the numbers, and each is there once.
  have parted := (List.filter_append_perm (·.1 == builder) registry.calls).filterMap (·.2.ordinal?)
  rw [List.filterMap_append] at parted
  rw [ordinals_rules] at nodup
  have apart := List.disjoint_of_nodup_append (parted.nodup_iff.mpr nodup)
  refine isStrangeTo_of_disjoint fun ordinal here there => ?_
  refine apart ((ordinals_tableOf registry builder).mem_iff.mp here) ?_
  obtain ⟨call, member, own⟩ :=
    List.mem_filterMap.mp ((ordinals_tableOf registry other).mem_iff.mp there)
  obtain ⟨listed, theirs⟩ := List.mem_filter.mp member
  have elsewhere : (!(call.1 == builder)) = true := by
    simpa [beq_iff_eq.mp theirs] using different.symm
  exact List.mem_filterMap.mpr ⟨call, List.mem_filter.mpr ⟨listed, elsewhere⟩, own⟩

/--
Whatever is called on several builders in turn, and whatever texts are read in between, also such as
break off: the rules are registered in the order of the calls, and those that rename, have a label
or have references get consecutive numbers in this order. These are the rules that have a number
exactly if no call brings one along. Then no two rules share a number, the numbers of a table lead
to the rules that have them and all other numbers nowhere, and no tag that its rules mint leads to a
rule of another table. A builder on which everything is called in one go gives the table that is
built from its entries, and a text the one that is read from it, both with the numbers from the next
one on.
-/
theorem run_numbered (makings : List Making) (start : Nat) :
    let registry := run makings start
    let given := rulesOf ((makings.flatMap Making.calls).map Prod.snd)
    registry.rules.map NumberedRule.toTagRule = given.map NumberedRule.toTagRule ∧
    (∃ count, (registry.rules.filter (·.isNumbered)).filterMap NumberedRule.ordinal =
        List.range' start count ∧ registry.next = start + count) ∧
    ((∀ rule ∈ registry.rules, rule.ordinal.isSome = true ↔
        rule.rename.isSome = true ∨ rule.label.isSome = true ∨ rule.refs ≠ []) ↔
      ∀ making ∈ makings, making.bringsNumber = false) ∧
    ((∀ making ∈ makings, making.bringsNumber = false) →
      (∃ count, registry.rules.filterMap NumberedRule.ordinal = List.range' start count ∧
        registry.next = start + count) ∧
      (registry.rules.filterMap NumberedRule.ordinal).Nodup ∧
      (∀ builder,
        (registry.tableOf builder).rules.Perm (rulesOf (registry.entries (· == builder))) ∧
        ∀ ordinal,
          (∀ rule, (registry.tableOf builder).ruleByOrdinal ordinal = some rule ↔
            rule ∈ (registry.tableOf builder).rules ∧ rule.ordinal = some ordinal) ∧
          ((registry.tableOf builder).ruleByOrdinal ordinal = none ↔
            ∀ rule ∈ (registry.tableOf builder).rules, rule.ordinal ≠ some ordinal)) ∧
      ∀ builder other, builder ≠ other →
        (registry.tableOf builder).IsStrangeTo (registry.tableOf other)) ∧
    ∀ front own back builder, makings = front ++ own ++ back →
      (∀ making ∈ front ++ back, making.builder ≠ builder) →
      (∀ entries, own = entries.map (Making.call builder) →
        TagTable.build entries (run front start).next =
          (registry.tableOf builder, (run (front ++ own) start).next)) ∧
      ∀ content, own = [.text builder content] →
        TagTable.read content (run front start).next =
          (match (entriesOf content).2 with
            | none => .ok (registry.tableOf builder)
            | some error => .error error,
          (run (front ++ own) start).next) := by
  intro registry given
  obtain ⟨rules, next⟩ : registry.rules = (number given start).1 ∧
      registry.next = (number given start).2 := rules_run makings start
  have numbered (rule : NumberedRule) : (rule.ordinal.isSome = rule.isNumbered) ↔
      (rule.ordinal.isSome = true ↔
        rule.rename.isSome = true ∨ rule.label.isSome = true ∨ rule.refs ≠ []) := by
    rw [Bool.eq_iff_iff, TagRule.isNumbered]
    cases rule.rename <;> cases rule.label <;> simp
  -- All numbers that are there have been drawn if none is brought along, so they differ.
  refine ⟨rules ▸ toTagRule_number given start, ?_, ?_, fun fresh => ?_, ?_⟩
  · obtain ⟨count, ordinals, free⟩ := ordinals_number given start
    exact ⟨count, rules ▸ ordinals, next.trans free⟩
  · rw [Making.bringsNumber_eq_false_iff, rules, ← isSome_ordinal_number_iff]
    exact forall₂_congr fun rule _ => (numbered rule).symm
  · obtain ⟨count, ordinals, free⟩ :=
      ordinals_number_of_fresh (Making.bringsNumber_eq_false_iff.mp fresh) start
    have nodup : (registry.rules.filterMap NumberedRule.ordinal).Nodup :=
      rules ▸ ordinals ▸ List.nodup_range'
    refine ⟨⟨count, rules ▸ ordinals, next.trans free⟩, nodup, fun builder => ?_,
      fun builder other => isStrangeTo_tableOf nodup⟩
    exact ⟨NumberedRule.sort_perm _, fun ordinal =>
      ⟨fun rule => (unshared_tableOf nodup builder).ruleByOrdinal_eq_some_iff,
        ruleByOrdinal_eq_none_iff⟩⟩
  · rintro front own back builder rfl others
    exact ⟨fun entries => by rintro rfl; exact build_eq others,
      fun content => by rintro rfl; exact read_eq others⟩

/-- Two builders in turn, and a text between the calls that breaks off behind its rule. -/
def interleaved : List Making :=
  [.call 0 (.rule (TagRule.of "꽃:NNG" "꽃:N" |>.withLabel "flower")),
   .call 1 (.rule (TagRule.of "들:XSN" "들:PLU" |>.withLabel "plural suffix")),
   .text 2 "map \"기:ETN\" -> \"기:GNOM\" [ label: \"nominalizer\" ]",
   .call 0 (.rule (TagRule.of "와:JC" "와:CON")),
   .call 0 (.rule (TagRule.of "은:JX" "은:TOP" |>.withLabel "topic marker"))]

theorem run_numbered_interleaved :
    (∀ making ∈ interleaved, making.bringsNumber = false) ∧ (run interleaved 7).next = 11 ∧
      ((run interleaved 7).rules.filterMap NumberedRule.ordinal).Nodup ∧
      ((run interleaved 7).tableOf 0).IsStrangeTo ((run interleaved 7).tableOf 1) := by
  have fresh : ∀ making ∈ interleaved, making.bringsNumber = false := by decide +kernel
  have next : (run interleaved 7).next = 11 := by decide +kernel
  obtain ⟨-, nodup, -, strange⟩ := (run_numbered interleaved 7).2.2.2.1 fresh
  exact ⟨fresh, next, nodup, strange 0 1 (by decide)⟩

/-- A rule that has to be told apart by its label, and how the first table holds it. -/
def labelled : TagRule := TagRule.of "(.+):A.*" "$\x7b1\x7d:A" |>.withLabel "x"

def numbered : NumberedRule := { labelled with ordinal := some 1 }

/-- A copy of the numbered rule without its label. -/
def stripped : NumberedRule := { numbered with label := none }

/--
Where a copy of a numbered rule is registered for another table without its label, there is nothing
to tell it apart for, and yet it has a number. This is the number of the first rule, and the tags of
the first table lead to the copy.
-/
theorem not_numbered_stripped :
    let registry := run [.call 0 (.rule labelled), .call 1 (.rule stripped)] 1
    (registry.tableOf 0).rules = [numbered] ∧ (registry.tableOf 1).rules = [stripped] ∧
      stripped.isNumbered = false ∧ stripped.ordinal = some 1 ∧
      ¬ (registry.rules.filterMap NumberedRule.ordinal).Nodup ∧
      (registry.tableOf 0).retag [⟨"x", "A"⟩] = [⟨"x", "A#1.1"⟩] ∧
      (registry.tableOf 1).ruleFor "A#1.1" = some stripped := by
  intro registry
  have mustNumber : labelled.isNumbered = true := by decide +kernel
  have mustNot : stripped.isNumbered = false := by decide +kernel
  have calls : registry.calls = [(0, .rule numbered), (1, .rule stripped)] := by
    simp only [registry, run, make, Making.calls, call, TagEntry.register, NumberedRule.register,
      List.foldl_cons, List.foldl_nil, mustNumber, mustNot, if_true]
    rfl
  have first : (registry.tableOf 0).rules = [numbered] := by
    simp only [tableOf, entries, calls]
    rfl
  have second : (registry.tableOf 1).rules = [stripped] := by
    simp only [tableOf, entries, calls]
    rfl
  have shared : ¬ (registry.rules.filterMap NumberedRule.ordinal).Nodup := by
    have ordinals : registry.calls.filterMap (·.2.ordinal?) = [1, 1] := by
      rw [calls]
      rfl
    rw [ordinals_rules, ordinals]
    decide
  have minted : (registry.tableOf 0).retag [⟨"x", "A"⟩] = [⟨"x", "A#1.1"⟩] := by decide +kernel
  have tag : SyntheticTag.read "A#1.1" = some ⟨"A", 1, 1⟩ := by decide +kernel
  have found : (registry.tableOf 1).ruleFor "A#1.1" = some stripped := by
    have only : (registry.tableOf 1).rules.filter (·.ordinal == some 1) = [stripped] := by
      rw [second]
      rfl
    simp only [ruleFor, tag, bind, Option.bind_some, ruleByOrdinal_of_filter only]
  exact ⟨first, second, mustNot, rfl, shared, minted, found⟩

end Registry

end Constituency
