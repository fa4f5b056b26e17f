import Constituency.Accepted
import Constituency.Proofs.Regex.Separators
import Constituency.Proofs.Token.RoundTrip

/-!
# What spans promise

The span of a pattern is read off its text by a scan of its own, which knows of groups,
alternatives, escapes and classes, and of nothing else: a repetition leaves the count as it is. Where
the text is cut into parts by the scan as it is by the reader, and nothing with a separator in it is
repeated, each text that the pattern accepts holds one separator less than the span.
-/
namespace Constituency

open Constituency.Text

namespace Regex.Form

open PatternSpan

/-! ### Texts that the scan passes over -/

/-- Whether a text ends outside of a class, with nothing that counts outside of one. -/
def isPassed (inClass : Bool) : List Char → Bool
  | [] => !inClass
  | '\\' :: _ :: rest => isPassed inClass rest
  | c :: rest =>
    c != '\\' && (inClass || ['(', ')', '|', ';'].all (c != ·)) &&
      isPassed (if inClass then c != ']' else c == '[') rest

def arePassed (marks : List Repetition) : Bool := isPassed false (writeMarks marks)

/-- Whether the scan takes each part of a form for one. -/
def isCalm : Form → Bool
  | done => true
  | gap text rest => isPassed false text && rest.isCalm
  | atom text _ marks rest =>
    (text = [';'] || isPassed false text) && arePassed marks && rest.isCalm
  | flags text rest => text.getLast? = some ')' && isPassed false text.dropLast && rest.isCalm
  | group opening _ inside marks rest =>
    isPassed false opening && inside.isCalm && arePassed marks && rest.isCalm
  | bar rest => rest.isCalm

variable {count : Count} {outer : List Count} {text : List Char}

/-- Inside of a class and outside of it, the scan counts nothing in such a text. -/
theorem foldlM_isPassed {inClass : Bool} (passed : isPassed inClass text = true) :
    text.foldlM step { inner := count, outer := outer, inClass := inClass } =
      some { inner := count, outer := outer } := by
  fun_induction isPassed inClass text with
  | case1 inClass =>
    obtain rfl : inClass = false := by simpa using passed
    rfl
  | case2 inClass c rest ih => exact ih passed
  | case3 inClass c rest notEscape ih =>
    simp only [Bool.and_eq_true, Bool.or_eq_true, bne_iff_ne, ne_eq] at passed
    obtain ⟨⟨other, plain⟩, passed⟩ := passed
    have stepped : step { inner := count, outer := outer, inClass := inClass } c =
        some {
          inner := count
          outer := outer
          inClass := if inClass then c != ']' else c == '[' } := by
      cases inClass with
      | true => simp [step, other]
      | false =>
        simp only [Bool.false_eq_true, false_or, List.all_cons, List.all_nil, Bool.and_true,
          Bool.and_eq_true, bne_iff_ne, ne_eq] at plain
        by_cases opens : c = '['
        · simp [step, opens]
        · simp [step, other, opens, plain]
    rw [List.foldlM_cons, stepped]
    exact ih passed

theorem step_open : step { inner := count, outer := outer } '(' =
    some { inner := {}, outer := count :: outer } := rfl

theorem step_close {around : Count} :
    step { inner := count, outer := around :: outer } ')' = count.close.map fun n =>
      { inner := { around with current := around.current + n }, outer := outer } := by
  cases closed : count.close <;> simp [step, closed]

theorem step_bar : step { inner := count, outer := outer } '|' = count.close.map fun n =>
    { inner := { finished := some n }, outer := outer } := by
  cases closed : count.close <;> simp [step, closed]

theorem foldlM_own (single : text = [';'] ∨ isPassed false text = true) :
    text.foldlM step { inner := count, outer := outer } =
      some { inner := { count with current := count.current + own text }, outer := outer } := by
  by_cases same : text = [';']
  · subst same
    rfl
  · rw [own, if_neg same]
    exact foldlM_isPassed (single.resolve_left same)

/-- The scan counts along the form. -/
theorem foldlM_write {form : Form} (calm : form.isCalm = true) :
    form.write.foldlM step { inner := count, outer := outer } =
      (form.scan count).map fun count => { inner := count, outer := outer } := by
  induction form generalizing count outer with
  | done => rfl
  | gap text rest ih =>
    rw [isCalm, Bool.and_eq_true] at calm
    rw [write, List.foldlM_append, foldlM_isPassed calm.1]
    exact ih calm.2
  | atom text part marks rest ih =>
    simp only [isCalm, arePassed, Bool.and_eq_true, Bool.or_eq_true, decide_eq_true_eq] at calm
    obtain ⟨⟨own, marks⟩, calm⟩ := calm
    rw [write, List.foldlM_append, foldlM_own own, Option.bind_eq_bind, Option.bind_some,
      List.foldlM_append, foldlM_isPassed marks]
    exact ih calm
  | flags text rest ih =>
    simp only [isCalm, Bool.and_eq_true, decide_eq_true_eq] at calm
    obtain ⟨⟨last, ordinary⟩, calm⟩ := calm
    -- The scan opens a group for the flags and closes it again, with no separator in it.
    obtain ⟨front, rfl⟩ := List.getLast?_eq_some_iff.mp last
    rw [List.dropLast_concat] at ordinary
    rw [write, List.foldlM_cons, step_open, Option.bind_eq_bind, Option.bind_some, List.append_assoc,
      List.foldlM_append, foldlM_isPassed ordinary, Option.bind_eq_bind, Option.bind_some,
      List.singleton_append, List.foldlM_cons, step_close]
    exact ih calm
  | group opening index inside marks rest ihInside ihRest =>
    simp only [isCalm, arePassed, Bool.and_eq_true] at calm
    obtain ⟨⟨⟨ordinary, calmInside⟩, calmMarks⟩, calm⟩ := calm
    rw [write, List.foldlM_cons, step_open, Option.bind_eq_bind, Option.bind_some,
      List.foldlM_append, foldlM_isPassed ordinary, Option.bind_eq_bind, Option.bind_some,
      List.foldlM_append, ihInside calmInside, scan]
    cases inside.scan {} with
    | none => rfl
    | some last =>
      -- Behind the group its count is added to that of the group around it.
      rw [Option.map_some, Option.bind_eq_bind, Option.bind_some, List.foldlM_cons, step_close]
      cases closed : last.close with
      | none => simp [closed]
      | some n =>
        rw [Option.map_some, Option.bind_eq_bind, Option.bind_some, List.foldlM_append,
          foldlM_isPassed calmMarks]
        simpa [closed] using ihRest calm
  | bar rest ih =>
    rw [write, List.foldlM_cons, step_bar, scan]
    cases count.close with
    | none => rfl
    | some n => exact ih calm

theorem patternSpan_write {form : Form} (calm : form.isCalm = true) :
    patternSpan form.write = form.separators.map (· + 1) := by
  rw [patternSpan, show State.mk {} [] false false = { inner := {}, outer := [] } from rfl,
    foldlM_write calm, separators]
  cases form.scan {} with
  | none => rfl
  | some final => cases closed : final.close <;> simp [closed]

end Regex.Form

/-- What a pattern accepts holds what each match of its source does. -/
theorem Pattern.count_of_accepts {pattern : Pattern} {part : Regex.Part}
    {names : List (Option String)}
    (read : Regex.readPattern pattern.source.toList = .ok (part, names)) {n : Nat}
    (held : part.node.Holds n) {text : String} (accepted : pattern.accepts text = true) :
    text.toList.count ';' = n := by
  rcases Regex.readPattern_of_read pattern.read_source with
    unopened | ⟨part', names', read', -, framed⟩
  · -- The limits of an expression are the only way to fail that is left.
    rw [Regex.read_eq, read] at unopened
    simp only [bind, Except.bind] at unopened
    split at unopened
    next => cases unopened
    next => split at unopened <;> cases unopened
  · obtain ⟨rfl, rfl⟩ := Prod.mk.inj (Except.ok.inj (read.symm.trans read'))
    obtain ⟨start, stop, saved, matched⟩ := exists_matches_of_accepts accepted
    rw [framed, matches_framed] at matched
    have counted := held matched.2.2
    rwa [Regex.stretch_whole, List.toList_toArray] at counted

/-! ### Windows -/

theorem count_intercalate {sep : Char} {parts : List (List Char)} (some : parts ≠ [])
    (absent : ∀ part ∈ parts, sep ∉ part) :
    ([sep].intercalate parts).count sep + 1 = parts.length := by
  induction parts with
  | nil => contradiction
  | cons part others ih =>
    obtain ⟨here, later⟩ := List.forall_mem_cons.mp absent
    cases others with
    | nil => rw [List.intercalate_singleton, List.count_eq_zero.mpr here]; rfl
    | cons next others =>
      rw [List.intercalate_cons_cons, List.count_append, List.count_append,
        List.count_eq_zero.mpr here, List.count_singleton_self, List.length_cons,
        ← ih (by simp) later]
      omega

/-- A window of tokens without separators in them holds one less than it has tokens. -/
theorem count_joinTokens {window : List Token} (some : window ≠ [])
    (whole : ∀ token ∈ window, ';' ∉ token.display.toList) :
    (joinTokens window).toList.count ';' + 1 = window.length := by
  rw [toList_joinTokens, displays, count_intercalate (by simpa using some)
    (List.forall_mem_map.mpr whole), List.length_map]

/-! ### Rules -/

namespace Pattern

/--
The span of a rule counts the tokens of all texts and windows that its pattern accepts, and a
pattern that accepts texts of different counts makes no rule.
-/
structure SpansExactly (pattern : Pattern) : Prop where
  texts : ∀ rule : TagRule, rule.pattern = pattern → ∀ text : String,
    pattern.accepts text = true → text.toList.count ';' + 1 = rule.span
  windows : ∀ rule : TagRule, rule.pattern = pattern → ∀ window : List Token, window ≠ [] →
    (∀ token ∈ window, ';' ∉ token.display.toList) →
      pattern.accepts (joinTokens window) = true → window.length = rule.span
  uneven : ∀ text other : String, pattern.accepts text = true → pattern.accepts other = true →
    text.toList.count ';' ≠ other.toList.count ';' → ∀ replacement,
      TagRule.ofTexts pattern.source replacement = .error (.unevenAlternatives pattern.source)

variable {pattern : Pattern}

/-- A pattern without a span makes no rule. -/
theorem ofTexts_of_patternSpan (none : patternSpan pattern.source.toList = none)
    (replacement : String) : TagRule.ofTexts pattern.source replacement =
      .error (.unevenAlternatives pattern.source) := by
  unfold TagRule.ofTexts
  split
  next error failed => exact absurd (failed.symm.trans pattern.read_self) (by simp)
  next again read =>
    obtain rfl := Except.ok.inj (read.symm.trans pattern.read_self)
    split
    next => rfl
    next n counted => exact absurd (counted.symm.trans none) (by simp)

/-- A span is exact where it counts what all matches hold, if they hold the same. -/
theorem SpansExactly.of_span {count : Option Nat}
    (span : patternSpan pattern.source.toList = count.map (· + 1))
    (held : ∀ n ∈ count, ∀ text : String, pattern.accepts text = true →
      text.toList.count ';' = n) : pattern.SpansExactly := by
  have texts (rule : TagRule) (same : rule.pattern = pattern) (text : String)
      (accepted : pattern.accepts text = true) : text.toList.count ';' + 1 = rule.span := by
    subst same
    obtain ⟨n, counted, spans⟩ := Option.map_eq_some_iff.mp (span.symm.trans rule.span_eq)
    rw [held n counted text accepted, spans]
  refine ⟨texts, fun rule same window some whole accepted => ?_,
    fun text other accepted accepted' different => ofTexts_of_patternSpan ?_⟩
  · rw [← count_joinTokens some whole, texts rule same _ accepted]
  · cases count with
    | none => exact span
    | some n =>
      exact absurd ((held n rfl text accepted).trans (held n rfl other accepted').symm) different

/--
A source that is a regular expression on its own has a form. Its span is exact if only semicolons
that stand for themselves match one in it, nothing with one in it is repeated, and the scan takes
each part of it for one.
-/
theorem spansExactly_of_form (regular : (Regex.read pattern.source.toList).isOk = true) :
    ∃ form, Regex.formOf pattern.source.toList = .ok form ∧
      (form.isLiteral = true → form.isSteady = true → form.isCalm = true →
        pattern.SpansExactly) := by
  obtain ⟨part, names, read⟩ :
      ∃ part names, Regex.readPattern pattern.source.toList = .ok (part, names) := by
    rw [Regex.read_eq] at regular
    cases read : Regex.readPattern pattern.source.toList with
    | error error => rw [read] at regular; contradiction
    | ok result => exact ⟨_, _, rfl⟩
  obtain ⟨form, formed, written, isRead, rfl⟩ := Regex.exists_formOf read
  refine ⟨form, formed, fun literal steady calm => ?_⟩
  have span : patternSpan pattern.source.toList = form.separators.map (· + 1) := by
    rw [← written, Regex.Form.patternSpan_write calm]
  exact .of_span span fun n counted text =>
    count_of_accepts read (Regex.Form.holds_alternatives isRead literal steady counted)

/-- A pattern with groups, alternatives, classes, an escape and a repetition. -/
def verbPattern : Pattern :=
  .of "(?P<stem>[^:;[:digit:]]+):V[AV];(?:게|하\\x\x7b6C\x7d)\x7b1\x7d:(EC|EF)?"

def verbForm : Regex.Form :=
  accepted (Regex.formOf verbPattern.source.toList) (by decide +kernel)

theorem spansExactly_verbPattern : (Regex.read verbPattern.source.toList).isOk = true ∧
    verbPattern.accepts "예쁘:VA;게:EC" = true ∧ verbPattern.SpansExactly := by
  have regular : (Regex.read verbPattern.source.toList).isOk = true := by decide +kernel
  have accepted : verbPattern.accepts "예쁘:VA;게:EC" = true := by decide +kernel
  have conditions : verbForm.isLiteral = true ∧ verbForm.isSteady = true ∧
      verbForm.isCalm = true := by
    decide +kernel
  obtain ⟨form, formed, spans⟩ := spansExactly_of_form regular
  have read : Regex.formOf verbPattern.source.toList = .ok verbForm := eq_ok_accepted _
  have same := Except.ok.inj (formed.symm.trans read)
  rw [same] at spans
  exact ⟨regular, accepted, spans conditions.1 conditions.2.1 conditions.2.2⟩

end Pattern

/-- A rule for two tokens with the tag `B` behind one with the tag `A`. -/
def repeatedRule : TagRule := .of "a:A(?:;b:B)\x7b2\x7d" "x:X"

/-- The span of that rule is that of one round, so it is never tried on what it accepts. -/
theorem span_repeatedRule : repeatedRule.span = 2 ∧
    repeatedRule.pattern.accepts "a:A;b:B;b:B" = true ∧
      repeatedRule.pattern.accepts "a:A;b:B" = false := by
  decide +kernel

end Constituency
