import Constituency.Accepted
import Constituency.CommandLine
import Constituency.Proofs.Text.Lines

/-!
# Sessions

A session is the sum of its lines. The program asks for a line, reads up to the next line feed or to
the end, answers, and goes on until it reads nothing at all; an empty line is not the end, because
its line feed is read. What it writes is what it writes for each of the lines in turn. A line that
is no list of tokens is reported and changes nothing for the others, and a sentence that cannot be
parsed is reported in its place among the other sentences of its line.
-/
namespace Constituency.CommandLine

open Constituency.Text

/-! ### Reading line by line -/

/-- Takes the next line with the line feed that ends it; only where nothing is left, it is empty. -/
def takeLine : List Char → List Char × List Char
  | [] => ([], [])
  | c :: rest =>
    if c = '\n' then ([c], rest)
    else match takeLine rest with
      | (line, after) => (c :: line, after)

theorem takeLine_append_takeLine (text : List Char) :
    (takeLine text).1 ++ (takeLine text).2 = text := by
  induction text with
  | nil => rfl
  | cons c rest ih =>
    rw [takeLine]
    split
    · rfl
    · exact congrArg (c :: ·) ih

theorem takeLine_of_not_mem {line : List Char} (inner : '\n' ∉ line) :
    takeLine line = (line, []) := by
  induction line with
  | nil => rfl
  | cons c rest ih =>
    obtain ⟨other, inner⟩ := List.ne_and_not_mem_of_not_mem_cons inner
    rw [takeLine, if_neg other.symm, ih inner]

theorem takeLine_append {line : List Char} (inner : '\n' ∉ line) (rest : List Char) :
    takeLine (line ++ '\n' :: rest) = (line ++ ['\n'], rest) := by
  induction line with
  | nil => rfl
  | cons c more ih =>
    obtain ⟨other, inner⟩ := List.ne_and_not_mem_of_not_mem_cons inner
    rw [List.cons_append, takeLine, if_neg other.symm, ih inner]
    rfl

section Session

variable (analyzer : Analyzer) (options : AnalyzeOptions)

/-- Asks for a line, reads it and answers it, until what is read is empty. -/
def converse (input : List Char) : Output :=
  match _ : takeLine input with
  | ([], _) => prompt
  | (c :: line, rest) =>
    prompt ++ respond analyzer options (String.ofList (c :: line)) ++ converse rest
termination_by input.length
decreasing_by
  rename_i cut
  have whole := takeLine_append_takeLine input
  rw [cut] at whole
  simp only [← whole, List.length_append, List.length_cons]
  omega

end Session

/-! ### Answers -/

section Answers

variable {analyzer : Analyzer} {options : AnalyzeOptions}

/-- Blanks around a line do not matter for the answer. -/
theorem respond_congr {input other : String} (same : trim input.toList = trim other.toList) :
    respond analyzer options input = respond analyzer options other := by
  rw [respond, respond, same]

theorem respond_of_error {input : String} {error : TokenError}
    (rejected : readTokens (String.ofList (trim input.toList)) = .error error) :
    respond analyzer options input = { out := "", err := error.message ++ "\n" } := by
  rw [respond, rejected]
  rfl

theorem displayResult_eq (result : Except ParseError Analysis) :
    displayResult result =
      match result with
      | .ok analysis => displayAnalysis analysis
      | .error error => "no parse: " ++ error.message ++ "\n\n" := by
  cases result with
  | ok analysis => rfl
  | error error =>
    simp only [displayResult, line, String.append_assoc]
    rfl

theorem respond_of_ok {input : String} {tokens : List Token}
    (read : readTokens (String.ofList (trim input.toList)) = .ok tokens) :
    respond analyzer options input = {
      out := String.join ((splitSentences tokens).map fun sentence =>
        match analyzer.analyze sentence options with
        | .ok analysis => displayAnalysis analysis
        | .error error => "no parse: " ++ error.message ++ "\n\n")
      err := "" } := by
  rw [respond, read]
  simp only [Analyzer.analyzeText, List.map_map, Function.comp_def, displayResult_eq]

/-! ### Sums of lines -/

/-- Lines that are the same but for blanks around them have the same session. -/
theorem session_congr {inputs others : List String}
    (same : inputs.map (trim ∘ String.toList) = others.map (trim ∘ String.toList)) :
    session analyzer options inputs = session analyzer options others := by
  induction inputs generalizing others with
  | nil =>
    obtain rfl := List.map_eq_nil_iff.mp same.symm
    rfl
  | cons input rest ih =>
    cases others with
    | nil => contradiction
    | cons other others =>
      obtain ⟨first, more⟩ := List.cons.inj same
      rw [session, session, respond_congr first, ih more]

theorem session_eq_sum (inputs : List String) :
    session analyzer options inputs =
      { out := String.join (inputs.map fun input =>
          prompt.out ++ (respond analyzer options input).out) ++ prompt.out,
        err := String.join (inputs.map fun input => (respond analyzer options input).err) } := by
  induction inputs with
  | nil => rfl
  | cons input rest ih =>
    rw [session, ih, List.map_cons, List.map_cons, String.join_cons, String.join_cons]
    show Output.mk (prompt.out ++ (respond analyzer options input).out ++ _)
      (prompt.err ++ (respond analyzer options input).err ++ _) = _
    simp [prompt, String.append_assoc]

theorem exists_lined_toList (input : String) :
    ∃ lines : List String, Lined input.toList (lines.map String.toList) := by
  obtain ⟨lines, lined⟩ := exists_lined input.toList
  refine ⟨lines.map String.ofList, ?_⟩
  simpa [Function.comp_def] using lined

/-- The carriage return that a line feed takes along makes no difference. -/
theorem session_inputLines {input : String} {lines : List String}
    (lined : Lined input.toList (lines.map String.toList)) :
    session analyzer options (inputLines input) = session analyzer options lines := by
  apply session_congr
  have trimmed := lined.map_trim_lines
  simpa [inputLines, Function.comp_def] using trimmed

theorem converse_of_takeLine {input line rest : List Char} (some : line ≠ [])
    (cut : takeLine input = (line, rest)) :
    converse analyzer options input =
      prompt ++ respond analyzer options (String.ofList line) ++
        converse analyzer options rest := by
  rw [converse]
  split
  next cut' =>
    rw [cut] at cut'
    exact absurd (Prod.mk.inj cut').1 some
  next cut' =>
    rw [cut] at cut'
    obtain ⟨rfl, rfl⟩ := Prod.mk.inj cut'
    rfl

theorem converse_eq_session {input : List Char} {lines : List (List Char)}
    (lined : Lined input lines) :
    converse analyzer options input = session analyzer options (lines.map String.ofList) := by
  induction lined with
  | none =>
    rw [converse]
    rfl
  | unended some inner =>
    rw [converse_of_takeLine some (takeLine_of_not_mem inner), converse]
    rfl
  | @ended line rest others inner more ih =>
    -- The line is read with its line feed, which is trimmed like any other blank.
    have trimmed : trim (String.ofList (line ++ ['\n'])).toList =
        trim (String.ofList line).toList := by
      rw [String.toList_ofList, String.toList_ofList]
      exact trim_append_of_isBlankText line (by decide)
    rw [converse_of_takeLine (by simp) (takeLine_append inner rest), ih, respond_congr trimmed]
    rfl

end Answers

/--
A session is the sum of its lines. Where the arguments ask for an analysis and the files load, the
program answers every input without failing: it writes, line by line, the prompt and the output of
that line, and a last prompt. The output of a line is a function of that line alone. A line that is
no list of tokens has an error message and no output; otherwise there is, sentence by sentence, the
analysis or the reason why there is none.
-/
theorem run_eq_sum {arguments : List String} {files : Files} {invocation : Invocation}
    {analyzer : Analyzer} (asked : readArguments {} arguments = .ok (.analyze invocation))
    (loaded : load files invocation = .ok analyzer) :
    let answer := respond analyzer invocation.options
    (∀ input : String, ∃ lines : List String,
      (∀ others : List String, Lined input.toList (others.map String.toList) ↔ others = lines) ∧
      run arguments files input = {
        code := 0
        output := {
          out := String.join (lines.map fun line => "> " ++ (answer line).out) ++ "> "
          err := String.join (lines.map fun line => (answer line).err) } }) ∧
    (∀ input : String,
      (run arguments files input).output = converse analyzer invocation.options input.toList) ∧
    ∀ line : String,
      (∀ error, readTokens (String.ofList (trim line.toList)) = .error error →
        answer line = { out := "", err := error.message ++ "\n" }) ∧
      ∀ tokens, readTokens (String.ofList (trim line.toList)) = .ok tokens →
        answer line = {
          out := String.join ((splitSentences tokens).map fun sentence =>
            match analyzer.analyze sentence invocation.options with
            | .ok analysis => displayAnalysis analysis
            | .error error => "no parse: " ++ error.message ++ "\n\n")
          err := "" } := by
  intro answer
  have opened : openSession arguments files = .session analyzer invocation.options := by
    simp only [openSession, asked, loaded]
  have ran (input : String) : run arguments files input =
      ⟨0, session analyzer invocation.options (inputLines input)⟩ := by
    simp only [run, opened]
  -- An input has one list of lines, which the loop reads and the session answers.
  refine ⟨fun input => ?_, fun input => ?_,
    fun line => ⟨fun error => respond_of_error, fun tokens => respond_of_ok⟩⟩
  · obtain ⟨lines, lined⟩ := exists_lined_toList input
    refine ⟨lines, fun others => ⟨fun again => ?_, fun same => same ▸ lined⟩, ?_⟩
    · simpa [Function.comp_def] using congrArg (List.map String.ofList) (lined.unique again)
    · rw [ran, session_inputLines lined, session_eq_sum]
      rfl
  · obtain ⟨lines, lined⟩ := exists_lined_toList input
    rw [ran, converse_eq_session lined, session_inputLines lined]
    simp [Function.comp_def]

/-- Files of a grammar that knows nouns and full stops, and of an empty tag table. -/
def nounFiles : Files := fun path =>
  if path = "nouns.grammar" then
    .ok "Sentence -> Noun+ End?;\nNoun -> /NN.*/;\nEnd -> /SF/;\n"
  else if path = "nouns.tagmap" then .ok ""
  else .error .notFound

def nounArguments : List String := ["-g", "nouns.grammar", "-t", "nouns.tagmap"]

def nounInvocation : Invocation :=
  { grammarFile := some "nouns.grammar", tagFile := some "nouns.tagmap" }

def nounAnalyzer : Analyzer := accepted (load nounFiles nounInvocation) (by decide +kernel)

/-- A verb that no rule knows, an empty line, a line without a tag, and one without a line feed. -/
theorem run_eq_sum_nouns :
    readArguments {} nounArguments = .ok (.analyze nounInvocation) ∧
    load nounFiles nounInvocation = .ok nounAnalyzer ∧
    run nounArguments nounFiles "밥:NNG;.:SF;가:VV\n\n밥\r\n밥:NNG" = {
      code := 0
      output := {
        out := "> tags: 밥:NNG;.:SF\n(0..1: Sentence (0..1: 밥:NNG))\nphrases:\n  밥:NNG\n\n" ++
          "no parse: unexpected 가:VV at position 0\n\n" ++ "> " ++ "> " ++
          "> tags: 밥:NNG\n(0..1: Sentence (0..1: 밥:NNG))\nphrases:\n  밥:NNG\n\n" ++ "> "
        err := "token needs a word:tag form, got \"밥\"\n" } } := by
  have asked : readArguments {} nounArguments = .ok (.analyze nounInvocation) := by cbv
  have loaded : load nounFiles nounInvocation = .ok nounAnalyzer := eq_ok_accepted _
  have input : "밥:NNG;.:SF;가:VV\n\n밥\r\n밥:NNG".toList =
      "밥:NNG;.:SF;가:VV".toList ++ '\n' :: ("".toList ++ '\n' :: ("밥\r".toList ++ '\n' ::
        "밥:NNG".toList)) := by decide +kernel
  have lined : Lined "밥:NNG;.:SF;가:VV\n\n밥\r\n밥:NNG".toList
      (["밥:NNG;.:SF;가:VV", "", "밥\r", "밥:NNG"].map String.toList) := by
    rw [input]
    exact .ended (by decide) (.ended (by decide) (.ended (by decide)
      (.unended (by decide) (by decide))))
  obtain ⟨lines, only, ran⟩ := (run_eq_sum asked loaded).1 "밥:NNG;.:SF;가:VV\n\n밥\r\n밥:NNG"
  obtain rfl := (only _).mp lined
  refine ⟨asked, loaded, ran.trans ?_⟩
  decide +kernel

end Constituency.CommandLine
