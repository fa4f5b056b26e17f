import Constituency.Korean.Grammar
import Constituency.Proofs.Parser.Leading
import Constituency.Proofs.Parser.Once

/-!
# The Korean grammar and the guard

The Korean productions call each other in circles, but no circle closes before a token is consumed:
along leading references there is a depth that decreases. So the guard never strikes, a parser with
a memory keeps every outcome, and the body of a production is evaluated at a position at most once,
however long the sentence is and however often the parser is called.
-/
namespace Constituency.Korean

/-- No circle of productions closes in front of a token; the depths are computed from the rules. -/
theorem ranked : grammar.Ranked (leadingDepth grammar.rules grammar.rules.length) :=
  .of_isRanked (by decide +kernel)

/--
With the Korean grammar the guard is silent, whatever is called and with or without a memory. With
a memory every outcome is kept: calls have a history, and in each history of them every body that
is evaluated has its outcome known in the end, and no body is evaluated twice at one position.
-/
theorem guard_silent (tokens : List Token) (memoize : Bool) (calls : List Call) :
    let options : ParseOptions := { memoize, maxSteps := none }
    let used := Parser.callAll { grammar, tokens, options } calls
    used.run.guardHits = 0 ∧
    (memoize = true →
      (∃ after events, Parser.History grammar tokens options {} calls after events) ∧
      ∀ after events, Parser.History grammar tokens options {} calls after events →
        used.run = after ∧
        (begun events).Nodup ∧
        (∀ attempt ∈ begun events, attempt ∈ used.run.known) ∧
        ∀ attempt stop, .ended attempt stop ∈ events →
          ∃ outcome, used.run.known[attempt]? = some outcome ∧ outcome.stop? = stop) := by
  intro options used
  have rest : ({} : Run).AtRest grammar tokens := Run.atRest_fresh
  -- A history exists, and the parser ends where each history of the calls ends.
  obtain ⟨last, happened, whole⟩ := Parser.exists_history options calls rest
  have reached : used.run = last := congrArg Parser.run (whole.callAll_eq rest)
  refine ⟨?_, ?_⟩
  · rw [reached]
    exact whole.guardHits_eq ranked rest
  · rintro rfl
    refine ⟨⟨last, happened, whole⟩, fun after events history => ?_⟩
    have equal : used.run = after := congrArg Parser.run (history.callAll_eq rest)
    have silent : after.guardHits = 0 := history.guardHits_eq ranked rest
    have recorded : Recorded after events := history.recorded rest rfl silent
    rw [equal]
    exact ⟨rfl, recorded.nodup, recorded.kept, recorded.ended⟩

end Constituency.Korean
