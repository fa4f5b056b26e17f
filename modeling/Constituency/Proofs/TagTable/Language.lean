import Constituency.Proofs.Text.Lexeme
import Constituency.TagTable.Basic

/-!
# The language of tag table texts

A tag table can be built by calls, one for each link, part of speech and rule, and a rule is set up
by a setting for each thing that is known about it. A tag table text spells such calls as statements.
The relations here say how, independently of how a text is read: gaps may stand around all lexemes,
every text is quoted with its quotes and backslashes escaped, and the attributes of a rule may change
places with others and have commas behind them.
-/
namespace Constituency.TagTable

open Constituency.Text

/-! ### Calls -/

/-- What can be set on a rule. -/
inductive Setting where
  | pos (value : String)
  | label (value : String)
  | description (value : String)
  | rename (request : Rename)
  | refs (values : List String)
  | notes (value : String)

namespace Setting

def apply (rule : TagRule) : Setting → TagRule
  | .pos value => rule.withPos value
  | .label value => rule.withLabel value
  | .description value => rule.withDescription value
  | .rename request => rule.withRename request
  | .refs values => rule.withRefs values
  | .notes value => rule.withNotes value

/-- The key of the attribute that spells a setting. -/
def key : Setting → String
  | .pos _ => "pos"
  | .label _ => "label"
  | .description _ => "description"
  | .rename _ => "rename"
  | .refs _ => "refs"
  | .notes _ => "notes"

/-- The values of the attribute that spells a setting; a rename is spelled as it can be read. -/
inductive Written : Setting → List String → Prop
  | pos (value : String) : Written (.pos value) [value]
  | label (value : String) : Written (.label value) [value]
  | description (value : String) : Written (.description value) [value]
  | rename {text : String} {request : Rename} (read : Rename.read text = .ok request) :
    Written (.rename request) [text]
  | refs {values : List String} (some : values ≠ []) : Written (.refs values) values
  | notes (value : String) : Written (.notes value) [value]

/-- References add up, so several of them can be set one by one, or none at all. -/
def parts : Setting → List Setting
  | .refs values => values.map fun value => .refs [value]
  | setting => [setting]

/-- The same settings but for the order of those with different keys. -/
def Rearranged (settings others : List Setting) : Prop :=
  ∀ key, (settings.flatMap parts).filter (·.key = key) =
    (others.flatMap parts).filter (·.key = key)

end Setting

/-- A call that adds to a table. -/
inductive Call where
  | link (name address : String)
  | pos (tag label description : String)
  /-- A rule with its two texts, and what is set on it. -/
  | rule (pattern replacement : String) (settings : List Setting)

/-- What a call registers, if its rule has texts that are accepted. -/
def Call.entry : Call → Except TagRuleError TagEntry
  | .link name address => .ok (.link name address)
  | .pos tag label description => .ok (.pos tag ⟨label, description⟩)
  | .rule pattern replacement settings =>
    (TagRule.ofTexts pattern replacement).map fun rule =>
      .rule (settings.foldl Setting.apply rule : TagRule)

/-! ### Statements -/

/-- A text with a backslash in front of each backslash and each quote. -/
def escaped : List Char → List Char
  | [] => []
  | c :: rest => if c = '\\' ∨ c = '"' then '\\' :: c :: escaped rest else c :: escaped rest

/-- A text in quotes. -/
inductive StringAt : List Char → String → List Char → Prop
  | intro {text rest : List Char} {value : String}
    (gap : Gap text ('"' :: (escaped value.toList ++ '"' :: rest))) : StringAt text value rest

/-- Any number of texts in quotes. -/
inductive StringsAt : List Char → List String → List Char → Prop
  | none (rest : List Char) : StringsAt rest [] rest
  | more {text behind rest : List Char} {value : String} {values : List String}
    (first : StringAt text value behind) (others : StringsAt behind values rest) :
    StringsAt text (value :: values) rest

/-- A key, a colon and one or more texts. -/
inductive AttributeAt : List Char → Setting → List Char → Prop
  | intro {text behindKey next rest : List Char} {setting : Setting} {values : List String}
    (key : NameAt text setting.key behindKey) (colon : Gap behindKey (':' :: next))
    (strings : StringsAt next values rest) (written : setting.Written values) :
    AttributeAt text setting rest

/-- Attributes with or without commas behind them, and a bracket that closes. -/
inductive AttributesAt : List Char → List Setting → List Char → Prop
  | close {text rest : List Char} (gap : Gap text (']' :: rest)) : AttributesAt text [] rest
  | plain {text next behind rest : List Char} {setting : Setting} {settings : List Setting}
    (gap : Gap text next) (first : AttributeAt next setting behind)
    (others : AttributesAt behind settings rest) : AttributesAt text (setting :: settings) rest
  | comma {text next behind beyond rest : List Char} {setting : Setting} {settings : List Setting}
    (gap : Gap text next) (first : AttributeAt next setting behind)
    (comma : Gap behind (',' :: beyond)) (others : AttributesAt beyond settings rest) :
    AttributesAt text (setting :: settings) rest

/-- Attributes in brackets, in any order; the brackets may be missing where nothing is set. -/
inductive SettingsAt : List Char → List Setting → List Char → Prop
  | none (rest : List Char) {settings : List Setting} (empty : Setting.Rearranged settings []) :
    SettingsAt rest settings rest
  | listed {text next rest : List Char} {settings others : List Setting}
    (bracket : Gap text ('[' :: next)) (attributes : AttributesAt next others rest)
    (order : Setting.Rearranged settings others) : SettingsAt text settings rest

/-- One call without the semicolon behind it. -/
inductive CallAt : List Char → Call → List Char → Prop
  | link {text behindKeyword next behindName rest : List Char} {name address : String}
    (keyword : NameAt text "link" behindKeyword) (gap : Gap behindKeyword next)
    (named : NameAt next name behindName) (leads : StringAt behindName address rest) :
    CallAt text (.link name address) rest
  | pos {text behindKeyword next behindTag behindLabel rest : List Char}
    {tag label description : String}
    (keyword : NameAt text "pos" behindKeyword) (gap : Gap behindKeyword next)
    (tagged : NameAt next tag behindTag) (labeled : StringAt behindTag label behindLabel)
    (described : StringAt behindLabel description rest) :
    CallAt text (.pos tag label description) rest
  | rule {text behindKeyword behindPattern next behind rest : List Char}
    {pattern replacement : String} {settings : List Setting}
    (keyword : NameAt text "map" behindKeyword) (old : StringAt behindKeyword pattern behindPattern)
    (arrow : Gap behindPattern ('-' :: '>' :: next)) (new : StringAt next replacement behind)
    (attributes : SettingsAt behind settings rest) :
    CallAt text (.rule pattern replacement settings) rest

/-- The text is a sequence of statements, each one call and a semicolon. -/
inductive Spells : List Char → List Call → Prop
  | nothing {text : List Char} (gap : Gap text []) : Spells text []
  | statement {text next behind rest : List Char} {call : Call} {calls : List Call}
    (gap : Gap text next) (first : CallAt next call behind) (close : Gap behind (';' :: rest))
    (others : Spells rest calls) : Spells text (call :: calls)

/-! ### Lengths -/

variable {text rest : List Char}

theorem StringAt.length_lt {value : String} (derived : StringAt text value rest) :
    rest.length < text.length := by
  obtain ⟨gap⟩ := derived
  have shorter := gap.length_le
  simp only [List.length_cons, List.length_append] at shorter
  omega

theorem StringsAt.length_le {values : List String} (derived : StringsAt text values rest) :
    values.length + rest.length ≤ text.length := by
  induction derived with
  | none => simp
  | more first others ih =>
    have passed := first.length_lt
    simp only [List.length_cons]
    omega

theorem AttributeAt.length_lt {setting : Setting} (derived : AttributeAt text setting rest) :
    rest.length < text.length := by
  obtain ⟨key, colon, strings, -⟩ := derived
  have named := key.length_lt
  have behind := colon.length_le
  have passed := strings.length_le
  simp only [List.length_cons] at behind
  omega

theorem AttributesAt.length_lt {settings : List Setting}
    (derived : AttributesAt text settings rest) : settings.length + rest.length < text.length := by
  induction derived with
  | close gap =>
    have bracket := gap.length_le
    simpa [Nat.succ_le_iff] using bracket
  | plain gap first _ ih =>
    have before := gap.length_le
    have passed := first.length_lt
    simp only [List.length_cons]
    omega
  | comma gap first comma _ ih =>
    have before := gap.length_le
    have passed := first.length_lt
    have behind := comma.length_le
    simp only [List.length_cons] at behind ⊢
    omega

theorem SettingsAt.length_le {settings : List Setting} (derived : SettingsAt text settings rest) :
    rest.length ≤ text.length := by
  cases derived with
  | none => exact Nat.le_refl _
  | listed bracket attributes _ =>
    have before := bracket.length_le
    have passed := attributes.length_lt
    simp only [List.length_cons] at before
    omega

theorem CallAt.length_lt {call : Call} (derived : CallAt text call rest) :
    rest.length < text.length := by
  cases derived with
  | link keyword gap named leads =>
    exact leads.length_lt.trans (named.length_lt.trans (gap.length_le.trans_lt keyword.length_lt))
  | pos keyword gap tagged labeled described =>
    exact described.length_lt.trans (labeled.length_lt.trans (tagged.length_lt.trans
      (gap.length_le.trans_lt keyword.length_lt)))
  | rule keyword old arrow new attributes =>
    have behindArrow := arrow.length_le
    have behindNew := new.length_lt
    have behindOld := old.length_lt
    have behindKeyword := keyword.length_lt
    have behindAll := attributes.length_le
    simp only [List.length_cons] at behindArrow
    omega

/-- Each statement takes up at least one character. -/
theorem Spells.length_le {calls : List Call} (derived : Spells text calls) :
    calls.length ≤ text.length := by
  induction derived with
  | nothing => exact Nat.zero_le _
  | statement gap first close _ ih =>
    have before := gap.length_le
    have passed := first.length_lt
    have behind := close.length_le
    simp only [List.length_cons] at behind ⊢
    omega

end Constituency.TagTable
