import Constituency.Accepted

/-!
# The Korean grammar

Korean sentence structure over the Sejong part-of-speech tags, and over the synthetic tags of the
Korean tag table. Clauses are right-recursive choices, so an object right in front of a verb can
still bind into the verb phrase. The grammar is kept as a text too, and reading it gives this value.
-/
namespace Constituency.Korean

/-- Clauses: a main clause behind any number of subordinate ones. -/
def clauses : List (Rule String) :=
  [⟨"Sentence", .seq [.star (.ref "SubordinateClause"), .ref "MainClause",
     .opt (.ref "SentenceEnd")]⟩,
   ⟨"SubordinateClause", .ref "SubordinateBody"⟩,
   ⟨"SubordinateBody", .longest [.seq [.ref "VerbPhrase", .ref "ConnectingSuffix"],
     .seq [.ref "Phrase", .ref "SubordinateBody"]]⟩,
   ⟨"MainClause", .longest [.ref "Predicate", .seq [.ref "Phrase", .ref "MainClause"]]⟩,
   ⟨"Predicate", .seq [.ref "VerbPhrase", .ref "EndingSuffix"]⟩]

/-- Phrases, with the punctuation around them. -/
def phrases : List (Rule String) :=
  [⟨"Phrase", .seq [.star (.ref "Punctuation"), .longest [.ref "NounPhrase",
     .ref "CombinedNounPhrase", .ref "TopicPhrase", .ref "SubjectPhrase", .ref "ObjectPhrase",
     .ref "ComplementPhrase", .ref "AdverbialPhrase", .ref "PrepositionalPhrase"],
     .star (.ref "Interjection"), .star (.ref "Punctuation")]⟩]

/-- Nouns and what modifies them. -/
def nouns : List (Rule String) :=
  [⟨"CombinedNounPhrase", .seq [.plus (.ref "Conjunction"), .ref "NounPhrase"]⟩,
   ⟨"Conjunction", .seq [.ref "NounPhrase", .ref "Connector"]⟩,
   ⟨"NounPhrase", .seq [.opt (.ref "Determiner"), .longest [.ref "Noun", .ref "Count",
     .ref "AdjectivalPhrase"], .star (.ref "NounModifyingSuffix"),
     .star (.ref "AdverbialParticle"), .star (.ref "AuxiliaryParticle")]⟩,
   ⟨"Noun", .longest [.ref "SimpleNoun", .ref "NominalizedVerb"]⟩,
   ⟨"NominalizedVerb", .seq [.ref "Verb", .ref "NominalizingSuffix"]⟩,
   ⟨"Count", .seq [.ref "SimpleNoun", .ref "Number", .opt (.ref "Counter")]⟩,
   ⟨"AdjectivalPhrase", .seq [.plus (.ref "Adjective"), .longest [.ref "Noun", .ref "Count"]]⟩,
   ⟨"Adjective", .longest [.seq [.star (.ref "Adverb"), .ref "Verb", .star (.ref "VerbSuffix"),
     .ref "AdjectiveFormingSuffix"], .ref "Possessive"]⟩,
   ⟨"Possessive", .seq [.ref "Noun", .ref "PossessiveParticle"]⟩]

/-- Phrases that end in a marker or a suffix. -/
def markedPhrases : List (Rule String) :=
  [⟨"TopicPhrase", .seq [.star (.ref "Conjunction"), .ref "NounPhrase", .ref "TopicMarker"]⟩,
   ⟨"SubjectPhrase", .seq [.star (.ref "Conjunction"), .ref "NounPhrase", .ref "SubjectMarker"]⟩,
   ⟨"ObjectPhrase", .seq [.star (.ref "Conjunction"), .ref "NounPhrase", .ref "ObjectMarker"]⟩,
   ⟨"ComplementPhrase", .seq [.star (.ref "Conjunction"), .ref "NounPhrase",
     .ref "ComplementMarker"]⟩,
   ⟨"AdverbialPhrase", .seq [.longest [.ref "Noun", .ref "AdjectivalPhrase"],
     .ref "AdverbialPhraseConnector", .opt (.ref "AuxiliaryParticle")]⟩,
   ⟨"PrepositionalPhrase", .seq [.longest [.ref "NounPhrase", .ref "CombinedNounPhrase"],
     .ref "PrepositionalSuffix"]⟩]

/-- Verbs and what stands before them. -/
def verbs : List (Rule String) :=
  [⟨"VerbPhrase", .seq [.opt (.ref "ObjectPhrase"), .star (.ref "Adverbial"),
     .longest [.ref "Verb", .ref "VerbAndAuxiliary"], .star (.ref "VerbSuffix")]⟩,
   ⟨"Adverbial", .longest [.ref "Adverb", .ref "AdverbialPhrase"]⟩,
   ⟨"Adverb", .ref "SimpleAdverb"⟩,
   ⟨"Verb", .longest [.ref "SimpleVerb", .ref "DescriptiveVerb", .ref "HadaVerb"]⟩,
   ⟨"HadaVerb", .seq [.ref "SimpleNoun", .ref "VerbFormingSuffix"]⟩,
   ⟨"VerbAndAuxiliary", .seq [.ref "Verb", .plus (.ref "AuxiliaryVerb")]⟩,
   ⟨"AuxiliaryVerb", .longest [.seq [.ref "AuxiliaryVerbConnector", .ref "Verb"],
     .ref "AuxiliaryVerbPattern"]⟩]

/-- A production that stands for one token whose tag the pattern accepts. -/
def word (name source : String)
    (isOk : (Pattern.read source).isOk = true := by decide +kernel) : Rule String :=
  ⟨name, .terminal (.of source isOk)⟩

/-- The kinds of words. -/
def words : List (Rule String) :=
  [word "Determiner" "MM", word "SimpleNoun" "NN.*|NR|NP|SL|SH", word "Number" "MM|NUM.*|SN|NR",
   word "Counter" "NNB|NNG", word "DescriptiveVerb" "VA|VCP|VCN", word "SimpleVerb" "VV|VX",
   word "VerbFormingSuffix" "XSV|XSA", word "SimpleAdverb" "MAG.*",
   word "Punctuation" "SP|SS|SE|SO|SW|SWK", word "Interjection" "IC", word "Connector" "JC|CON.*",
   word "SentenceEnd" "SF", word "ConnectingSuffix" "EC|CEC.*", word "EndingSuffix" "EF",
   word "VerbSuffix" "EP|PSX.*|FUT.*", word "AdjectiveFormingSuffix" "ETM",
   word "NominalizingSuffix" "ETN|GNOM.*", word "NounModifyingSuffix" "XSN|PLU.*",
   word "AdverbialParticle" "JKB", word "AuxiliaryParticle" "JX|PRT.*",
   word "PossessiveParticle" "JKG", word "AdverbialPhraseConnector" "EC|ADVEC.*",
   word "AuxiliaryVerbConnector" "EC", word "AuxiliaryVerbPattern" "AUX.*",
   word "TopicMarker" "TOP.*", word "SubjectMarker" "JKS", word "ObjectMarker" "JKO",
   word "ComplementMarker" "JKC", word "PrepositionalSuffix" "PRP.*"]

def rules : List (Rule String) := clauses ++ phrases ++ nouns ++ markedPhrases ++ verbs ++ words

/-- The grammar starts with its first production, the sentence. -/
def grammar : Grammar :=
  ((Grammar.of rules).withFlatten ["MainClause", "SubordinateBody", "Conjunction"]).withHidden
    ["Phrase", "Noun", "NounPhrase", "CombinedNounPhrase", "Verb", "Adverbial"]

/-! ## The text of the grammar -/

def grammarText : String :=
"// Korean sentence structure over Sejong part-of-speech tags, plus the
// synthetic tags korean.tagmap mints (PLU, GNOM, TOP, FUT, PRP, CON, ...).
//
// Clause-level runs of phrases are right-recursive longest-of choices, so an
// object phrase right before the verb can still bind into the verb phrase.

%start Sentence;
%flatten MainClause SubordinateBody Conjunction;
%hide Phrase Noun NounPhrase CombinedNounPhrase Verb Adverbial;

Sentence -> SubordinateClause* MainClause SentenceEnd?;

SubordinateClause -> SubordinateBody;
SubordinateBody -> (VerbPhrase ConnectingSuffix | Phrase SubordinateBody);
MainClause -> (Predicate | Phrase MainClause);
Predicate -> VerbPhrase EndingSuffix;

Phrase -> Punctuation* (
    NounPhrase
  | CombinedNounPhrase
  | TopicPhrase
  | SubjectPhrase
  | ObjectPhrase
  | ComplementPhrase
  | AdverbialPhrase
  | PrepositionalPhrase
) Interjection* Punctuation*;

// nouns
CombinedNounPhrase -> Conjunction+ NounPhrase;
Conjunction -> NounPhrase Connector;
NounPhrase -> Determiner? (Noun | Count | AdjectivalPhrase) NounModifyingSuffix* AdverbialParticle* AuxiliaryParticle*;
Noun -> (SimpleNoun | NominalizedVerb);
NominalizedVerb -> Verb NominalizingSuffix;
Count -> SimpleNoun Number Counter?;
AdjectivalPhrase -> Adjective+ (Noun | Count);
Adjective -> (Adverb* Verb VerbSuffix* AdjectiveFormingSuffix | Possessive);
Possessive -> Noun PossessiveParticle;

// marked phrases
TopicPhrase -> Conjunction* NounPhrase TopicMarker;
SubjectPhrase -> Conjunction* NounPhrase SubjectMarker;
ObjectPhrase -> Conjunction* NounPhrase ObjectMarker;
ComplementPhrase -> Conjunction* NounPhrase ComplementMarker;
AdverbialPhrase -> (Noun | AdjectivalPhrase) AdverbialPhraseConnector AuxiliaryParticle?;
PrepositionalPhrase -> (NounPhrase | CombinedNounPhrase) PrepositionalSuffix;

// verbs
VerbPhrase -> ObjectPhrase? Adverbial* (Verb | VerbAndAuxiliary) VerbSuffix*;
Adverbial -> (Adverb | AdverbialPhrase);
Adverb -> SimpleAdverb;
Verb -> (SimpleVerb | DescriptiveVerb | HadaVerb);
HadaVerb -> SimpleNoun VerbFormingSuffix;
VerbAndAuxiliary -> Verb AuxiliaryVerb+;
AuxiliaryVerb -> (AuxiliaryVerbConnector Verb | AuxiliaryVerbPattern);

// tags
Determiner -> /MM/;
SimpleNoun -> /NN.*|NR|NP|SL|SH/;
Number -> /MM|NUM.*|SN|NR/;
Counter -> /NNB|NNG/;
DescriptiveVerb -> /VA|VCP|VCN/;
SimpleVerb -> /VV|VX/;
VerbFormingSuffix -> /XSV|XSA/;
SimpleAdverb -> /MAG.*/;
Punctuation -> /SP|SS|SE|SO|SW|SWK/;
Interjection -> /IC/;
Connector -> /JC|CON.*/;
SentenceEnd -> /SF/;
ConnectingSuffix -> /EC|CEC.*/;
EndingSuffix -> /EF/;
VerbSuffix -> /EP|PSX.*|FUT.*/;
AdjectiveFormingSuffix -> /ETM/;
NominalizingSuffix -> /ETN|GNOM.*/;
NounModifyingSuffix -> /XSN|PLU.*/;
AdverbialParticle -> /JKB/;
AuxiliaryParticle -> /JX|PRT.*/;
PossessiveParticle -> /JKG/;
AdverbialPhraseConnector -> /EC|ADVEC.*/;
AuxiliaryVerbConnector -> /EC/;
AuxiliaryVerbPattern -> /AUX.*/;
TopicMarker -> /TOP.*/;
SubjectMarker -> /JKS/;
ObjectMarker -> /JKO/;
ComplementMarker -> /JKC/;
PrepositionalSuffix -> /PRP.*/;
"

set_option maxRecDepth 20000 in
/-- The grammar is what its text is read as. -/
theorem read_grammarText : Grammar.read grammarText = .ok grammar := by
  have said : GrammarText.read grammarText.toList = .ok ⟨rules,
      [.start "Sentence", .flatten ["MainClause", "SubordinateBody", "Conjunction"],
        .hide ["Phrase", "Noun", "NounPhrase", "CombinedNounPhrase", "Verb", "Adverbial"]]⟩ := by
    apply eq_ok_of_toOption
    -- The characters are taken from the literal as it stands, and not decoded one by one.
    rw [show grammarText = String.ofList _ from rfl, String.toList_ofList]
    decide +kernel
  have built : Grammar.ofRules rules = .ok (Grammar.of rules) := eq_ok_accepted _
  have started : (Grammar.of rules).withStart "Sentence" = .ok (Grammar.of rules) :=
    Grammar.withStart_start (by decide +kernel)
  refine Grammar.read_eq_ok said built ?_
  rw [List.foldlM_cons, Grammar.direct, started]
  rfl

end Constituency.Korean
