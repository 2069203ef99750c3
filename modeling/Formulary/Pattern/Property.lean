import Formulary.Pattern.Fault
import Formulary.Text.Age
import Formulary.Text.Property.Break

/-!
# Character properties by name

The sets of characters that a pattern asks for by the name of a category, a script or a
property. Case, blanks, hyphens, underscores and a leading `is` do not count in a name.

## Main definitions

* `plainName` : a name without what does not count;
* `category?`, `binarySets` : the sets that have a name;
* `propertySet` : the set that a property class asks for.
-/
namespace Formulary.Pattern

open Text (Category CodeSet)

def plainName (name : String) : String :=
  let lowered := name.toList.map Char.toLower
  let (hadIs, rest) := match lowered with
    | 'i' :: 's' :: rest => (true, rest)
    | _ => (false, lowered)
  let kept := rest.filter fun c => c.toNat < 128 && c != ' ' && c != '_' && c != '-'
  if hadIs && kept = ['c'] then "isc" else String.ofList kept

def categories? (name : String) : Option (List Category) :=
  match name with
  | "l" | "letter" => some Category.letters
  | "lc" | "casedletter" => some Category.casedLetters
  | "lu" | "uppercaseletter" => some [.uppercaseLetter]
  | "ll" | "lowercaseletter" => some [.lowercaseLetter]
  | "lt" | "titlecaseletter" => some [.titlecaseLetter]
  | "lm" | "modifierletter" => some [.modifierLetter]
  | "lo" | "otherletter" => some [.otherLetter]
  | "m" | "mark" | "combiningmark" => some Category.marks
  | "mn" | "nonspacingmark" => some [.nonspacingMark]
  | "mc" | "spacingmark" => some [.spacingMark]
  | "me" | "enclosingmark" => some [.enclosingMark]
  | "n" | "number" => some Category.numbers
  | "nd" | "decimalnumber" | "digit" => some [.decimalNumber]
  | "nl" | "letternumber" => some [.letterNumber]
  | "no" | "othernumber" => some [.otherNumber]
  | "p" | "punctuation" | "punct" => some Category.punctuation
  | "pc" | "connectorpunctuation" => some [.connectorPunctuation]
  | "pd" | "dashpunctuation" => some [.dashPunctuation]
  | "ps" | "openpunctuation" => some [.openPunctuation]
  | "pe" | "closepunctuation" => some [.closePunctuation]
  | "pi" | "initialpunctuation" => some [.initialPunctuation]
  | "pf" | "finalpunctuation" => some [.finalPunctuation]
  | "po" | "otherpunctuation" => some [.otherPunctuation]
  | "s" | "symbol" => some Category.symbols
  | "sm" | "mathsymbol" => some [.mathSymbol]
  | "sc" | "currencysymbol" => some [.currencySymbol]
  | "sk" | "modifiersymbol" => some [.modifierSymbol]
  | "so" | "othersymbol" => some [.otherSymbol]
  | "z" | "separator" => some Category.separators
  | "zs" | "spaceseparator" => some [.spaceSeparator]
  | "zl" | "lineseparator" => some [.lineSeparator]
  | "zp" | "paragraphseparator" => some [.paragraphSeparator]
  | "c" | "other" => some Category.others
  | "cc" | "control" | "cntrl" => some [.control]
  | "cf" | "format" => some [.format]
  | "co" | "privateuse" => some [.privateUse]
  | "cs" | "surrogate" => some [.surrogate]
  | "cn" | "unassigned" => some [.unassigned]
  | _ => none

/-- The characters of a category by name; some sets of code points count as categories. A pattern
never asks for surrogates, which no text has. -/
def category? (name : String) : Option CodeSet :=
  match name with
  | "any" => some [(0, 0x10FFFF)]
  | "ascii" => some [(0, 0x7F)]
  | "assigned" => some (Category.unassigned.set.complement 0x10FFFF)
  | _ =>
    match categories? name with
    | none | some [.surrogate] => none
    | some categories => some (Text.Property.ofCategories categories)

section
open Text.Property

/-- The properties of two values that a pattern may ask for, by their names. -/
def binarySets : List (List String × CodeSet) :=
  [(["asciihexdigit", "ahex"], .ofRuns asciiHexDigitRuns),
   (["alphabetic", "alpha"], alphabetic),
   (["bidicontrol", "bidic"], .ofRuns bidiControlRuns),
   (["bidimirrored", "bidim"], .ofRuns bidiMirroredRuns),
   (["caseignorable", "ci"], caseIgnorable),
   (["cased"], cased),
   (["changeswhencasefolded", "cwcf"], .ofRuns casefoldedRuns),
   (["changeswhencasemapped", "cwcm"], casemapped),
   (["changeswhenlowercased", "cwl"], .ofRuns lowercasedRuns),
   (["changeswhentitlecased", "cwt"], .ofRuns titlecasedRuns),
   (["changeswhenuppercased", "cwu"], .ofRuns uppercasedRuns),
   (["dash"], .ofRuns dashRuns),
   (["defaultignorablecodepoint", "di"], defaultIgnorable),
   (["deprecated", "dep"], .ofRuns deprecatedRuns),
   (["diacritic", "dia"], .ofRuns diacriticRuns),
   (["emoji"], .ofRuns emojiRuns),
   (["emojicomponent", "ecomp"], .ofRuns emojiComponentRuns),
   (["emojimodifier", "emod"], .ofRuns emojiModifierRuns),
   (["emojimodifierbase", "ebase"], .ofRuns emojiModifierBaseRuns),
   (["emojipresentation", "epres"], .ofRuns emojiPresentationRuns),
   (["extendedpictographic", "extpict"], .ofRuns extendedPictographicRuns),
   (["extender", "ext"], .ofRuns extenderRuns),
   (["graphemebase", "grbase"], graphemeBase),
   (["graphemeextend", "grext"], graphemeExtend),
   (["graphemelink", "grlink"], .ofRuns graphemeLinkRuns),
   (["hexdigit", "hex"], .ofRuns hexDigitRuns),
   (["hyphen"], .ofRuns hyphenRuns),
   (["idcompatmathcontinue"], .ofRuns compatMathContinueRuns),
   (["idcompatmathstart"], .ofRuns compatMathStartRuns),
   (["idcontinue", "idc"], identifierContinue),
   (["ideographic", "ideo"], .ofRuns ideographicRuns),
   (["idstart", "ids"], identifierStart),
   (["idsbinaryoperator", "idsb"], .ofRuns binaryDescriptionRuns),
   (["idstrinaryoperator", "idst"], .ofRuns trinaryDescriptionRuns),
   (["idsunaryoperator", "idsu"], .ofRuns unaryDescriptionRuns),
   (["joincontrol", "joinc"], .ofRuns joinControlRuns),
   (["logicalorderexception", "loe"], .ofRuns logicalOrderExceptionRuns),
   (["lowercase", "lower"], lowercase),
   (["math"], math),
   (["modifiercombiningmark", "mcm"], .ofRuns modifierCombiningMarkRuns),
   (["noncharactercodepoint", "nchar"], .ofRuns noncharacterRuns),
   (["otheralphabetic", "oalpha"], .ofRuns Text.alphabeticAdditions),
   (["otherdefaultignorablecodepoint", "odi"], .ofRuns otherDefaultIgnorableRuns),
   (["othergraphemeextend", "ogrext"], .ofRuns otherGraphemeExtendRuns),
   (["otheridcontinue", "oidc"], .ofRuns Text.otherIdentifierContinue),
   (["otheridstart", "oids"], .ofRuns Text.otherIdentifierStart),
   (["otherlowercase", "olower"], .ofRuns Text.lowercaseAdditions),
   (["othermath", "omath"], .ofRuns otherMathRuns),
   (["otheruppercase", "oupper"], .ofRuns Text.uppercaseAdditions),
   (["patternsyntax", "patsyn"], .ofRuns patternSyntaxRuns),
   (["patternwhitespace", "patws"], .ofRuns patternWhiteSpaceRuns),
   (["prependedconcatenationmark", "pcm"], .ofRuns prependedConcatenationMarkRuns),
   (["quotationmark", "qmark"], .ofRuns quotationMarkRuns),
   (["radical"], .ofRuns radicalRuns),
   (["regionalindicator", "ri"], .ofRuns regionalIndicatorRuns),
   (["sentenceterminal", "sterm"], .ofRuns sentenceTerminalRuns),
   (["softdotted", "sd"], .ofRuns softDottedRuns),
   (["terminalpunctuation", "term"], .ofRuns terminalPunctuationRuns),
   (["unifiedideograph", "uideo"], .ofRuns unifiedIdeographRuns),
   (["uppercase", "upper"], uppercase),
   (["variationselector", "vs"], .ofRuns variationSelectorRuns),
   (["whitespace", "wspace", "space"], whiteSpace),
   (["xidcontinue", "xidc"], stableIdentifierContinue),
   (["xidstart", "xids"], stableIdentifierStart)]

end

/-- The names of the other properties that characters have. -/
def otherProperties : List String :=
  ["nv", "numericvalue", "cjkaccountingnumeric", "kaccountingnumeric", "cjkothernumeric",
   "kothernumeric", "cjkprimarynumeric", "kprimarynumeric", "bmg", "bidimirroringglyph", "bpb",
   "bidipairedbracket", "cf", "casefolding", "cjkcompatibilityvariant", "kcompatibilityvariant",
   "dm", "decompositionmapping", "equideo", "equivalentunifiedideograph", "fcnfkc",
   "fcnfkcclosure", "lc", "lowercasemapping", "nfkccf", "nfkccasefold", "nfkcscf",
   "nfkcsimplecasefold", "scf", "simplecasefolding", "sfc", "slc", "simplelowercasemapping", "stc",
   "simpletitlecasemapping", "suc", "simpleuppercasemapping", "tc", "titlecasemapping", "uc",
   "uppercasemapping", "cjkiicore", "kiicore", "cjkirggsource", "kirggsource", "cjkirghsource",
   "kirghsource", "cjkirgjsource", "kirgjsource", "cjkirgksource", "kirgksource", "cjkirgkpsource",
   "kirgkpsource", "cjkirgmsource", "kirgmsource", "cjkirgssource", "kirgssource", "cjkirgtsource",
   "kirgtsource", "cjkirguksource", "kirguksource", "cjkirgusource", "kirgusource",
   "cjkirgvsource", "kirgvsource", "cjkrsunicode", "krsunicode", "unicoderadicalstroke", "urs",
   "isc", "isocomment", "jsn", "jamoshortname", "kehcat", "kehcore", "kehdesc", "kehfunc",
   "kehfval", "kehhg", "kehifao", "kehjsesh", "kehnomirror", "kehnorotate", "kehunik", "na",
   "name", "na1", "unicode1name", "namealias", "scx", "scriptextensions", "age", "blk", "block",
   "sc", "script", "bc", "bidiclass", "bpt", "bidipairedbrackettype", "ccc",
   "canonicalcombiningclass", "dt", "decompositiontype", "ea", "eastasianwidth", "gc",
   "generalcategory", "gcb", "graphemeclusterbreak", "hst", "hangulsyllabletype", "incb",
   "indicconjunctbreak", "inpc", "indicpositionalcategory", "insc", "indicsyllabiccategory", "jg",
   "joininggroup", "jt", "joiningtype", "lb", "linebreak", "nfcqc", "nfcquickcheck", "nfdqc",
   "nfdquickcheck", "nfkcqc", "nfkcquickcheck", "nfkdqc", "nfkdquickcheck", "nt", "numerictype",
   "sb", "sentencebreak", "vo", "verticalorientation", "wb", "wordbreak", "ce",
   "compositionexclusion", "compex", "fullcompositionexclusion", "cwkcf",
   "changeswhennfkccasefolded", "xonfc", "expandsonnfc", "xonfd", "expandsonnfd", "xonfkc",
   "expandsonnfkc", "xonfkd", "expandsonnfkd"]

/-- The characters that have a value of a property, by their names: `none` if there is no such
property, and `some none` if the property has no such value, or none that a pattern can ask
for. -/
def valueSet? (property value : String) : Option (Option CodeSet) :=
  match property with
  | "gc" | "generalcategory" => some (category? value)
  | "sc" | "script" => some ((Text.script? value).map Text.Script.set)
  | "scx" | "scriptextensions" => some ((Text.script? value).map Text.Script.extendedSet)
  | "age" => some (Text.Age.set? value)
  | "gcb" | "graphemeclusterbreak" => some (Text.Property.graphemeBreak? value)
  | "wb" | "wordbreak" => some (Text.Property.wordBreak? value)
  | "sb" | "sentencebreak" => some (Text.Property.sentenceBreak? value)
  | _ =>
    if otherProperties.contains property || binarySets.any fun b => b.1.contains property then
      some none
    else none

/-- Names that are meant as a category although some property shares them. -/
def isCategoryFirst (name : String) : Bool := name == "cf" || name == "sc" || name == "lc"

/-- Names of a category and of scripts that no character has. -/
def emptyNames : List String :=
  ["cs", "surrogate", "zzzz", "unknown", "hrkt", "katakanaorhiragana"]

/-- The characters of a name, be it that of a property of two values, of a category or of a
script: `none` if there is no such name, and `some none` if no character can have it. -/
def namedSet? (name : String) : Option (Option CodeSet) :=
  match binarySets.find? fun b => b.1.contains name with
  | some (_, set) => some (some set)
  | none =>
    if otherProperties.contains name && !isCategoryFirst name then none
    else if emptyNames.contains name then some none
    else (category? name <|> (Text.script? name).map Text.Script.set).map some

def propertySet (span : Span) (query : PropertyQuery) : Except Fault CodeSet :=
  let found := match query with
    | .named name => namedSet? (plainName name)
    | .valued property value => valueSet? (plainName property) (plainName value)
  match found with
  | some (some set) => .ok set
  | some none => .error ⟨.propertyValueNotFound, span, none⟩
  | none => .error ⟨.propertyNotFound, span, none⟩

end Formulary.Pattern
