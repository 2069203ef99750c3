import Formulary.Text.Alphabetic
import Formulary.Text.Basic
import Formulary.Text.LetterCase
import Formulary.Text.Property.Letter
import Formulary.Text.Property.Emoji
import Formulary.Text.Property.Mark

/-!
# Properties of characters

Many properties of characters follow from the general category and a table of exceptions. Here
they are put together as sets of code points.
-/
namespace Formulary.Text.Property

def ofCategories (categories : List Category) : CodeSet := .unions (categories.map Category.set)

def letters : CodeSet := ofCategories Category.letters

def alphabetic : CodeSet :=
  .unions [letters, Category.letterNumber.set, .ofRuns alphabeticAdditions]

def lowercase : CodeSet := Category.lowercaseLetter.set.union (.ofRuns lowercaseAdditions)

def uppercase : CodeSet := Category.uppercaseLetter.set.union (.ofRuns uppercaseAdditions)

def cased : CodeSet := .unions [lowercase, uppercase, Category.titlecaseLetter.set]

def caseIgnorable : CodeSet :=
  (ofCategories [.nonspacingMark, .enclosingMark, .format, .modifierLetter, .modifierSymbol]).union
    (.ofRuns caseIgnorableAdditions)

/-- The characters that some change of case changes. -/
def casemapped : CodeSet :=
  .unions [.ofRuns lowercasedRuns, .ofRuns uppercasedRuns, .ofRuns titlecasedRuns]

def whiteSpace : CodeSet := .ofRuns blankRuns

/-- The characters of words. -/
def word : CodeSet :=
  .unions [alphabetic, ofCategories Category.marks,
    ofCategories [.decimalNumber, .connectorPunctuation], .ofRuns joinControlRuns]

def math : CodeSet := Category.mathSymbol.set.union (.ofRuns otherMathRuns)

/-- Format characters that are shown: those that annotate, and those that arrange hieroglyphs. -/
def shownFormats : CodeSet := [(0xFFF9, 0xFFFB), (0x13430, 0x1343F)]

/-- The code points that are not shown where nothing supports them. -/
def defaultIgnorable : CodeSet :=
  (CodeSet.unions [.ofRuns otherDefaultIgnorableRuns, Category.format.set,
    .ofRuns variationSelectorRuns]).diff
    (shownFormats.union (.ofRuns prependedConcatenationMarkRuns))

/-- The characters that belong to the one before them. -/
def graphemeExtend : CodeSet :=
  (ofCategories [.nonspacingMark, .enclosingMark]).union (.ofRuns otherGraphemeExtendRuns)

def graphemeBase : CodeSet :=
  ((ofCategories (Category.others ++ [.lineSeparator, .paragraphSeparator])).union
    graphemeExtend).complement 0x10FFFF

def identifierStart : CodeSet :=
  (CodeSet.unions [letters, Category.letterNumber.set, .ofRuns otherIdentifierStart]).diff
    (.ofRuns syntaxLetter)

def identifierContinue : CodeSet :=
  .unions [identifierStart, .ofRuns otherIdentifierContinue,
    ofCategories [.nonspacingMark, .spacingMark, .decimalNumber, .connectorPunctuation]]

def stableIdentifierStart : CodeSet := identifierStart.diff (.ofRuns startExclusions)

def stableIdentifierContinue : CodeSet := identifierContinue.diff (.ofRuns continueExclusions)

end Formulary.Text.Property
