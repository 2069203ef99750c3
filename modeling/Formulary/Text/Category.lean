import Formulary.Text.Category.Letter
import Formulary.Text.Category.Mark
import Formulary.Text.Category.Symbol
import Formulary.Text.Basic

/-!
# General categories

The general category of a character, and the groups of categories.

## Main definitions

* `Category` : the general categories;
* `Category.has`, `Category.set` : the characters of a category.
-/
namespace Formulary.Text

inductive Category
  | uppercaseLetter | lowercaseLetter | titlecaseLetter | modifierLetter | otherLetter
  | nonspacingMark | spacingMark | enclosingMark
  | decimalNumber | letterNumber | otherNumber
  | connectorPunctuation | dashPunctuation | openPunctuation | closePunctuation
  | initialPunctuation | finalPunctuation | otherPunctuation
  | mathSymbol | currencySymbol | modifierSymbol | otherSymbol
  | spaceSeparator | lineSeparator | paragraphSeparator
  | control | format | privateUse | surrogate | unassigned
deriving DecidableEq, Repr, Inhabited

namespace Category

/-- The code points of a category. The unassigned code points are those that no other category
has. -/
def runs : Category → List CodeRun
  | uppercaseLetter => uppercaseLetterRuns
  | lowercaseLetter => lowercaseLetterRuns
  | titlecaseLetter => titlecaseLetterRuns
  | modifierLetter => modifierLetterRuns
  | otherLetter => otherLetterRuns
  | nonspacingMark => nonspacingMarkRuns
  | spacingMark => spacingMarkRuns
  | enclosingMark => enclosingMarkRuns
  | decimalNumber => decimalNumberRuns
  | letterNumber => letterNumberRuns
  | otherNumber => otherNumberRuns
  | connectorPunctuation => connectorPunctuationRuns
  | dashPunctuation => dashPunctuationRuns
  | openPunctuation => openPunctuationRuns
  | closePunctuation => closePunctuationRuns
  | initialPunctuation => initialPunctuationRuns
  | finalPunctuation => finalPunctuationRuns
  | otherPunctuation => otherPunctuationRuns
  | mathSymbol => mathSymbolRuns
  | currencySymbol => currencySymbolRuns
  | modifierSymbol => modifierSymbolRuns
  | otherSymbol => otherSymbolRuns
  | spaceSeparator => spaceSeparatorRuns
  | lineSeparator => lineSeparatorRuns
  | paragraphSeparator => paragraphSeparatorRuns
  | control => controlRuns
  | format => formatRuns
  | privateUse => privateUseRuns
  | surrogate => surrogateRuns
  | unassigned => []

def letters : List Category :=
  [uppercaseLetter, lowercaseLetter, titlecaseLetter, modifierLetter, otherLetter]

def casedLetters : List Category := [uppercaseLetter, lowercaseLetter, titlecaseLetter]

def marks : List Category := [nonspacingMark, spacingMark, enclosingMark]

def numbers : List Category := [decimalNumber, letterNumber, otherNumber]

def punctuation : List Category :=
  [connectorPunctuation, dashPunctuation, openPunctuation, closePunctuation, initialPunctuation,
   finalPunctuation, otherPunctuation]

def symbols : List Category := [mathSymbol, currencySymbol, modifierSymbol, otherSymbol]

def separators : List Category := [spaceSeparator, lineSeparator, paragraphSeparator]

def others : List Category := [control, format, privateUse, surrogate, unassigned]

/-- The categories that list their code points. -/
def assigned : List Category :=
  letters ++ marks ++ numbers ++ punctuation ++ symbols ++ separators ++
    [control, format, privateUse, surrogate]

def has (category : Category) (c : Char) : Bool :=
  match category with
  | unassigned => !assigned.any fun k => CodeRun.covers k.runs c.toNat
  | k => CodeRun.covers k.runs c.toNat

def set (category : Category) : CodeSet :=
  match category with
  | unassigned => (CodeSet.unions (assigned.map fun k => .ofRuns k.runs)).complement 0x10FFFF
  | k => .ofRuns k.runs

end Category

def isOneOf (categories : List Category) (c : Char) : Bool :=
  categories.any (·.has c)

end Formulary.Text
