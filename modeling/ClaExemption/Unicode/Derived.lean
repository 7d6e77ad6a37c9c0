import ClaExemption.Unicode.Category
import ClaExemption.Unicode.Primary

/-!
# Derived properties

Properties of characters defined from general categories and primary sets:
letters and identifiers (`alphabetic`, `idStart`, `idContinue`), case
(`lowercase`, `uppercase`, `cased`, `caseIgnorable`), graphemes
(`graphemeExtend`, `graphemeBase`), and the word characters and digits of
patterns (`wordChar`, `digit`).
-/

namespace ClaExemption.Unicode

/-- White space. -/
def whiteSpace (c : Nat) : Bool :=
  (9 ≤ c && c ≤ 13) || c == 0x20 || c == 0x85 || c == 0xa0 || c == 0x1680
    || (0x2000 ≤ c && c ≤ 0x200a) || c == 0x2028 || c == 0x2029 || c == 0x202f || c == 0x205f
    || c == 0x3000

/-- Decimal digits. -/
def digit (c : Nat) : Bool :=
  category c == .decimalNumber

/-- Lower-case characters. -/
def lowercase (c : Nat) : Bool :=
  category c == .lowercaseLetter || otherLowercase.mem c

/-- Upper-case characters. -/
def uppercase (c : Nat) : Bool :=
  category c == .uppercaseLetter || otherUppercase.mem c

/-- Characters that have a case. -/
def cased (c : Nat) : Bool :=
  lowercase c || uppercase c || category c == .titlecaseLetter

/-- Characters passed over when looking for the case of their neighbours. -/
def caseIgnorable (c : Nat) : Bool :=
  inCategories [.nonspacingMark, .enclosingMark, .format, .modifierLetter, .modifierSymbol] c
    || midWord.mem c

/-- Characters that write words of a language. -/
def alphabetic (c : Nat) : Bool :=
  inCategories (.letterNumber :: Category.letters) c || otherLowercase.mem c
    || otherUppercase.mem c || otherAlphabetic.mem c

/-- Mathematical characters. -/
def math (c : Nat) : Bool :=
  category c == .mathSymbol || otherMath.mem c

/-- Characters reserved for patterns. -/
def patternReserved (c : Nat) : Bool :=
  patternSyntax.mem c || patternWhiteSpace.mem c

/-- Characters that may start an identifier. -/
def idStart (c : Nat) : Bool :=
  (inCategories (.letterNumber :: Category.letters) c || otherIdStart.mem c) && !patternReserved c

/-- Characters that may continue an identifier. -/
def idContinue (c : Nat) : Bool :=
  idStart c
    || ((inCategories [.nonspacingMark, .spacingMark, .decimalNumber, .connectorPunctuation] c
        || otherIdContinue.mem c) && !patternReserved c)

/-- Starts of identifiers that stay so under compatibility normalization. -/
def xidStart (c : Nat) : Bool :=
  idStart c && !unstableIdStart.mem c

/-- Parts of identifiers that stay so under compatibility normalization. -/
def xidContinue (c : Nat) : Bool :=
  idContinue c && !unstableIdContinue.mem c

/-- Characters that attach to the one before them. -/
def graphemeExtend (c : Nat) : Bool :=
  inCategories [.enclosingMark, .nonspacingMark] c || otherGraphemeExtend.mem c

/-- Characters that stand on their own. -/
def graphemeBase (c : Nat) : Bool :=
  !inCategories (.lineSeparator :: .paragraphSeparator :: Category.others) c && !graphemeExtend c

/-- Code points without a visible form of their own. -/
def defaultIgnorable (c : Nat) : Bool :=
  (otherDefaultIgnorable.mem c || category c == .format || variationSelector.mem c)
    && !((0xfff9 ≤ c && c ≤ 0xfffb) || (0x13430 ≤ c && c ≤ 0x1343f)
      || prependedConcatenationMark.mem c)

/-- Word characters of patterns. -/
def wordChar (c : Nat) : Bool :=
  alphabetic c || inCategories (.decimalNumber :: .connectorPunctuation :: Category.marks) c
    || joinControl.mem c

/-- Characters that stand for numbers. -/
def numeric (c : Nat) : Bool :=
  inCategories Category.numbers c

end ClaExemption.Unicode
