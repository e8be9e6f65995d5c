import DataGrid.Pattern.Category.Letter
import DataGrid.Pattern.Category.Mark
import DataGrid.Pattern.Category.Number
import DataGrid.Pattern.Category.Other
import DataGrid.Pattern.Category.Punctuation
import DataGrid.Pattern.Category.Symbol
import DataGrid.Pattern.Property

/-!
General categories and their groups. Every character but a surrogate has one category.
-/

namespace DataGrid.Pattern.Property

open Category

def letters : List (List (Nat × Nat)) :=
  [uppercaseLetters, lowercaseLetters, titlecaseLetters, modifierLetters, otherLetters]

def marks : List (List (Nat × Nat)) := [nonspacingMarks, spacingMarks, enclosingMarks]

def numbers : List (List (Nat × Nat)) := [decimalNumbers, letterNumbers, otherNumbers]

def punctuation : List (List (Nat × Nat)) :=
  [connectorPunctuation, dashPunctuation, openPunctuation, closePunctuation, initialPunctuation,
    finalPunctuation, otherPunctuation]

def symbols : List (List (Nat × Nat)) := [mathSymbols, currencySymbols, modifierSymbols, otherSymbols]

def separators : List (List (Nat × Nat)) := [spaceSeparators, lineSeparators, paragraphSeparators]

def graphic : List (Nat × Nat) := (letters ++ marks ++ numbers ++ punctuation ++ symbols ++ separators).flatten

def assigned : List (Nat × Nat) := graphic ++ controls ++ formats ++ privateUse

def everything : List (Nat × Nat) := [(0, 0x10FFFF)]

def categories : List Property :=
  [⟨["any"], [], everything, []⟩,
    ⟨["ascii"], [], [(0, 127)], []⟩,
    ⟨["assigned"], [], assigned, []⟩,
    ⟨["c", "other"], [], everything, graphic⟩,
    ⟨["cc", "control", "cntrl"], [controls], [], []⟩,
    ⟨["cf", "format"], [formats], [], []⟩,
    ⟨["cn", "unassigned"], [], everything, assigned⟩,
    ⟨["co", "privateuse"], [privateUse], [], []⟩,
    ⟨["l", "letter"], letters, [], []⟩,
    ⟨["lc", "casedletter"], [uppercaseLetters, lowercaseLetters, titlecaseLetters], [], []⟩,
    ⟨["ll", "lowercaseletter"], [lowercaseLetters], [], []⟩,
    ⟨["lm", "modifierletter"], [modifierLetters], [], []⟩,
    ⟨["lo", "otherletter"], [otherLetters], [], []⟩,
    ⟨["lt", "titlecaseletter"], [titlecaseLetters], [], []⟩,
    ⟨["lu", "uppercaseletter"], [uppercaseLetters], [], []⟩,
    ⟨["m", "mark", "combiningmark"], marks, [], []⟩,
    ⟨["mc", "spacingmark"], [spacingMarks], [], []⟩,
    ⟨["me", "enclosingmark"], [enclosingMarks], [], []⟩,
    ⟨["mn", "nonspacingmark"], [nonspacingMarks], [], []⟩,
    ⟨["n", "number"], numbers, [], []⟩,
    ⟨["nd", "decimalnumber", "digit"], [decimalNumbers], [], []⟩,
    ⟨["nl", "letternumber"], [letterNumbers], [], []⟩,
    ⟨["no", "othernumber"], [otherNumbers], [], []⟩,
    ⟨["p", "punctuation", "punct"], punctuation, [], []⟩,
    ⟨["pc", "connectorpunctuation"], [connectorPunctuation], [], []⟩,
    ⟨["pd", "dashpunctuation"], [dashPunctuation], [], []⟩,
    ⟨["pe", "closepunctuation"], [closePunctuation], [], []⟩,
    ⟨["pf", "finalpunctuation"], [finalPunctuation], [], []⟩,
    ⟨["pi", "initialpunctuation"], [initialPunctuation], [], []⟩,
    ⟨["po", "otherpunctuation"], [otherPunctuation], [], []⟩,
    ⟨["ps", "openpunctuation"], [openPunctuation], [], []⟩,
    ⟨["s", "symbol"], symbols, [], []⟩,
    ⟨["sc", "currencysymbol"], [currencySymbols], [], []⟩,
    ⟨["sk", "modifiersymbol"], [modifierSymbols], [], []⟩,
    ⟨["sm", "mathsymbol"], [mathSymbols], [], []⟩,
    ⟨["so", "othersymbol"], [otherSymbols], [], []⟩,
    ⟨["z", "separator"], separators, [], []⟩,
    ⟨["zl", "lineseparator"], [lineSeparators], [], []⟩,
    ⟨["zp", "paragraphseparator"], [paragraphSeparators], [], []⟩,
    ⟨["zs", "spaceseparator"], [spaceSeparators], [], []⟩]

end DataGrid.Pattern.Property
