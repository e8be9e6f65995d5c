import DataGrid.Pattern.Category.Letter
import DataGrid.Pattern.Category.Mark
import DataGrid.Pattern.Category.Number
import DataGrid.Pattern.Category.Punctuation
import DataGrid.Text.CaseFold
import DataGrid.Text.Ranges

namespace DataGrid

structure CharSet where
  spans : List (Nat × Nat)
  deriving BEq, Inhabited

namespace CharSet

def has (s : CharSet) (c : Char) : Bool := Text.inRanges s.spans c.toNat

def holdsCode (s : CharSet) (n : Nat) : Bool := Text.inRanges s.spans n

def joinFrom (first last : Nat) : List (Nat × Nat) → List (Nat × Nat)
  | [] => [(first, last)]
  | (a, b) :: rest =>
    if a ≤ last + 1 then joinFrom first (max last b) rest else (first, last) :: joinFrom a b rest

def join : List (Nat × Nat) → List (Nat × Nat)
  | [] => []
  | (a, b) :: rest => joinFrom a b rest

def ofSpans (spans : List (Nat × Nat)) : CharSet := ⟨join (spans.mergeSort fun s t => s.1 ≤ t.1)⟩

def surrogates : Nat × Nat := (0xD800, 0xDFFF)

def gapsFrom (start : Nat) : List (Nat × Nat) → List (Nat × Nat)
  | [] => if start ≤ 0x10FFFF then [(start, 0x10FFFF)] else []
  | (a, b) :: rest => if start < a then (start, a - 1) :: gapsFrom (b + 1) rest else gapsFrom (b + 1) rest

def complement (s : CharSet) : CharSet := ⟨gapsFrom 0 (ofSpans (surrogates :: s.spans)).spans⟩

def none : CharSet := ⟨[]⟩

def all : CharSet := none.complement

def union (s t : CharSet) : CharSet := ofSpans (s.spans ++ t.spans)

def inter (s t : CharSet) : CharSet := (s.complement.union t.complement).complement

def minus (s t : CharSet) : CharSet := s.inter t.complement

def differ (s t : CharSet) : CharSet := (s.minus t).union (t.minus s)

def point (c : Char) : Nat × Nat := (c.toNat, c.toNat)

def single (c : Char) : CharSet := ⟨[point c]⟩

def range (first last : Char) : List (Nat × Nat) :=
  if first.toNat < surrogates.1 && surrogates.2 < last.toNat then
    [(first.toNat, surrogates.1 - 1), (surrogates.2 + 1, last.toNat)]
  else [(first.toNat, last.toNat)]

def isAscii (s : CharSet) : Bool := s.spans.all fun r => r.2 < 128

def only? (s : CharSet) : Option Char :=
  match s.spans with
  | [(a, b)] => if a == b then some (Char.ofNat a) else Option.none
  | _ => Option.none

def digit : CharSet := ⟨Pattern.Category.decimalNumbers⟩

def blank : CharSet :=
  ⟨[(9, 13), (32, 32), (133, 133), (160, 160), (5760, 5760), (8192, 8202), (8232, 8233), (8239, 8239),
    (8287, 8287), (12288, 12288)]⟩

open Pattern.Category in
/-- What is part of a word: letters and what else is alphabetic, marks, decimal digits, connector
punctuation and the two join controls. -/
def word : CharSet :=
  ofSpans ([uppercaseLetters, lowercaseLetters, titlecaseLetters, modifierLetters, otherLetters, nonspacingMarks,
    spacingMarks, enclosingMarks, decimalNumbers, letterNumbers, connectorPunctuation,
    [(8204, 8205), (9398, 9449), (127280, 127305), (127312, 127337), (127344, 127369)]].flatten)

def asciiDigit : CharSet := ⟨[(48, 57)]⟩

def asciiBlank : CharSet := ⟨[(9, 13), (32, 32)]⟩

def asciiWord : CharSet := ⟨[(48, 57), (65, 90), (95, 95), (97, 122)]⟩

def foldClosure (s : CharSet) : CharSet :=
  let folds := s.union (ofSpans ((Text.foldPairs.filter fun p => s.holdsCode p.1).map fun p => (p.2, p.2)))
  folds.union (ofSpans ((Text.foldPairs.filter fun p => folds.holdsCode p.2).map fun p => (p.1, p.1)))

def asciiClosure (s : CharSet) : CharSet :=
  s.union (ofSpans ((List.range 26).flatMap fun i =>
    (if s.holdsCode (65 + i) then [(97 + i, 97 + i)] else []) ++
      if s.holdsCode (97 + i) then [(65 + i, 65 + i)] else []))

def named? : String → Option CharSet
  | "alnum" => some ⟨[(48, 57), (65, 90), (97, 122)]⟩
  | "alpha" => some ⟨[(65, 90), (97, 122)]⟩
  | "ascii" => some ⟨[(0, 127)]⟩
  | "blank" => some ⟨[(9, 9), (32, 32)]⟩
  | "cntrl" => some ⟨[(0, 31), (127, 127)]⟩
  | "digit" => some asciiDigit
  | "graph" => some ⟨[(33, 126)]⟩
  | "lower" => some ⟨[(97, 122)]⟩
  | "print" => some ⟨[(32, 126)]⟩
  | "punct" => some ⟨[(33, 47), (58, 64), (91, 96), (123, 126)]⟩
  | "space" => some asciiBlank
  | "upper" => some ⟨[(65, 90)]⟩
  | "word" => some asciiWord
  | "xdigit" => some ⟨[(48, 57), (65, 70), (97, 102)]⟩
  | _ => Option.none

end CharSet

end DataGrid
