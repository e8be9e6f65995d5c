import DataGrid.Pattern.BinaryProperty
import DataGrid.Pattern.Script

/-!
Classes of characters by which a text is cut into graphemes, words and sentences (Unicode 16). Most
of them follow from categories, scripts and other properties. What a cut does not look at has no class.
-/

namespace DataGrid.Pattern.Property

open Category CharSet

def ofSet (names : List String) (s : CharSet) : Property := ⟨names, [s.spans], [], []⟩

def scriptSet (name : String) : CharSet := ((named? scripts name).map set).getD CharSet.none

def carriageReturn : Property := ⟨["cr"], [], [(13, 13)], []⟩

def lineFeed : Property := ⟨["lf"], [], [(10, 10)], []⟩

def joiner : Property := ⟨["zwj"], [], [(8205, 8205)], []⟩

def regionalLetter : Property := ⟨["ri", "regionalindicator"], [], regionalIndicator.besides, []⟩

def zeroWidth : CharSet := ⟨[(8203, 8205)]⟩

def extendsGrapheme : CharSet := graphemeExtend.set.union emojiModifier.set

def prependedSigns : CharSet := prependedConcatenationMark.set

def prepended : CharSet :=
  prependedSigns.union ⟨[(3406, 3406), (70082, 70083), (70609, 70609), (71999, 71999), (72001, 72001),
    (72324, 72329), (73030, 73030), (73474, 73474)]⟩

def ignorableGaps : List (Nat × Nat) :=
  [(8293, 8293), (65520, 65528), (917504, 917504), (917506, 917535), (917632, 917759), (918000, 921599)]

def graphemeControls : CharSet :=
  (ofSpans (controls ++ formats ++ lineSeparators ++ paragraphSeparators ++ ignorableGaps)).minus
    ((ofSpans [(10, 10), (13, 13), (8205, 8205)]).union (prependedSigns.union extendsGrapheme))

/-- Spacing marks and the two letters that follow a vowel sign, but no mark of a script that is cut
between its letters. -/
def graphemeSpacing : CharSet :=
  (ofSpans ((3635, 3635) :: (3763, 3763) :: spacingMarks)).minus
    (extendsGrapheme.union ⟨[(4139, 4140), (4152, 4152), (4194, 4196), (4199, 4205), (4227, 4227), (4231, 4236),
      (4239, 4239), (4250, 4252), (6753, 6753), (6755, 6756), (43643, 43643), (43645, 43645), (71456, 71457)]⟩)

def openSyllables : List Nat := (List.range 399).map fun i => 0xAC00 + 28 * i

def graphemeBreaks : List Property :=
  [carriageReturn, lineFeed, joiner, regionalLetter,
    ofSet ["cn", "control"] graphemeControls,
    ofSet ["ex", "extend"] extendsGrapheme,
    ofSet ["pp", "prepend"] prepended,
    ofSet ["sm", "spacingmark"] graphemeSpacing,
    ⟨["l"], [], [(4352, 4447), (43360, 43388)], []⟩,
    ⟨["v"], [], [(4448, 4519), (55216, 55238), (93539, 93539), (93543, 93546)], []⟩,
    ⟨["t"], [], [(4520, 4607), (55243, 55291)], []⟩,
    ⟨["lv"], [], openSyllables.map fun n => (n, n), []⟩,
    ⟨["lvt"], [], openSyllables.map fun n => (n + 1, n + 27), []⟩]

def extendsWord : CharSet := (extendsGrapheme.union (ofSpans spacingMarks)).minus joiner.set

def numericSigns : CharSet :=
  (ofSpans ((1643, 1643) :: (6618, 6618) :: decimalNumbers)).union (prependedSigns.minus ⟨[(1807, 1807)]⟩)

def katakanaWord : CharSet :=
  (scriptSet "kana").union ⟨[(12337, 12341), (12443, 12444), (12448, 12448), (12540, 12540), (65392, 65392)]⟩

def hebrewLetter : CharSet := (scriptSet "hebr").inter (ofSpans otherLetters)

def unspacedScripts : List String :=
  ["thai", "laoo", "mymr", "khmr", "tale", "talu", "lana", "tavt", "ahom", "hira"]

def letterLike : List (Nat × Nat) :=
  [(184, 184), (706, 709), (722, 727), (734, 735), (741, 747), (749, 749), (751, 767), (1370, 1372), (1374, 1374),
    (1418, 1418), (1523, 1523), (1807, 1807), (42760, 42774), (42784, 42785), (42889, 42890), (43867, 43867)]

def wordLetter : CharSet :=
  (alphabetic.set.union (ofSpans letterLike)).minus
    ((unspacedScripts.map scriptSet).foldl CharSet.union
      (ideographic.set.union (katakanaWord.union (extendsWord.union hebrewLetter))))

def wordBreaks : List Property :=
  [carriageReturn, lineFeed, joiner, regionalLetter,
    ⟨["nl", "newline"], [lineSeparators, paragraphSeparators], [(11, 12), (133, 133)], []⟩,
    ⟨["dq", "doublequote"], [], [(34, 34)], []⟩,
    ⟨["sq", "singlequote"], [], [(39, 39)], []⟩,
    ⟨["ex", "extendnumlet"], [connectorPunctuation], [(8239, 8239)], []⟩,
    ofSet ["extend"] extendsWord,
    ofSet ["fo", "format"]
      ((ofSpans formats).minus (zeroWidth.union (extendsWord.union (numericSigns.union ⟨[(1807, 1807)]⟩)))),
    ofSet ["hl", "hebrewletter"] hebrewLetter,
    ofSet ["ka", "katakana"] katakanaWord,
    ofSet ["le", "aletter"] wordLetter,
    ⟨["mb", "midnumlet"], [],
      [(46, 46), (8216, 8217), (8228, 8228), (65106, 65106), (65287, 65287), (65294, 65294)], []⟩,
    ⟨["ml", "midletter"], [],
      [(58, 58), (183, 183), (903, 903), (1375, 1375), (1524, 1524), (8231, 8231), (65043, 65043), (65109, 65109),
       (65306, 65306)], []⟩,
    ⟨["mn", "midnum"], [],
      [(44, 44), (59, 59), (894, 894), (1417, 1417), (1548, 1549), (1644, 1644), (2040, 2040), (8260, 8260),
       (65104, 65104), (65108, 65108), (65292, 65292), (65307, 65307)], []⟩,
    ofSet ["nu", "numeric"] numericSigns,
    ⟨["wsegspace"], [spaceSeparators], [], [(160, 160), (8199, 8199), (8239, 8239)]⟩]

def extendsSentence : CharSet := graphemeExtend.set.union (ofSpans (joiner.besides ++ spacingMarks))

/-- Lower case but for the Georgian letters that have no case in running text. -/
def sentenceLower : CharSet :=
  lowercase.set.minus (graphemeExtend.set.union ⟨[(4304, 4346), (4349, 4351)]⟩)

def sentenceUpper : CharSet :=
  (uppercase.set.union (ofSpans titlecaseLetters)).minus ⟨[(7312, 7354), (7357, 7359)]⟩

def sentenceNumeric : CharSet := numericSigns.union ⟨[(1644, 1644)]⟩

def fullStops : List (Nat × Nat) := [(46, 46), (8228, 8228), (65106, 65106), (65294, 65294)]

def sentenceBreaks : List Property :=
  [carriageReturn, lineFeed,
    ⟨["se", "sep"], [lineSeparators, paragraphSeparators], [(133, 133)], []⟩,
    ⟨["sp"], [spaceSeparators], [(9, 9), (11, 12)], []⟩,
    ofSet ["ex", "extend"] extendsSentence,
    ofSet ["fo", "format"]
      ((ofSpans formats).minus (extendsSentence.union (sentenceNumeric.union ⟨[(8204, 8205)]⟩))),
    ofSet ["lo", "lower"] sentenceLower,
    ofSet ["up", "upper"] sentenceUpper,
    ofSet ["le", "oletter"]
      ((alphabetic.set.union ⟨[(1523, 1523)]⟩).minus (sentenceLower.union (sentenceUpper.union extendsSentence))),
    ofSet ["nu", "numeric"] sentenceNumeric,
    ⟨["at", "aterm"], [], fullStops, []⟩,
    ⟨["st", "sterm"], sentenceTerminal.whole, sentenceTerminal.besides, sentenceTerminal.without ++ fullStops⟩,
    ⟨["sc", "scontinue"], [],
      [(44, 45), (58, 59), (894, 894), (1373, 1373), (1548, 1549), (2040, 2040), (6146, 6146), (6152, 6152),
       (8211, 8212), (12289, 12289), (65040, 65041), (65043, 65044), (65073, 65074), (65104, 65105), (65108, 65109),
       (65112, 65112), (65123, 65123), (65292, 65293), (65306, 65307), (65380, 65380)], []⟩,
    ⟨["cl", "close"], [openPunctuation, closePunctuation, initialPunctuation, finalPunctuation],
      [(34, 34), (39, 39), (10075, 10080), (11776, 11777), (11782, 11784), (11787, 11787), (128630, 128632)], []⟩]

end DataGrid.Pattern.Property
