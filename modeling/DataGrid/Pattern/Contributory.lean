import DataGrid.Pattern.BinaryProperty

namespace DataGrid.Pattern.Property

open Category

def otherAlphabetic : Property :=
  ⟨["otheralphabetic", "oalpha"],
    [nonspacingMarks, spacingMarks, enclosingMarks, alphabetic.besides], [], alphabetic.without⟩

def otherDefaultIgnorableCodePoint : Property :=
  ⟨["otherdefaultignorablecodepoint", "odi"],
    [],
    [(847, 847), (4447, 4448), (6068, 6069), (8293, 8293), (12644, 12644), (65440, 65440), (65520, 65528),
     (917504, 917504), (917506, 917535), (917632, 917759), (918000, 921599)],
    []⟩

def otherGraphemeExtend : Property := ⟨["othergraphemeextend", "ogrext"], [graphemeExtend.besides], [], []⟩

def otherIdContinue : Property :=
  ⟨["otheridcontinue", "oidc"], [idContinue.besides], [], idStart.besides⟩

def otherIdStart : Property := ⟨["otheridstart", "oids"], [idStart.besides], [], []⟩

def otherLowercase : Property := ⟨["otherlowercase", "olower"], [lowercase.besides], [], []⟩

def otherMath : Property := ⟨["othermath", "omath"], [math.besides], [], []⟩

def otherUppercase : Property := ⟨["otheruppercase", "oupper"], [uppercase.besides], [], []⟩

def contributory : List Property :=
  [otherAlphabetic, otherDefaultIgnorableCodePoint, otherGraphemeExtend, otherIdContinue, otherIdStart,
    otherLowercase, otherMath, otherUppercase]

end DataGrid.Pattern.Property
