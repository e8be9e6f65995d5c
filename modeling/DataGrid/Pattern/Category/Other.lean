namespace DataGrid.Pattern.Category

def spaceSeparators : List (Nat × Nat) :=
  [(32, 32), (160, 160), (5760, 5760), (8192, 8202), (8239, 8239), (8287, 8287), (12288, 12288)]

def lineSeparators : List (Nat × Nat) := [(8232, 8232)]

def paragraphSeparators : List (Nat × Nat) := [(8233, 8233)]

def controls : List (Nat × Nat) := [(0, 31), (127, 159)]

def formats : List (Nat × Nat) :=
  [(173, 173), (1536, 1541), (1564, 1564), (1757, 1757), (1807, 1807), (2192, 2193), (2274, 2274), (6158, 6158),
    (8203, 8207), (8234, 8238), (8288, 8292), (8294, 8303), (65279, 65279), (65529, 65531), (69821, 69821),
    (69837, 69837), (78896, 78911), (113824, 113827), (119155, 119162), (917505, 917505), (917536, 917631)]

def privateUse : List (Nat × Nat) := [(57344, 63743), (983040, 1048573), (1048576, 1114109)]

end DataGrid.Pattern.Category
