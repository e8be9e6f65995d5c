/-!
UTF-8 read without ever failing: every maximal part of the input that no character can begin with
becomes one U+FFFD, and all else is decoded.
-/

namespace DataGrid.Text.Utf8

def encode (cs : List Char) : List UInt8 := cs.flatMap String.utf8EncodeChar

def replacement : Char := Char.ofNat 0xFFFD

/-- A character whose first bytes are read: its bits so far, how many bytes are due, and the bounds
of the next one. -/
structure Pending where
  bits : Nat
  due : Nat
  low : Nat
  high : Nat

inductive Lead
  | char (c : Char)
  | more (p : Pending)
  | invalid

def lead (b : Nat) : Lead :=
  if b < 0x80 then .char (Char.ofNat b)
  else if b < 0xC2 then .invalid
  else if b < 0xE0 then .more ⟨b - 0xC0, 1, 0x80, 0xBF⟩
  else if b == 0xE0 then .more ⟨0, 2, 0xA0, 0xBF⟩
  else if b == 0xED then .more ⟨0xD, 2, 0x80, 0x9F⟩
  else if b < 0xF0 then .more ⟨b - 0xE0, 2, 0x80, 0xBF⟩
  else if b == 0xF0 then .more ⟨0, 3, 0x90, 0xBF⟩
  else if b < 0xF4 then .more ⟨b - 0xF0, 3, 0x80, 0xBF⟩
  else if b == 0xF4 then .more ⟨4, 3, 0x80, 0x8F⟩
  else .invalid

def step (open? : Option Pending) (b : Nat) : List Char × Option Pending :=
  let start (before : List Char) : List Char × Option Pending :=
    match lead b with
    | .char c => (before ++ [c], none)
    | .more p => (before, some p)
    | .invalid => (before ++ [replacement], none)
  match open? with
  | none => start []
  | some p =>
    if p.low ≤ b && b ≤ p.high then
      let bits := p.bits * 64 + b % 64
      if p.due ≤ 1 then ([Char.ofNat bits], none) else ([], some ⟨bits, p.due - 1, 0x80, 0xBF⟩)
    else start [replacement]

def decodeFrom : Option Pending → List UInt8 → List Char
  | none, [] => []
  | some _, [] => [replacement]
  | open?, b :: bs => (step open? b.toNat).1 ++ decodeFrom (step open? b.toNat).2 bs

def decode (bs : List UInt8) : List Char := decodeFrom none bs

end DataGrid.Text.Utf8
