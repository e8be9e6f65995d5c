import DataGrid.Pattern.Normal

/-!
Patterns as programs. An instruction reads a character (this one, one with this fold, or one of a set),
asks about a place, or forks; a fork gives the distances to the instructions that go on, and what runs
off the end has found a match. Counted repetitions are written out.
-/

namespace DataGrid.Pattern

inductive Instruction
  | char (c : Char)
  | folded (c : Char)
  | set (s : CharSet)
  | place (p : Place)
  | fork (ways : List Int)
  deriving Inhabited

namespace Instruction

def starts (distance : Int) : List (List Instruction) → List Int
  | [] => []
  | block :: blocks => distance :: starts (distance + block.length + 1) blocks

def joined (left : Nat) : List (List Instruction) → List (List Instruction)
  | [] => []
  | block :: blocks =>
    (block ++ [fork [left - block.length]]) :: joined (left - block.length - 1) blocks

def either (blocks : List (List Instruction)) : List Instruction :=
  let length := blocks.foldl (fun n block => n + block.length + 1) 0
  fork (starts 1 blocks) :: (joined length blocks).flatten

def optional (block : List Instruction) : Nat → List (List Instruction) → List Instruction
  | 0, done => done.flatten
  | n + 1, done =>
    let left := (done.length + 1) * (block.length + 1)
    optional block n ((fork [1, left] :: block) :: done)

def repeated (least : Nat) (most : Option Nat) (block : List Instruction) : List Instruction :=
  let start := (List.replicate least block).flatten
  match least, most with
  | 0, none => fork [1, block.length + 2] :: block ++ [fork [-(block.length + 1 : Int)]]
  | _, none => start ++ [fork [-(block.length : Int), 1]]
  | _, some most => start ++ optional block (most - least) []

end Instruction

mutual

def code : Pattern → List Instruction
  | empty => []
  | char fold c => [if fold then .folded (Text.fold c) else .char c]
  | set s => [.set s]
  | place p => [.place p]
  | capture _ p => p.code
  | seq ps => (codes [] ps).flatten
  | alt ps => Instruction.either (codes [] ps)
  | times least most p =>
    let bounds := p.normal.bounds least most
    Instruction.repeated bounds.1 bounds.2 p.code

def codes (done : List (List Instruction)) : List Pattern → List (List Instruction)
  | [] => done.reverse
  | p :: ps => codes (p.code :: done) ps

end

structure Program where
  code : Array Instruction

def program (p : Pattern) : Program := ⟨p.code.toArray⟩

end DataGrid.Pattern
