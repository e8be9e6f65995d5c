import DataGrid.Proofs.Pattern.Reading
import DataGrid.Proofs.Pattern.Search
import Mathlib.Data.List.Forall2

/-! Programs block by block: what the instructions of a pattern read, wherever they stand in a program, is what the
pattern reads, so that the search finds just that. -/

namespace DataGrid.Pattern

namespace Program

variable {p : Program} {before : Option Char} {i n : Nat} {cs : List Char}

lemma reached_singleton_iff {holds : Place → Bool} {k : Nat} :
    p.Reached holds [i] k ↔ i = k ∨ ∃ j ∈ p.next holds i, p.Reached holds [j] k := by
  simp only [Reached, List.mem_singleton, exists_eq_left]
  exact Relation.ReflTransGen.cases_head_iff

lemma lt_size_of_getElem? {instruction : Instruction} (hi : p.code[i]? = some instruction) : i < p.code.size := by
  by_contra hle
  simp [Array.getElem?_eq_none (Nat.le_of_not_lt hle)] at hi

lemma matches_end : p.Matches before p.code.size cs := by
  have hend : ∀ holds, p.Reached holds [p.code.size] p.code.size := fun holds =>
    ⟨_, List.mem_singleton_self _, .refl⟩
  cases cs with
  | nil => exact hend _
  | cons c cs => exact .inl (hend _)

def Runs (p : Program) : Nat → Option Char → Nat → List Char → Prop
  | 0, _, i, _ => i = p.code.size
  | n + 1, before, i, cs => (∃ j ∈ p.next (Place.holds before cs.head?) i, p.Runs n before j cs) ∨
    ∃ c rest j, cs = c :: rest ∧ p.pass? c (Text.fold c) i = some j ∧ p.Runs n (some c) j rest

lemma matches_of_next {j : Nat} (hj : j ∈ p.next (Place.holds before cs.head?) i) (h : p.Matches before j cs) :
    p.Matches before i cs := by
  have hreached : ∀ {k}, p.Reached (Place.holds before cs.head?) [j] k →
      p.Reached (Place.holds before cs.head?) [i] k := fun hk => reached_singleton_iff.mpr (.inr ⟨j, hj, hk⟩)
  cases cs with
  | nil => exact hreached h
  | cons c cs =>
    obtain hend | ⟨k, l, hk, hpass, hrest⟩ := h
    · exact .inl (hreached hend)
    · exact .inr ⟨k, l, hreached hk, hpass, hrest⟩

lemma runs_of_reached {k : Nat} (hk : p.Reached (Place.holds before cs.head?) [i] k) (h : p.Runs n before k cs) :
    ∃ m, p.Runs m before i cs := by
  obtain ⟨j, hj, hpath⟩ := hk
  obtain rfl := List.mem_singleton.mp hj
  induction hpath using Relation.ReflTransGen.head_induction_on with
  | refl => exact ⟨n, h⟩
  | head hlead _ ih =>
    obtain ⟨m, hm⟩ := ih (List.mem_singleton_self _)
    exact ⟨m + 1, .inl ⟨_, hlead, hm⟩⟩

lemma matches_iff_runs : p.Matches before i cs ↔ ∃ n, p.Runs n before i cs := by
  constructor
  · intro h
    induction cs generalizing before i with
    | nil => exact runs_of_reached (n := 0) h rfl
    | cons c cs ih =>
      obtain hend | ⟨k, j, hk, hpass, hrest⟩ := h
      · exact runs_of_reached (n := 0) hend rfl
      · obtain ⟨n, hn⟩ := ih hrest
        exact runs_of_reached hk (n := n + 1) (.inr ⟨c, cs, j, rfl, hpass, hn⟩)
  · rintro ⟨n, h⟩
    induction n generalizing before i cs with
    | zero =>
      obtain rfl : i = p.code.size := h
      exact matches_end
    | succ n ih =>
      obtain ⟨j, hj, hn⟩ | ⟨c, rest, j, rfl, hpass, hn⟩ := h
      · exact matches_of_next hj (ih hn)
      · exact .inr ⟨i, j, ⟨i, List.mem_singleton_self i, .refl⟩, hpass, ih hn⟩

def At (p : Program) (i : Nat) (block : List Instruction) : Prop := block <+: p.code.toList.drop i

namespace At

variable {block behind : List Instruction} {instruction : Instruction}

lemma left (h : p.At i (block ++ behind)) : p.At i block := (List.prefix_append block behind).trans h

lemma right (h : p.At i (block ++ behind)) : p.At (i + block.length) behind := by
  obtain ⟨rest, hrest⟩ := h
  refine ⟨rest, ?_⟩
  rw [← List.drop_drop, ← hrest, List.append_assoc, List.drop_left]

lemma getElem? (h : p.At i (instruction :: block)) : p.code[i]? = some instruction := by
  obtain ⟨rest, hrest⟩ := h
  rw [← Array.getElem?_toList, ← List.head?_drop, ← hrest, List.cons_append, List.head?_cons]

lemma tail (h : p.At i (instruction :: block)) : p.At (i + 1) block :=
  show p.At (i + [instruction].length) block from right h

end At

lemma runs_fork_iff {ways : List Int} (hi : p.code[i]? = some (.fork ways)) :
    p.Runs n before i cs ↔ ∃ m, n = m + 1 ∧ ∃ way ∈ ways, p.Runs m before ((i : Int) + way).toNat cs := by
  have hne : i ≠ p.code.size := (lt_size_of_getElem? hi).ne
  cases n with
  | zero => simp [Runs, hne]
  | succ n => simp [Runs, Program.next, pass?, hi]

lemma matches_fork_iff {ways : List Int} (hi : p.code[i]? = some (.fork ways)) :
    p.Matches before i cs ↔ ∃ way ∈ ways, p.Matches before ((i : Int) + way).toNat cs := by
  simp only [matches_iff_runs, runs_fork_iff hi]
  constructor
  · rintro ⟨_, m, rfl, way, hway, hm⟩
    exact ⟨way, hway, m, hm⟩
  · rintro ⟨way, hway, m, hm⟩
    exact ⟨m + 1, m, rfl, way, hway, hm⟩

end Program

/-- A block of instructions reads some texts and then goes on behind it, in any program. That the match takes no
more steps behind the block than from its start is for loops, whose bodies may read nothing. -/
structure Reads (block : List Instruction) (R : Reading) : Prop where
  sound {p : Program} {i n : Nat} {before : Option Char} {cs : List Char} (hp : p.At i block)
    (h : p.Runs n before i cs) : ∃ found rest m, m ≤ n ∧ cs = found ++ rest ∧ R before found rest ∧
      p.Runs m (found.getLast?.or before) (i + block.length) rest
  complete {p : Program} {i : Nat} {before : Option Char} {found rest : List Char} (hp : p.At i block)
    (hR : R before found rest) (h : p.Matches (found.getLast?.or before) (i + block.length) rest) :
    p.Matches before i (found ++ rest)

namespace Reads

variable {block blockS : List Instruction} {R S : Reading}

lemma nil : Reads [] .nothing where
  sound {_ _ n _ cs} _ h := ⟨[], cs, n, le_rfl, rfl, rfl, h⟩
  complete {_ _ _ _ _} _ hR h := by
    obtain rfl := hR
    exact h

lemma append (hR : Reads block R) (hS : Reads blockS S) : Reads (block ++ blockS) (R.andThen S) where
  sound {p i n before cs} hp h := by
    obtain ⟨front, _, m, hm, rfl, hfront, h⟩ := hR.sound hp.left h
    obtain ⟨back, rest, k, hk, rfl, hback, h⟩ := hS.sound hp.right h
    refine ⟨front ++ back, rest, k, hk.trans hm, (List.append_assoc ..).symm, ⟨front, back, rfl, hfront, hback⟩, ?_⟩
    rwa [getLast?_append_or, List.length_append, ← Nat.add_assoc]
  complete {p i before found rest} hp := by
    rintro ⟨front, back, rfl, hfront, hback⟩ h
    rw [getLast?_append_or, List.length_append, ← Nat.add_assoc] at h
    rw [List.append_assoc]
    exact hR.complete hp.left hfront (hS.complete hp.right hback h)

lemma flatten {blocks : List (List Instruction)} {Rs : List Reading} (h : List.Forall₂ Reads blocks Rs) :
    Reads blocks.flatten (.all Rs) := by
  induction h with
  | nil => exact nil
  | cons hR _ ih => exact hR.append ih

lemma replicate (hR : Reads block R) (n : Nat) : Reads (List.replicate n block).flatten (R.power n) := by
  induction n with
  | zero => exact nil
  | succ n ih => exact hR.append ih

lemma one {instruction : Instruction} {passes : Char → Bool}
    (hnext : ∀ {p : Program} {i : Nat} {holds}, p.code[i]? = some instruction → p.next holds i = [])
    (hpass : ∀ {p : Program} {i : Nat} {c : Char}, p.code[i]? = some instruction →
      p.pass? c (Text.fold c) i = if passes c then some (i + 1) else none) : Reads [instruction] (.one passes) where
  sound {p i n before cs} hp h := by
    have hi := hp.getElem?
    cases n with
    | zero => exact absurd h (Program.lt_size_of_getElem? hi).ne
    | succ n =>
      obtain ⟨j, hj, -⟩ | ⟨c, rest, j, rfl, hj, h⟩ := h
      · simp [hnext hi] at hj
      · obtain ⟨hc, rfl⟩ : passes c = true ∧ i + 1 = j := by simpa [hpass hi] using hj
        exact ⟨[c], rest, n, Nat.le_succ n, rfl, ⟨c, rfl, hc⟩, h⟩
  complete {p i before found rest} hp := by
    rintro ⟨c, rfl, hc⟩ h
    obtain ⟨n, h⟩ := Program.matches_iff_runs.mp h
    have hi := (hpass (c := c) hp.getElem?).trans (if_pos hc)
    exact Program.matches_iff_runs.mpr ⟨n + 1, .inr ⟨c, rest, i + 1, rfl, hi, h⟩⟩

lemma place (q : Place) :
    Reads [.place q] (fun before found rest => found = [] ∧ q.holds before rest.head? = true) where
  sound {p i n before cs} hp h := by
    have hi := hp.getElem?
    cases n with
    | zero => exact absurd h (Program.lt_size_of_getElem? hi).ne
    | succ n =>
      obtain ⟨j, hj, h⟩ | ⟨c, rest, j, rfl, hj, -⟩ := h
      · by_cases hq : q.holds before cs.head? = true
        · obtain rfl : j = i + 1 := by simpa [Program.next, hi, hq] using hj
          exact ⟨[], cs, n, Nat.le_succ n, rfl, ⟨rfl, hq⟩, h⟩
        · simp [Program.next, hi, hq] at hj
      · simp [Program.pass?, hi] at hj
  complete {p i before found rest} hp := by
    rintro ⟨rfl, hq⟩ h
    refine Program.matches_of_next ?_ h
    simp [Program.next, hp.getElem?, hq]

end Reads

structure Loops (p : Program) (block : List Instruction) (start turn exit : Nat) : Prop where
  body : p.At start block
  turns : ∃ into past : Int, p.code[turn]? = some (.fork [into, past]) ∧ ((turn : Int) + into).toNat = start ∧
    ((turn : Int) + past).toNat = exit
  back : start + block.length = turn ∨ ∃ way : Int, p.code[start + block.length]? = some (.fork [way]) ∧
    (((start + block.length : Nat) : Int) + way).toNat = turn

namespace Loops

variable {block : List Instruction} {R : Reading} {p : Program} {start turn exit n k : Nat} {before : Option Char}
  {found rest cs : List Char}

lemma runs_turn (h : Loops p block start turn exit) (hn : p.Runs n before turn cs) :
    ∃ m < n, p.Runs m before start cs ∨ p.Runs m before exit cs := by
  obtain ⟨into, past, hturn, rfl, rfl⟩ := h.turns
  obtain ⟨m, rfl, way, hway, hm⟩ := (Program.runs_fork_iff hturn).mp hn
  obtain rfl | rfl := List.mem_pair.mp hway
  · exact ⟨m, Nat.lt_succ_self m, .inl hm⟩
  · exact ⟨m, Nat.lt_succ_self m, .inr hm⟩

lemma runs_back (h : Loops p block start turn exit) (hn : p.Runs n before (start + block.length) cs) :
    ∃ m ≤ n, p.Runs m before turn cs := by
  obtain rfl | ⟨way, hjump, rfl⟩ := h.back
  · exact ⟨n, le_rfl, hn⟩
  · obtain ⟨m, rfl, way', hway, hm⟩ := (Program.runs_fork_iff hjump).mp hn
    obtain rfl := List.mem_singleton.mp hway
    exact ⟨m, Nat.le_succ m, hm⟩

lemma sound (h : Loops p block start turn exit) (hR : Reads block R) (hn : p.Runs n before turn cs) :
    ∃ found rest m, m ≤ n ∧ cs = found ++ rest ∧ R.upTo none before found rest ∧
      p.Runs m (found.getLast?.or before) exit rest := by
  -- on the steps that are left, as a body that reads nothing leaves the text as it is
  induction n using Nat.strong_induction_on generalizing before cs with
  | _ n ih =>
    obtain ⟨m, hm, hstart | hexit⟩ := h.runs_turn hn
    · obtain ⟨front, _, m', hm', rfl, hfront, hbehind⟩ := hR.sound h.body hstart
      obtain ⟨m'', hm'', hturn⟩ := h.runs_back hbehind
      obtain ⟨back, rest, l, hl, rfl, ⟨k, -, hback⟩, hend⟩ := ih m'' (by omega) hturn
      rw [← getLast?_append_or] at hend
      exact ⟨front ++ back, rest, l, by omega, (List.append_assoc ..).symm,
        ⟨k + 1, by simp, front, back, rfl, hfront, hback⟩, hend⟩
    · exact ⟨[], cs, m, hm.le, rfl, ⟨0, by simp, rfl⟩, hexit⟩

lemma matches_turn (h : Loops p block start turn exit) (hm : p.Matches before start cs ∨ p.Matches before exit cs) :
    p.Matches before turn cs := by
  obtain ⟨into, past, hturn, rfl, rfl⟩ := h.turns
  refine (Program.matches_fork_iff hturn).mpr ?_
  obtain hm | hm := hm
  · exact ⟨into, List.mem_pair.mpr (.inl rfl), hm⟩
  · exact ⟨past, List.mem_pair.mpr (.inr rfl), hm⟩

lemma matches_back (h : Loops p block start turn exit) (hm : p.Matches before turn cs) :
    p.Matches before (start + block.length) cs := by
  obtain rfl | ⟨way, hjump, rfl⟩ := h.back
  · exact hm
  · exact (Program.matches_fork_iff hjump).mpr ⟨way, List.mem_singleton_self way, hm⟩

lemma complete (h : Loops p block start turn exit) (hR : Reads block R) (hk : R.power k before found rest)
    (hm : p.Matches (found.getLast?.or before) exit rest) : p.Matches before turn (found ++ rest) := by
  induction k generalizing before found with
  | zero =>
    obtain rfl := hk
    exact h.matches_turn (.inr hm)
  | succ k ih =>
    obtain ⟨front, back, rfl, hfront, hk⟩ := hk
    rw [getLast?_append_or] at hm
    rw [List.append_assoc]
    exact h.matches_turn (.inl (hR.complete h.body hfront (h.matches_back (ih hk hm))))

end Loops

namespace Reads

variable {block : List Instruction} {R : Reading}

lemma star (hR : Reads block R) :
    Reads (.fork [1, block.length + 2] :: (block ++ [.fork [-(block.length + 1 : Int)]])) (R.upTo none) := by
  have hloops : ∀ {p : Program} {i : Nat},
      p.At i (.fork [1, block.length + 2] :: (block ++ [.fork [-(block.length + 1 : Int)]])) →
      Loops p block (i + 1) i (i + (block.length + 2)) := fun {p i} hp => {
    body := hp.tail.left
    turns := ⟨1, _, hp.getElem?, by omega, by omega⟩
    back := .inr ⟨_, hp.tail.right.getElem?, by omega⟩ }
  constructor
  case sound =>
    intro p i n before cs hp h
    simpa using (hloops hp).sound hR h
  case complete =>
    rintro p i before found rest hp ⟨k, -, hk⟩ h
    exact (hloops hp).complete hR hk (by simpa using h)

/-- The last copy of the body is the loop. -/
lemma plus (hR : Reads block R) (n : Nat) :
    Reads ((List.replicate (n + 1) block).flatten ++ [.fork [-(block.length : Int), 1]])
      ((R.power (n + 1)).andThen (R.upTo none)) := by
  have hlength : (List.replicate (n + 1) block).flatten.length = n * block.length + block.length := by
    rw [List.length_flatten, List.map_replicate, List.sum_replicate_nat, Nat.succ_mul]
  have hloops : ∀ {p : Program} {i : Nat},
      p.At i ((List.replicate (n + 1) block).flatten ++ [.fork [-(block.length : Int), 1]]) →
      Loops p block (i + n * block.length) (i + (List.replicate (n + 1) block).flatten.length)
        (i + (List.replicate (n + 1) block).flatten.length + 1) := by
    intro p i hp
    have hturn := hp.right.getElem?
    rw [List.replicate_succ', List.flatten_append, List.append_assoc] at hp
    have hbody : p.At (i + n * block.length) block := by simpa using hp.right.left
    exact ⟨hbody, ⟨_, _, hturn, by omega, by omega⟩, .inl (by omega)⟩
  constructor
  case sound =>
    intro p i k before cs hp h
    obtain ⟨front, _, m, hm, rfl, hfront, h⟩ := (hR.replicate (n + 1)).sound hp.left h
    obtain ⟨back, rest, l, hl, rfl, hback, h⟩ := (hloops hp).sound hR h
    refine ⟨front ++ back, rest, l, hl.trans hm, (List.append_assoc ..).symm, ⟨front, back, rfl, hfront, hback⟩, ?_⟩
    rwa [getLast?_append_or, List.length_append, ← Nat.add_assoc]
  case complete =>
    rintro p i before _ rest hp ⟨front, back, rfl, hfront, k, -, hk⟩ h
    rw [getLast?_append_or, List.length_append, ← Nat.add_assoc] at h
    rw [List.append_assoc]
    exact (hR.replicate (n + 1)).complete hp.left hfront ((hloops hp).complete hR hk h)

end Reads

namespace Instruction

def copies (block : List Instruction) : Nat → List Instruction
  | 0 => []
  | n + 1 => fork [1, ((n + 1) * (block.length + 1) : Nat)] :: (block ++ copies block n)

lemma length_copies (block : List Instruction) (n : Nat) : (copies block n).length = n * (block.length + 1) := by
  induction n with
  | zero => rw [copies, List.length_nil, Nat.zero_mul]
  | succ n ih =>
    rw [copies, List.length_cons, List.length_append, ih, Nat.succ_mul]
    omega

lemma optional_eq (block : List Instruction) (n : Nat) {done : List (List Instruction)}
    (hdone : done.flatten = copies block done.length) : optional block n done = copies block (done.length + n) := by
  induction n generalizing done with
  | zero => exact hdone
  | succ n ih =>
    rw [optional, ih, List.length_cons, Nat.add_right_comm, Nat.add_assoc]
    simp [copies, hdone]

end Instruction

namespace Reads

variable {block : List Instruction} {R : Reading}

lemma maybe (hR : Reads block R) {past : Int} (hpast : past = block.length + 1) :
    Reads (.fork [1, past] :: block) R.maybe where
  sound {p i n before cs} hp h := by
    obtain ⟨m, rfl, way, hway, h⟩ := (Program.runs_fork_iff hp.getElem?).mp h
    obtain rfl | rfl := List.mem_pair.mp hway
    · obtain ⟨found, rest, l, hl, rfl, hfound, h⟩ := hR.sound hp.tail h
      rw [Nat.add_right_comm, Nat.add_assoc] at h
      exact ⟨found, rest, l, by omega, rfl, .inr hfound, h⟩
    · subst hpast
      exact ⟨[], cs, m, Nat.le_succ m, rfl, .inl rfl, h⟩
  complete {p i before found rest} hp := by
    rintro (rfl | hfound) h
    · refine (Program.matches_fork_iff hp.getElem?).mpr ⟨past, by simp, ?_⟩
      subst hpast
      exact h
    · refine (Program.matches_fork_iff hp.getElem?).mpr ⟨1, by simp, ?_⟩
      rw [List.length_cons, ← Nat.add_assoc, Nat.add_right_comm] at h
      exact hR.complete hp.tail hfound h

lemma copies (hR : Reads block R) (n : Nat) : Reads (Instruction.copies block n) (R.upTo (some n)) := by
  induction n with
  | zero =>
    rw [Reading.upTo_zero]
    exact nil
  | succ n ih =>
    rw [Reading.upTo_succ]
    refine (hR.append ih).maybe ?_
    rw [List.length_append, Instruction.length_copies, Nat.succ_mul]
    omega

lemma times (hR : Reads block R) (least : Nat) (most : Option Nat) :
    Reads (Instruction.repeated least most block) (R.times least most) := by
  rw [Instruction.repeated.eq_def, Reading.times]
  split
  · rw [Reading.power, Reading.nothing_andThen]
    exact hR.star
  · rename_i hleast
    obtain ⟨n, rfl⟩ := Nat.exists_eq_add_one_of_ne_zero hleast
    exact hR.plus n
  · rename_i most
    have hcopies : Instruction.optional block (most - least) [] = Instruction.copies block (0 + (most - least)) :=
      Instruction.optional_eq block (most - least) rfl
    rw [hcopies, Nat.zero_add]
    exact (hR.replicate least).append (hR.copies (most - least))

end Reads

namespace Instruction

lemma length_joined (left : Nat) (blocks : List (List Instruction)) :
    (joined left blocks).flatten.length = (blocks.map fun block => block.length + 1).sum := by
  induction blocks generalizing left with
  | nil => rfl
  | cons block blocks ih =>
    rw [joined, List.flatten_cons, List.length_append, ih, List.length_append, List.map_cons, List.sum_cons]
    rfl

lemma foldl_length (blocks : List (List Instruction)) (n : Nat) :
    blocks.foldl (fun n block => n + block.length + 1) n = n + (blocks.map fun block => block.length + 1).sum := by
  induction blocks generalizing n with
  | nil => rfl
  | cons block blocks ih =>
    rw [List.foldl_cons, ih, List.map_cons, List.sum_cons]
    omega

end Instruction

namespace Reads

variable {blocks : List (List Instruction)} {Rs : List Reading}

lemma sound_joined (h : List.Forall₂ Reads blocks Rs) {p : Program} {i n left : Nat} {fork distance way : Int}
    {before : Option Char} {cs : List Char} (hp : p.At i (Instruction.joined left blocks).flatten)
    (hleft : left = (blocks.map fun block => block.length + 1).sum) (hi : fork + distance = i)
    (hway : way ∈ Instruction.starts distance blocks) (hn : p.Runs n before (fork + way).toNat cs) :
    ∃ found rest m, m ≤ n ∧ cs = found ++ rest ∧ Reading.any Rs before found rest ∧
      p.Runs m (found.getLast?.or before) (i + left) rest := by
  induction h generalizing i left distance with
  | nil => simp [Instruction.starts] at hway
  | @cons block R blocks Rs hR _ ih =>
    rw [List.map_cons, List.sum_cons] at hleft
    rw [Instruction.joined, List.flatten_cons] at hp
    rw [Instruction.starts] at hway
    obtain rfl | hway := List.mem_cons.mp hway
    · obtain ⟨found, rest, m, hm, rfl, hfound, h⟩ := hR.sound hp.left.left (by simpa [hi] using hn)
      obtain ⟨l, rfl, way, hway, h⟩ := (Program.runs_fork_iff hp.left.right.getElem?).mp h
      obtain rfl := List.mem_singleton.mp hway
      have hexit : (((i + block.length : Nat) : Int) + (left - block.length)).toNat = i + left := by omega
      exact ⟨found, rest, l, by omega, rfl, ⟨R, List.mem_cons_self, hfound⟩, hexit ▸ h⟩
    · have hbehind := hp.right
      rw [List.length_append, List.length_singleton] at hbehind
      obtain ⟨found, rest, m, hm, rfl, ⟨S, hS, hfound⟩, h⟩ := ih hbehind (by omega) (by omega) hway
      have hexit : i + (block.length + 1) + (left - block.length - 1) = i + left := by omega
      exact ⟨found, rest, m, hm, rfl, ⟨S, List.mem_cons_of_mem R hS, hfound⟩, hexit ▸ h⟩

lemma complete_joined (h : List.Forall₂ Reads blocks Rs) {p : Program} {i left : Nat} {fork distance : Int}
    {before : Option Char} {found rest : List Char} (hp : p.At i (Instruction.joined left blocks).flatten)
    (hleft : left = (blocks.map fun block => block.length + 1).sum) (hi : fork + distance = i)
    (hfound : Reading.any Rs before found rest) (hm : p.Matches (found.getLast?.or before) (i + left) rest) :
    ∃ way ∈ Instruction.starts distance blocks, p.Matches before (fork + way).toNat (found ++ rest) := by
  induction h generalizing i left distance with
  | nil =>
    obtain ⟨R, hR, -⟩ := hfound
    cases hR
  | @cons block R blocks Rs hR _ ih =>
    rw [List.map_cons, List.sum_cons] at hleft
    rw [Instruction.joined, List.flatten_cons] at hp
    rw [Instruction.starts]
    obtain ⟨S, hS, hfound⟩ := hfound
    obtain rfl | hS := List.mem_cons.mp hS
    · refine ⟨distance, List.mem_cons_self, ?_⟩
      rw [hi, Int.toNat_natCast]
      refine hR.complete hp.left.left hfound ?_
      refine (Program.matches_fork_iff hp.left.right.getElem?).mpr ⟨_, List.mem_singleton_self _, ?_⟩
      have hexit : (((i + block.length : Nat) : Int) + (left - block.length)).toNat = i + left := by omega
      exact hexit ▸ hm
    · have hbehind := hp.right
      rw [List.length_append, List.length_singleton] at hbehind
      have hexit : i + left = i + (block.length + 1) + (left - block.length - 1) := by omega
      have hnext : fork + (distance + block.length + 1) = (i + (block.length + 1) : Nat) := by omega
      obtain ⟨way, hway, h⟩ := ih hbehind (by omega) hnext ⟨S, hS, hfound⟩ (hexit ▸ hm)
      exact ⟨way, List.mem_cons_of_mem distance hway, h⟩

lemma either (h : List.Forall₂ Reads blocks Rs) : Reads (Instruction.either blocks) (.any Rs) := by
  have hlength := Instruction.foldl_length blocks 0
  rw [Nat.zero_add] at hlength
  constructor
  case sound =>
    intro p i n before cs hp hn
    obtain ⟨m, rfl, way, hway, hm⟩ := (Program.runs_fork_iff hp.getElem?).mp hn
    obtain ⟨found, rest, l, hl, rfl, hfound, h⟩ := sound_joined h hp.tail hlength rfl hway hm
    refine ⟨found, rest, l, by omega, rfl, hfound, ?_⟩
    rw [Instruction.either, List.length_cons, Instruction.length_joined, ← hlength]
    rwa [Nat.add_right_comm] at h
  case complete =>
    intro p i before found rest hp hfound hm
    rw [Instruction.either, List.length_cons, Instruction.length_joined, ← hlength] at hm
    refine (Program.matches_fork_iff hp.getElem?).mpr (complete_joined h hp.tail hlength rfl hfound ?_)
    rwa [Nat.add_right_comm]

end Reads

mutual

theorem reads_code : ∀ p : Pattern, Reads p.code p.reading
  | .empty => .nil
  | .char fold c => by
    cases fold <;> exact .one (fun hi => by simp [Program.next, hi]) fun hi => by simp [Program.pass?, hi]
  | .set s => .one (fun hi => by simp [Program.next, hi]) fun hi => by simp [Program.pass?, hi]
  | .place q => .place q
  | .capture _ p => reads_code p
  | .seq ps => by
    rw [code, codes_eq, reading]
    exact .flatten (reads_codes ps)
  | .alt ps => by
    rw [code, codes_eq, reading]
    exact .either (reads_codes ps)
  | .times least most p => by
    rw [code, reading]
    exact (reads_code p).times _ _

theorem reads_codes : ∀ ps : List Pattern, List.Forall₂ Reads ([].reverse ++ ps.map code) (readings ps)
  | [] => .nil
  | p :: ps => .cons (reads_code p) (reads_codes ps)

end

theorem findsIn_iff_reading (p : Pattern) (s : String) : p.program.findsIn s = true ↔
    ∃ start found rest, s.toList = start ++ (found ++ rest) ∧ p.reading start.getLast? found rest := by
  have hat : p.program.At 0 p.code := List.prefix_rfl
  have hend : 0 + p.code.length = p.program.code.size := by simp [program]
  simp only [Program.findsIn_program_iff, Program.Occurs, Option.or_none]
  constructor
  · rintro ⟨start, rest, hs, hm⟩
    obtain ⟨n, hn⟩ := Program.matches_iff_runs.mp hm
    obtain ⟨found, rest, -, -, rfl, hfound, -⟩ := (reads_code p).sound hat hn
    exact ⟨start, found, rest, hs, hfound⟩
  · rintro ⟨start, found, rest, hs, hfound⟩
    exact ⟨start, found ++ rest, hs, (reads_code p).complete hat hfound (hend ▸ Program.matches_end)⟩

theorem findsIn_held_iff (ps : List Pattern) (s : String) :
    (seq (.place .textStart :: (ps ++ [.place .textEnd]))).program.findsIn s = true ↔
      (seq ps).reading none s.toList [] := by
  have hheld : (seq (.place .textStart :: (ps ++ [.place .textEnd]))).reading =
      (place .textStart).reading.andThen ((seq ps).reading.andThen (place .textEnd).reading) := by
    simp only [reading, readings, readings_append, Reading.all, Reading.all_append, Reading.andThen_nothing]
  rw [findsIn_iff_reading, hheld]
  constructor
  · rintro ⟨start, _, rest, hs, _, _, rfl, ⟨rfl, hstart⟩, found, _, rfl, hfound, rfl, hend⟩
    obtain rfl : start = [] := by simpa [Place.holds] using hstart
    obtain rfl : rest = [] := by simpa [Place.holds] using hend
    simpa [hs] using hfound
  · intro h
    exact ⟨[], s.toList, [], by simp, [], s.toList, rfl, ⟨rfl, rfl⟩, s.toList, [], by simp, by simpa using h, rfl, rfl⟩

end DataGrid.Pattern