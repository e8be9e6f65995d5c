import DataGrid.Proofs.Pattern.Closure

namespace DataGrid.Pattern

def Light (is : List Instruction) : Prop := (is.map Instruction.ways).sum ≤ 3 * is.length

namespace Light

lemma nil : Light [] := le_rfl

lemma cons {i : Instruction} {is : List Instruction} (hi : i.ways ≤ 3) (his : Light is) : Light (i :: is) := by
  simp only [Light, List.map_cons, List.sum_cons, List.length_cons] at his ⊢
  omega

lemma append {is js : List Instruction} (his : Light is) (hjs : Light js) : Light (is ++ js) := by
  simp only [Light, List.map_append, List.sum_append, List.length_append] at his hjs ⊢
  omega

lemma flatten {blocks : List (List Instruction)} (h : ∀ is ∈ blocks, Light is) : Light blocks.flatten := by
  induction blocks with
  | nil => exact nil
  | cons is blocks ih =>
    exact (h is List.mem_cons_self).append (ih fun js hjs => h js (List.mem_cons_of_mem is hjs))

end Light

namespace Instruction

lemma length_starts (distance : Int) (blocks : List (List Instruction)) :
    (starts distance blocks).length = blocks.length := by
  induction blocks generalizing distance with
  | nil => rfl
  | cons block blocks ih => rw [starts, List.length_cons, ih, List.length_cons]

lemma ways_joined {blocks : List (List Instruction)} (h : ∀ is ∈ blocks, Light is) (left : Nat) :
    ((joined left blocks).flatten.map ways).sum + 2 * blocks.length ≤ 3 * (joined left blocks).flatten.length := by
  induction blocks generalizing left with
  | nil => exact le_rfl
  | cons block blocks ih =>
    have hblock : Light block := h block List.mem_cons_self
    have hblocks := ih (fun js hjs => h js (List.mem_cons_of_mem block hjs)) (left - block.length - 1)
    simp only [Light] at hblock
    simp only [joined, List.flatten_cons, List.map_append, List.sum_append, List.length_append, List.map_cons,
      List.map_nil, List.sum_cons, List.sum_nil, List.length_cons, List.length_nil, ways]
    omega

lemma light_either {blocks : List (List Instruction)} (h : ∀ is ∈ blocks, Light is) : Light (either blocks) := by
  have hjoined := ways_joined h (blocks.foldl (fun n block => n + block.length + 1) 0)
  simp only [Light, either, List.map_cons, List.sum_cons, List.length_cons, ways, length_starts]
  omega

lemma light_optional {block : List Instruction} (h : Light block) (n : Nat) {done : List (List Instruction)}
    (hdone : ∀ is ∈ done, Light is) : Light (optional block n done) := by
  induction n generalizing done with
  | zero => exact Light.flatten hdone
  | succ n ih =>
    refine ih fun is his => ?_
    obtain rfl | his := List.mem_cons.mp his
    · exact Light.cons (by simp [ways]) h
    · exact hdone is his

lemma light_repeated {block : List Instruction} (h : Light block) (least : Nat) (most : Option Nat) :
    Light (repeated least most block) := by
  have hstart : Light (List.replicate least block).flatten :=
    Light.flatten fun is his => List.eq_of_mem_replicate his ▸ h
  rw [repeated.eq_def]
  split
  · exact Light.cons (by simp [ways]) (h.append (Light.cons (by simp [ways]) .nil))
  · exact hstart.append (Light.cons (by simp [ways]) .nil)
  · exact hstart.append (light_optional h _ (by simp))

end Instruction

lemma codes_eq (done : List (List Instruction)) (ps : List Pattern) : codes done ps = done.reverse ++ ps.map code := by
  induction ps generalizing done with
  | nil => simp [codes]
  | cons p ps ih => simp [codes, ih]

mutual

theorem light_code : ∀ p : Pattern, Light p.code
  | .empty => .nil
  | .char fold c => by cases fold <;> exact .cons (Nat.zero_le 3) .nil
  | .set s => .cons (Nat.zero_le 3) .nil
  | .place q => .cons (by simp [Instruction.ways]) .nil
  | .capture _ p => light_code p
  | .seq ps => by
    rw [code, codes_eq]
    exact .flatten (light_codes ps)
  | .alt ps => by
    rw [code, codes_eq]
    exact Instruction.light_either (light_codes ps)
  | .times least most p => by
    rw [code]
    exact Instruction.light_repeated (light_code p) _ _

theorem light_codes : ∀ ps : List Pattern, ∀ is ∈ [].reverse ++ ps.map code, Light is
  | [], is, his => by simp at his
  | p :: ps, is, his => by
    rw [List.reverse_nil, List.nil_append, List.map_cons, List.mem_cons] at his
    obtain rfl | his := his
    · exact light_code p
    · exact light_codes ps is his

end

lemma ways_program_le (p : Pattern) : p.program.ways ≤ 3 * p.program.code.size := by
  simpa [Program.ways, program, Light] using light_code p

end DataGrid.Pattern
