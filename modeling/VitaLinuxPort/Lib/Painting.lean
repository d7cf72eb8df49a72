import Mathlib.Data.List.Flatten

/-!
# Painting a buffer

A loop over some places of a buffer that writes at each of them a value only the place determines.
Such a loop may be cut into jobs, its jobs may be done in any order and a place may be written twice:
what it leaves depends on the set of places alone, and where that is the whole buffer it does not
depend on what was there.
-/

namespace VitaLinuxPort

namespace Painting

variable {α J : Type*} {value : Nat → α}

/-- Writes at each of the places, in their order. -/
def paint (value : Nat → α) (places : List Nat) (buffer : List α) : List α :=
  places.foldl (fun buffer place => buffer.set place (value place)) buffer

theorem paint_cons (place : Nat) (places : List Nat) (buffer : List α) :
    paint value (place :: places) buffer
      = paint value places (buffer.set place (value place)) := rfl

theorem paint_append (first second : List Nat) (buffer : List α) :
    paint value (first ++ second) buffer = paint value second (paint value first buffer) := by
  simp only [paint, List.foldl_append]

@[simp] theorem length_paint (places : List Nat) (buffer : List α) :
    (paint value places buffer).length = buffer.length := by
  induction places generalizing buffer with
  | nil => rfl
  | cons place places ih => rw [paint_cons, ih, List.length_set]

theorem getElem?_paint (places : List Nat) (buffer : List α) (i : Nat) :
    (paint value places buffer)[i]?
      = if i ∈ places ∧ i < buffer.length then some (value i) else buffer[i]? := by
  induction places generalizing buffer with
  | nil => simp [paint]
  | cons place places ih =>
    rw [paint_cons, ih, List.length_set, List.getElem?_set]
    by_cases hplace : place = i
    · subst hplace
      by_cases hin : place < buffer.length <;> simp [hin]
    · have hother : ¬ i = place := fun h => hplace h.symm
      simp [hplace, hother]

/-- Jobs each of which paints its places paint the places of all of them. -/
theorem foldl_eq_paint {turn : List α → J → List α} {places : J → List Nat} {jobs : List J}
    {buffer : List α} (hturn : ∀ other, other.length = buffer.length → ∀ job ∈ jobs,
      turn other job = paint value (places job) other) :
    jobs.foldl turn buffer = paint value (jobs.flatMap places) buffer := by
  induction jobs generalizing buffer with
  | nil => rfl
  | cons job jobs ih =>
    rw [List.foldl_cons, List.flatMap_cons, paint_append, hturn buffer rfl job List.mem_cons_self]
    apply ih
    intro other hlength later hlater
    exact hturn other (hlength.trans (length_paint _ _)) later (List.mem_cons_of_mem _ hlater)

/-- Where everything is painted, nothing of the buffer is left. -/
theorem paint_eq_map {places : List Nat} {buffer : List α}
    (covers : ∀ i < buffer.length, i ∈ places) :
    paint value places buffer = (List.range buffer.length).map value := by
  apply List.ext_getElem?
  intro i
  rw [getElem?_paint, List.getElem?_map]
  by_cases hin : i < buffer.length
  · rw [if_pos ⟨covers i hin, hin⟩, List.getElem?_range hin, Option.map_some]
  · rw [if_neg (fun h => hin h.2), List.getElem?_eq_none (by omega),
      List.getElem?_eq_none (by rw [List.length_range]; omega), Option.map_none]

/-- Copies a block to the places from `offset` on. -/
def overwrite (buffer : List α) (offset : Nat) (block : List α) : List α :=
  buffer.take offset ++ block ++ buffer.drop (offset + block.length)

section Overwrite

variable {buffer block : List α} {offset : Nat}

theorem length_overwrite (h : offset + block.length ≤ buffer.length) :
    (overwrite buffer offset block).length = buffer.length := by
  simp only [overwrite, List.length_append, List.length_take, List.length_drop]
  omega

theorem take_overwrite (h : offset ≤ buffer.length) :
    (overwrite buffer offset block).take (offset + block.length) = buffer.take offset ++ block := by
  have hlength : (buffer.take offset ++ block).length = offset + block.length := by
    rw [List.length_append, List.length_take, Nat.min_eq_left h]
  rw [overwrite, ← hlength, List.take_left]

/-- A copied block is painted where the place determines what it holds. -/
theorem overwrite_eq_paint (h : offset + block.length ≤ buffer.length)
    (hvalue : ∀ i < block.length, block[i]? = some (value (offset + i))) :
    overwrite buffer offset block
      = paint value ((List.range block.length).map (offset + ·)) buffer := by
  apply List.ext_getElem?
  intro i
  have hmem : i ∈ (List.range block.length).map (offset + ·) ↔
      offset ≤ i ∧ i < offset + block.length := by
    simp only [List.mem_map, List.mem_range]
    constructor
    · rintro ⟨k, hk, rfl⟩
      omega
    · rintro ⟨hle, hlt⟩
      exact ⟨i - offset, by omega, by omega⟩
  have htake : (buffer.take offset).length = offset := by
    rw [List.length_take]
    omega
  simp only [getElem?_paint, hmem]
  rw [overwrite, List.append_assoc]
  by_cases hbefore : i < offset
  · rw [List.getElem?_append_left (by omega), List.getElem?_take_of_lt hbefore, if_neg (by omega)]
  · rw [List.getElem?_append_right (by omega), htake]
    by_cases hin : i < offset + block.length
    · rw [List.getElem?_append_left (by omega), hvalue _ (by omega), if_pos (by omega),
        show offset + (i - offset) = i by omega]
    · rw [List.getElem?_append_right (by omega), List.getElem?_drop, if_neg (by omega),
        show offset + block.length + (i - offset - block.length) = i by omega]

end Overwrite

/-- The places of a grid, row by row. -/
theorem flatMap_range_eq (rows width : Nat) :
    ((List.range rows).flatMap fun row => (List.range width).map fun x => row * width + x)
      = List.range (rows * width) := by
  induction rows with
  | zero => simp
  | succ rows ih =>
    rw [List.range_succ, List.flatMap_append, ih, Nat.add_one_mul, List.range_add,
      List.flatMap_singleton]

section Blocks

variable {β : Type*} {block : α → List β} {size : Nat}

theorem length_flatMap_block {l : List α} (hsize : ∀ a ∈ l, (block a).length = size) :
    (l.flatMap block).length = l.length * size := by
  induction l with
  | nil => simp
  | cons a l ih =>
    obtain ⟨ha, hl⟩ := List.forall_mem_cons.mp hsize
    rw [List.flatMap_cons, List.length_append, ih hl, ha, List.length_cons, Nat.add_one_mul,
      Nat.add_comm]

/-- Blocks of one size, one after another, read by block and by place in the block. -/
theorem getElem?_flatMap_block {l : List α} (hsize : ∀ a ∈ l, (block a).length = size) (i : Nat)
    {k : Nat} (hk : k < size) :
    (l.flatMap block)[i * size + k]? = l[i]?.bind fun a => (block a)[k]? := by
  induction l generalizing i with
  | nil => rfl
  | cons a l ih =>
    obtain ⟨ha, hl⟩ := List.forall_mem_cons.mp hsize
    rw [List.flatMap_cons]
    cases i with
    | zero =>
      rw [List.getElem?_append_left (by omega), Nat.zero_mul, Nat.zero_add]
      rfl
    | succ i =>
      rw [List.getElem?_append_right (by rw [ha, Nat.add_one_mul]; omega), ha, Nat.add_one_mul,
        show i * size + size + k - size = i * size + k by omega, ih hl]
      rfl

end Blocks

end Painting

end VitaLinuxPort
