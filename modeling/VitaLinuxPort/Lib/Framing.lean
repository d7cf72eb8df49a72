import Mathlib.Data.List.Basic

/-!
# Records in a byte stream

A stream of fixed-size records arrives in pieces that need not end where a record ends. Whoever
reassembles it holds back the bytes of an incomplete record until the rest arrives. The records
obtained that way do not depend on where the pieces end.
-/

namespace VitaLinuxPort

namespace Framing

variable {α : Type*} {n : Nat} {front back bytes : List α}

/-- The whole records of size `n` at the front of the bytes. -/
def records (n : Nat) (bytes : List α) : List (List α) :=
  (List.range (bytes.length / n)).map fun i => (bytes.drop (i * n)).take n

/-- The bytes after the last whole record. -/
def rest (n : Nat) (bytes : List α) : List α := bytes.drop (bytes.length / n * n)

theorem records_of_lt (h : bytes.length < n) : records n bytes = [] := by
  simp [records, Nat.div_eq_of_lt h]

theorem rest_of_lt (h : bytes.length < n) : rest n bytes = bytes := by
  simp [rest, Nat.div_eq_of_lt h]

private theorem div_of_le (hn : 0 < n) (h : n ≤ bytes.length) :
    bytes.length / n = (bytes.drop n).length / n + 1 := by
  rw [List.length_drop, Nat.div_eq_sub_div hn h]

theorem records_of_le (hn : 0 < n) (h : n ≤ bytes.length) :
    records n bytes = bytes.take n :: records n (bytes.drop n) := by
  rw [records, div_of_le hn h, List.range_succ_eq_map, List.map_cons, List.map_map, records]
  simp [Function.comp_def, List.drop_drop, Nat.succ_mul, Nat.add_comm]

theorem rest_of_le (hn : 0 < n) (h : n ≤ bytes.length) :
    rest n bytes = rest n (bytes.drop n) := by
  rw [rest, div_of_le hn h, rest, List.drop_drop, Nat.succ_mul, Nat.add_comm]

@[simp] theorem length_records (n : Nat) (bytes : List α) :
    (records n bytes).length = bytes.length / n := by
  simp [records]

@[simp] theorem length_rest (n : Nat) (bytes : List α) :
    (rest n bytes).length = bytes.length % n := by
  rw [rest, List.length_drop, Nat.mul_comm]
  have hdivide := Nat.div_add_mod bytes.length n
  omega

theorem length_rest_lt (hn : 0 < n) (bytes : List α) : (rest n bytes).length < n := by
  rw [length_rest]
  exact Nat.mod_lt _ hn

theorem records_append (hn : 0 < n) (front back : List α) :
    records n (front ++ back) = records n front ++ records n (rest n front ++ back) := by
  induction hlength : front.length using Nat.strongRecOn generalizing front with
  | ind length ih =>
      rcases Nat.lt_or_ge front.length n with hshort | hlong
      · rw [records_of_lt hshort, rest_of_lt hshort, List.nil_append]
      · have hdrop : (front.drop n).length < length := by
          rw [List.length_drop]
          omega
        rw [records_of_le hn hlong, rest_of_le hn hlong,
          records_of_le hn (by rw [List.length_append]; omega),
          List.take_append_of_le_length hlong, List.drop_append_of_le_length hlong,
          ih _ hdrop _ rfl, List.cons_append]

theorem rest_append (hn : 0 < n) (front back : List α) :
    rest n (front ++ back) = rest n (rest n front ++ back) := by
  induction hlength : front.length using Nat.strongRecOn generalizing front with
  | ind length ih =>
      rcases Nat.lt_or_ge front.length n with hshort | hlong
      · rw [rest_of_lt hshort]
      · have hdrop : (front.drop n).length < length := by
          rw [List.length_drop]
          omega
        rw [rest_of_le hn hlong, rest_of_le hn (by rw [List.length_append]; omega),
          List.drop_append_of_le_length hlong, ih _ hdrop _ rfl]

end Framing

end VitaLinuxPort
