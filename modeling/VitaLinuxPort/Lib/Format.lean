import VitaLinuxPort.Lib.Ppm

/-!
# Formats that say where they end

A format writes values as sequences and reads a value from the front of a sequence. What it has read
does not depend on what follows, so that a value that was cut off is never read: not as itself, and not
as another value. Formats are put together from fixed texts, fields up to a separator, numbers and
blocks whose length an earlier field gives.
-/

namespace VitaLinuxPort

structure Format (σ α : Type*) where
  encode : α → List σ
  decode : List σ → Option (α × List σ)
  valid : α → Prop
  decode_encode : ∀ (a : α) (rest : List σ), valid a → decode (encode a ++ rest) = some (a, rest)
  decode_append : ∀ {input : List σ} {a : α} {rest : List σ} (more : List σ),
    decode input = some (a, rest) → decode (input ++ more) = some (a, rest ++ more)

namespace Format

variable {σ α β : Type*}

theorem decode_self (F : Format σ α) {a : α} (h : F.valid a) : F.decode (F.encode a) = some (a, []) := by
  have hdecode := F.decode_encode a [] h
  rwa [List.append_nil] at hdecode

/-- What is cut off is not read. -/
theorem decode_of_prefix (F : Format σ α) {a : α} (h : F.valid a) {input : List σ}
    (hfront : input <+: F.encode a) (hne : input ≠ F.encode a) : F.decode input = none := by
  obtain ⟨missing, hmissing⟩ := hfront
  rw [Option.eq_none_iff_forall_ne_some]
  rintro ⟨b, rest⟩ hdecode
  have hmore := F.decode_append missing hdecode
  rw [hmissing, F.decode_self h, Option.some.injEq, Prod.mk.injEq] at hmore
  have hnil : missing = [] := (List.append_eq_nil_iff.mp hmore.2.symm).2
  rw [hnil, List.append_nil] at hmissing
  exact hne hmissing

/-- So two values are read apart wherever they stand. -/
theorem encode_append_inj (F : Format σ α) {a b : α} {rest more : List σ} (ha : F.valid a)
    (hb : F.valid b) (h : F.encode a ++ rest = F.encode b ++ more) : a = b ∧ rest = more := by
  have hdecode := F.decode_encode a rest ha
  rw [h, F.decode_encode b more hb, Option.some.injEq, Prod.mk.injEq] at hdecode
  exact ⟨hdecode.1.symm, hdecode.2.symm⟩

section Parts

variable [DecidableEq σ]

/-- A fixed text. -/
def literal (text : List σ) : Format σ Unit where
  encode _ := text
  decode input := if text <+: input then some ((), input.drop text.length) else none
  valid _ := True
  decode_encode _ rest _ := by rw [if_pos (List.prefix_append _ _), List.drop_left]
  decode_append {input _ rest} more h := by
    split at h
    · next hfront =>
        cases h
        rw [if_pos (hfront.trans (List.prefix_append _ _)),
          List.drop_append_of_le_length hfront.length_le]
    · cases h

/-- What precedes the first separator, and what follows it. -/
def cutAt (sep : σ) : List σ → Option (List σ × List σ)
  | [] => none
  | c :: input =>
      if c = sep then some ([], input)
      else (cutAt sep input).map fun (text, rest) => (c :: text, rest)

theorem cutAt_of_notMem {sep : σ} {text : List σ} (h : sep ∉ text) (rest : List σ) :
    cutAt sep (text ++ sep :: rest) = some (text, rest) := by
  induction text with
  | nil => exact if_pos rfl
  | cons c text ih =>
      rw [List.mem_cons, not_or] at h
      rw [List.cons_append, cutAt, if_neg (Ne.symm h.1), ih h.2]
      rfl

theorem cutAt_append {sep : σ} {input text rest : List σ} (h : cutAt sep input = some (text, rest))
    (more : List σ) : cutAt sep (input ++ more) = some (text, rest ++ more) := by
  induction input generalizing text with
  | nil => cases h
  | cons c input ih =>
      rw [cutAt] at h
      rw [List.cons_append, cutAt]
      split at h
      · next hc =>
          cases h
          rw [if_pos hc]
      · next hc =>
          obtain ⟨⟨text', rest'⟩, hcut, hpair⟩ := Option.map_eq_some_iff.mp h
          cases hpair
          rw [if_neg hc, ih hcut]
          rfl

/-- A field, and the separator that ends it. -/
def upTo (sep : σ) : Format σ (List σ) where
  encode text := text ++ [sep]
  decode := cutAt sep
  valid text := sep ∉ text
  decode_encode text rest h := by
    rw [List.append_assoc]
    exact cutAt_of_notMem h rest
  decode_append more h := cutAt_append h more

@[simp] theorem literal_encode (text : List σ) (a : Unit) : (literal text).encode a = text := rfl

@[simp] theorem literal_valid (text : List σ) (a : Unit) : (literal text).valid a ↔ True := Iff.rfl

@[simp] theorem upTo_encode (sep : σ) (text : List σ) : (upTo sep).encode text = text ++ [sep] := rfl

@[simp] theorem upTo_valid (sep : σ) (text : List σ) : (upTo sep).valid text ↔ sep ∉ text := Iff.rfl

end Parts

/-- A block of a known length. -/
def sized (count : Nat) : Format σ (List σ) where
  encode block := block
  decode input := if count ≤ input.length then some (input.splitAt count) else none
  valid block := block.length = count
  decode_encode block rest h := by
    rw [if_pos (by rw [List.length_append]; omega), ← h, List.splitAt_eq, List.take_left,
      List.drop_left]
  decode_append {input block rest} more h := by
    split at h
    · next hcount =>
        rw [List.splitAt_eq] at h
        cases h
        rw [if_pos (by rw [List.length_append]; omega), List.splitAt_eq,
          List.take_append_of_le_length hcount, List.drop_append_of_le_length hcount]
    · cases h

@[simp] theorem sized_encode (count : Nat) (block : List σ) :
    (sized count).encode block = block := rfl

@[simp] theorem sized_valid (count : Nat) (block : List σ) :
    (sized count).valid block ↔ block.length = count := Iff.rfl

/-- One format after the other, which may depend on what the first has read. -/
def andThen (F : Format σ α) (G : α → Format σ β) : Format σ (α × β) where
  encode p := F.encode p.1 ++ (G p.1).encode p.2
  decode input :=
    (F.decode input).bind fun first =>
      ((G first.1).decode first.2).map fun second => ((first.1, second.1), second.2)
  valid p := F.valid p.1 ∧ (G p.1).valid p.2
  decode_encode p rest h := by
    rw [List.append_assoc, F.decode_encode p.1 _ h.1, Option.bind_some,
      (G p.1).decode_encode p.2 rest h.2, Option.map_some]
  decode_append {input p rest} more h := by
    obtain ⟨first, hfirst, hmap⟩ := Option.bind_eq_some_iff.mp h
    obtain ⟨second, hsecond, hpair⟩ := Option.map_eq_some_iff.mp hmap
    cases hpair
    rw [F.decode_append more hfirst, Option.bind_some, (G first.1).decode_append more hsecond,
      Option.map_some]

@[simp] theorem andThen_encode (F : Format σ α) (G : α → Format σ β) (p : α × β) :
    (F.andThen G).encode p = F.encode p.1 ++ (G p.1).encode p.2 := rfl

@[simp] theorem andThen_valid (F : Format σ α) (G : α → Format σ β) (p : α × β) :
    (F.andThen G).valid p ↔ F.valid p.1 ∧ (G p.1).valid p.2 := Iff.rfl

/-- Other values under the same format, where those it writes can be read back. -/
def reading (F : Format σ α) (write : β → α) (read : α → Option β)
    (h : ∀ b, read (write b) = some b) : Format σ β where
  encode b := F.encode (write b)
  decode input :=
    (F.decode input).bind fun first => (read first.1).map fun b => (b, first.2)
  valid b := F.valid (write b)
  decode_encode b rest hvalid := by
    rw [F.decode_encode _ rest hvalid, Option.bind_some, h, Option.map_some]
  decode_append {input b rest} more hdecode := by
    obtain ⟨first, hfirst, hmap⟩ := Option.bind_eq_some_iff.mp hdecode
    obtain ⟨c, hread, hpair⟩ := Option.map_eq_some_iff.mp hmap
    cases hpair
    rw [F.decode_append more hfirst, Option.bind_some, hread, Option.map_some]

@[simp] theorem reading_encode (F : Format σ α) (write : β → α) (read : α → Option β)
    (h : ∀ b, read (write b) = some b) (b : β) :
    (F.reading write read h).encode b = F.encode (write b) := rfl

@[simp] theorem reading_valid (F : Format σ α) (write : β → α) (read : α → Option β)
    (h : ∀ b, read (write b) = some b) (b : β) :
    (F.reading write read h).valid b ↔ F.valid (write b) := Iff.rfl

/-- The value of decimal digits. -/
def readDigits (digits : List UInt8) : Option Nat :=
  if digits.isEmpty || !digits.all Python.isDigit then none
  else some (digits.foldl (fun value c => value * 10 + (c.toNat - 48)) 0)

def digits (n : Nat) : List UInt8 := (Nat.toDigits 10 n).map fun c => UInt8.ofNat c.toNat

theorem readDigits_digits (n : Nat) : readDigits (digits n) = some n := by
  have hnumber := Ppm.number_toDigits n
  have hempty : (digits n).isEmpty = false := by
    rw [List.isEmpty_eq_false_iff]
    exact hnumber.nonempty
  have hall : (digits n).all Python.isDigit = true := List.all_eq_true.mpr hnumber.isDigit
  rw [readDigits, hempty, hall]
  exact congrArg some hnumber.value

/-- A number in decimal digits, and the separator that ends it. -/
def number (sep : UInt8) : Format UInt8 Nat :=
  (upTo sep).reading digits readDigits readDigits_digits

@[simp] theorem number_encode (sep : UInt8) (n : Nat) :
    (number sep).encode n = digits n ++ [sep] := rfl

theorem number_valid {sep : UInt8} (hsep : Python.isDigit sep = false) (n : Nat) :
    (number sep).valid n := by
  intro hmem
  rw [(Ppm.number_toDigits n).isDigit sep hmem] at hsep
  cases hsep

end Format

end VitaLinuxPort
