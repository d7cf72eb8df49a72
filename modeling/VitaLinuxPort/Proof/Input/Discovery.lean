import Mathlib.Data.List.Sort
import VitaLinuxPort.Cart.Input.Discovery

/-!
# What a discovery pass does

The scan yields candidates prepared from the entries of the directory, at most one an entry; the
plan is those candidates sorted. The pass then hands them out, best first, to the empty slots in
their order, and closes what is left over: the claims are the empty slots zipped with the plan.
-/

namespace VitaLinuxPort

structure CartInputCandidate.Prepared (candidate : CartInputCandidate) : Prop where
  fd_nonneg : 0 ≤ candidate.fd
  node : candidate.prepared.node = candidate.node
  generation : candidate.prepared.generation = 0

theorem probeSnapshotAxes_prepared (source : CartInputSource) (fd : Int) (probe : Probe) :
    (probeSnapshotAxes source fd probe).1.node = source.node ∧
      (probeSnapshotAxes source fd probe).1.generation = source.generation := by
  unfold probeSnapshotAxes
  dsimp only
  split <;> exact ⟨rfl, rfl⟩

theorem classifySource_prepared (scratch : CartInputSource) (fd sysfsRank : Int) (probe : Probe) :
    (classifySource scratch fd sysfsRank probe).2.1.node = scratch.node ∧
      (classifySource scratch fd sysfsRank probe).2.1.generation = scratch.generation := by
  unfold classifySource
  split
  · exact ⟨rfl, rfl⟩
  · next name _ =>
      have hsnapshot := probeSnapshotAxes_prepared
        { scratch with name := name.take (cartInputNameMax - 1) } fd probe
      simp only [apply_ite Prod.snd, apply_ite Prod.fst]
      split_ifs
      any_goals exact ⟨rfl, rfl⟩
      all_goals exact hsnapshot

theorem examineEntry_prepared {entry : Dirent} {candidate : CartInputCandidate}
    (h : (examineEntry entry).1 = some candidate) :
    candidate.Prepared ∧ candidate.node = entry.dName := by
  have hclassified := classifySource_prepared
    { CartInputSource.zero with fd := -1, node := entry.dName } entry.opened (sysfsRank entry)
    entry.probe
  unfold examineEntry at h
  split at h
  · cases h
  · split_ifs at h with hlong hclosed
    dsimp only at h
    split at h
    · cases h
    · cases h
      exact ⟨⟨by simpa using hclosed, hclassified.1, hclassified.2⟩, rfl⟩

theorem exists_entry_of_mem_scanDirectory {count : Nat} {entries : List Dirent}
    {candidate : CartInputCandidate} (h : candidate ∈ (scanDirectory count entries).1) :
    ∃ entry ∈ entries, (examineEntry entry).1 = some candidate := by
  induction entries generalizing count with
  | nil => simp [scanDirectory] at h
  | cons entry rest ih =>
      rw [scanDirectory] at h
      split at h
      · rcases List.mem_append.mp h with hfound | hothers
        · exact ⟨entry, List.mem_cons_self, Option.mem_toList.mp hfound⟩
        · obtain ⟨other, hother, hexamined⟩ := ih hothers
          exact ⟨other, List.mem_cons_of_mem _ hother, hexamined⟩
      · simp at h

theorem map_node_scanDirectory_sublist (count : Nat) (entries : List Dirent) :
    ((scanDirectory count entries).1.map CartInputCandidate.node).Sublist
      (entries.map Dirent.dName) := by
  induction entries generalizing count with
  | nil => simp [scanDirectory]
  | cons entry rest ih =>
      rw [scanDirectory]
      split
      · dsimp only
        rcases hentry : (examineEntry entry).1 with _ | candidate
        · exact (ih _).cons _
        · have hnode := (examineEntry_prepared hentry).2
          simp only [Option.toList_some, List.singleton_append, List.map_cons, hnode]
          exact (ih _).cons_cons _
      · simp

/-- `earlier` may stand before `later` in the plan: the insertion of one would not shift the other. -/
def CartInputCandidate.Before (earlier later : CartInputCandidate) : Prop :=
  later.rank < earlier.rank ∨ (earlier.rank = later.rank ∧ earlier.number ≤ later.number)

private def After (later earlier : CartInputCandidate) : Prop := earlier.Before later

private instance : DecidableRel After := fun _ _ => inferInstanceAs (Decidable (_ ∨ _ ∧ _))

private instance : Std.Total After where
  total a b := by
    simp only [After, CartInputCandidate.Before]
    omega

private instance : IsTrans CartInputCandidate After where
  trans a b c := by
    simp only [After, CartInputCandidate.Before]
    omega

private theorem insertCandidate_eq_orderedInsert (key : CartInputCandidate)
    (sorted : List CartInputCandidate) :
    insertCandidate key sorted = sorted.orderedInsert After key := by
  induction sorted with
  | nil => rfl
  | cons last front ih =>
      have hshift : last.shiftedBy key = true ↔ ¬ After key last := by
        simp only [CartInputCandidate.shiftedBy, After, CartInputCandidate.Before, Bool.or_eq_true,
          Bool.and_eq_true, decide_eq_true_eq, beq_iff_eq]
        omega
      rw [insertCandidate, List.orderedInsert_cons, ih]
      by_cases hafter : After key last
      · rw [if_neg (fun h => hshift.mp h hafter), if_pos hafter]
      · rw [if_pos (hshift.mpr hafter), if_neg hafter]

private theorem cartInputPlan_eq (candidates : List CartInputCandidate) :
    cartInputPlan candidates = (candidates.reverse.insertionSort After).reverse := by
  rw [cartInputPlan, List.insertionSort, List.foldr_reverse]
  simp only [insertCandidate_eq_orderedInsert]

theorem cartInputPlan_perm (candidates : List CartInputCandidate) :
    (cartInputPlan candidates).Perm candidates := by
  rw [cartInputPlan_eq]
  exact ((List.reverse_perm _).trans (List.perm_insertionSort _ _)).trans (List.reverse_perm _)

theorem cartInputPlan_pairwise (candidates : List CartInputCandidate) :
    (cartInputPlan candidates).Pairwise CartInputCandidate.Before := by
  rw [cartInputPlan_eq, List.pairwise_reverse]
  exact List.pairwise_insertionSort After _

/-- The candidates a pass over the directory has for the slots, best first. -/
def Directory.planned : Directory → List CartInputCandidate
  | .missing | .unreadable => []
  | .entries list => cartInputPlan (scanDirectory 0 list).1

theorem exists_entry_of_mem_planned {directory : Directory} {candidate : CartInputCandidate}
    (h : candidate ∈ directory.planned) :
    ∃ entry, (examineEntry entry).1 = some candidate := by
  cases directory with
  | missing => simp [Directory.planned] at h
  | unreadable => simp [Directory.planned] at h
  | entries list =>
      obtain ⟨entry, _, hexamined⟩ :=
        exists_entry_of_mem_scanDirectory ((cartInputPlan_perm _).mem_iff.mp h)
      exact ⟨entry, hexamined⟩

theorem prepared_of_mem_planned {directory : Directory} {candidate : CartInputCandidate}
    (h : candidate ∈ directory.planned) : candidate.Prepared := by
  obtain ⟨entry, hexamined⟩ := exists_entry_of_mem_planned h
  exact (examineEntry_prepared hexamined).1

theorem planned_pairwise (directory : Directory) :
    directory.planned.Pairwise CartInputCandidate.Before := by
  cases directory with
  | missing => exact .nil
  | unreadable => exact .nil
  | entries list => exact cartInputPlan_pairwise _

def Directory.NamesNodup : Directory → Prop
  | .missing | .unreadable => True
  | .entries list => (list.map Dirent.dName).Nodup

theorem nodup_planned_nodes {directory : Directory} (h : directory.NamesNodup) :
    (directory.planned.map CartInputCandidate.node).Nodup := by
  cases directory with
  | missing => exact .nil
  | unreadable => exact .nil
  | entries list =>
      have hscan := (map_node_scanDirectory_sublist 0 list).nodup h
      exact ((cartInputPlan_perm _).map _).nodup_iff.mpr hscan

def CartInput.emptySlots (input : CartInput) : List Slot :=
  (List.finRange 4).filter (slotEmpty input)

theorem mem_emptySlots {input : CartInput} {slot : Slot} :
    slot ∈ input.emptySlots ↔ (input.source slot).fd < 0 := by
  simp [CartInput.emptySlots, slotEmpty]

theorem emptySlots_pairwise (input : CartInput) : input.emptySlots.Pairwise (· < ·) :=
  (List.pairwise_lt_finRange 4).filter _

theorem firstFreeSlot_eq_head? (input : CartInput) :
    firstFreeSlot input = input.emptySlots.head? := by
  rw [firstFreeSlot, CartInput.emptySlots, List.head?_filter]

theorem emptySlots_setSource {input : CartInput} {slot : Slot} {slots : List Slot}
    (h : input.emptySlots = slot :: slots) {source : CartInputSource} (hfd : 0 ≤ source.fd) :
    (input.setSource slot source).emptySlots = slots := by
  have hnodup : (slot :: slots).Nodup := h ▸ (emptySlots_pairwise input).imp ne_of_lt
  have hfilter : (input.setSource slot source).emptySlots =
      input.emptySlots.filter fun other => decide (other ≠ slot) := by
    rw [CartInput.emptySlots, CartInput.emptySlots, List.filter_filter]
    refine List.filter_congr fun other _ => ?_
    by_cases hother : other = slot
    · subst hother
      simpa [slotEmpty, CartInput.setSource] using hfd
    · simp [slotEmpty, CartInput.setSource, hother]
  rw [hfilter, h, List.filter_cons_of_neg (by simp), List.filter_eq_self]
  intro other hmem
  simp only [decide_eq_true_eq]
  rintro rfl
  exact (List.nodup_cons.mp hnodup).1 hmem

def CartInput.withClaims (input : CartInput) (claimed : List (Slot × CartInputCandidate)) :
    CartInput :=
  { input with
    source := fun slot => (claimed.lookup slot).elim (input.source slot)
      CartInputCandidate.connected }

theorem source_withClaims (input : CartInput) (claimed : List (Slot × CartInputCandidate))
    (slot : Slot) :
    (input.withClaims claimed).source slot =
      (claimed.lookup slot).elim (input.source slot) CartInputCandidate.connected := rfl

theorem withClaims_setSource (input : CartInput) {slot : Slot} {slots : List Slot}
    {candidate : CartInputCandidate} {rest : List CartInputCandidate} (hslot : slot ∉ slots) :
    (input.setSource slot candidate.connected).withClaims (slots.zip rest) =
      input.withClaims ((slot, candidate) :: slots.zip rest) := by
  simp only [CartInput.withClaims, CartInput.setSource, CartInput.mk.injEq, and_true]
  funext other
  by_cases hother : other = slot
  · subst hother
    have hnone : (slots.zip rest).lookup other = none := by
      rw [List.lookup_eq_none_iff]
      intro pair hpair
      have hmem := (List.of_mem_zip hpair).1
      simp only [bne_iff_ne, ne_eq]
      rintro rfl
      exact hslot hmem
    simp [hnone]
  · simp [List.lookup_cons, beq_false_of_ne hother, Function.update_of_ne hother]

/-- The claims are the empty slots zipped with the candidates; the others are closed. -/
theorem claimCandidates_eq (input : CartInput) {candidates : List CartInputCandidate}
    (hprepared : ∀ candidate ∈ candidates, candidate.Prepared) :
    (claimCandidates input candidates).claimed = input.emptySlots.zip candidates ∧
      (claimCandidates input candidates).input =
        input.withClaims (input.emptySlots.zip candidates) ∧
      (claimCandidates input candidates).calls =
        (candidates.drop input.emptySlots.length).map (fun candidate => .close candidate.fd) := by
  induction candidates generalizing input with
  | nil => simp [claimCandidates, CartInput.withClaims]
  | cons candidate rest ih =>
      have hfd := (hprepared candidate List.mem_cons_self).fd_nonneg
      have ih := fun input => ih input fun c hc => hprepared c (List.mem_cons_of_mem _ hc)
      rw [claimCandidates, firstFreeSlot_eq_head?]
      rcases hslots : input.emptySlots with _ | ⟨slot, slots⟩
      · obtain ⟨hclaimed, hinput, hcalls⟩ := ih input
        rw [hslots] at hclaimed hinput hcalls
        simpa [hcalls, hclaimed] using hinput
      · have htail : (input.setSource slot candidate.connected).emptySlots = slots :=
          emptySlots_setSource hslots hfd
        obtain ⟨hclaimed, hinput, hcalls⟩ := ih (input.setSource slot candidate.connected)
        rw [htail] at hclaimed hinput hcalls
        have hslot : slot ∉ slots := by
          have hnodup : (slot :: slots).Nodup := hslots ▸ (emptySlots_pairwise input).imp ne_of_lt
          exact (List.nodup_cons.mp hnodup).1
        refine ⟨?_, ?_, ?_⟩
        · simpa using hclaimed
        · rw [List.head?_cons]
          dsimp only
          rw [hinput, List.zip_cons_cons, withClaims_setSource input hslot]
        · simpa using hcalls

theorem candidates_claimCandidates (input : CartInput) (candidates : List CartInputCandidate) :
    ∀ candidate ∈ (claimCandidates input candidates).candidates, candidate.fd = -1 := by
  induction candidates generalizing input with
  | nil => simp [claimCandidates]
  | cons candidate rest ih =>
      rw [claimCandidates]
      split <;> exact List.forall_mem_cons.mpr ⟨rfl, ih _⟩

theorem sweepLeftovers_claimCandidates (input : CartInput) (candidates : List CartInputCandidate) :
    sweepLeftovers (claimCandidates input candidates).input
      (claimCandidates input candidates).candidates = [] := by
  rw [sweepLeftovers, List.flatMap_eq_nil_iff]
  intro candidate hmem
  rw [candidates_claimCandidates input candidates candidate hmem]
  simp

def CartInput.claims (input : CartInput) (directory : Directory) :
    List (Slot × CartInputCandidate) :=
  input.emptySlots.zip directory.planned

theorem claimed_discoverPass (input : CartInput) (directory : Directory) :
    (discoverPass input directory).claimed = input.claims directory := by
  cases directory with
  | missing => simp [discoverPass, CartInput.claims, Directory.planned]
  | unreadable => simp [discoverPass, CartInput.claims, Directory.planned]
  | entries list =>
      have hprepared : ∀ candidate ∈ (Directory.entries list).planned, candidate.Prepared :=
        fun _ => prepared_of_mem_planned
      exact (claimCandidates_eq input hprepared).1

theorem input_discoverPass (input : CartInput) (directory : Directory) :
    (discoverPass input directory).input = input.withClaims (input.claims directory) := by
  cases directory with
  | missing => simp [discoverPass, CartInput.withClaims, CartInput.claims, Directory.planned]
  | unreadable => simp [discoverPass, CartInput.withClaims, CartInput.claims, Directory.planned]
  | entries list =>
      have hprepared : ∀ candidate ∈ (Directory.entries list).planned, candidate.Prepared :=
        fun _ => prepared_of_mem_planned
      exact (claimCandidates_eq input hprepared).2.1

section Claims

variable {input : CartInput} {directory : Directory} {slot : Slot} {candidate : CartInputCandidate}

/-- The earlier of two claims is of the lower slot and not of the worse candidate. -/
theorem claims_pairwise (input : CartInput) (directory : Directory) :
    (input.claims directory).Pairwise fun a b => a.1 < b.1 ∧ a.2.Before b.2 := by
  have hslots := List.pairwise_iff_getElem.mp (emptySlots_pairwise input)
  have hplanned := List.pairwise_iff_getElem.mp (planned_pairwise directory)
  rw [List.pairwise_iff_getElem]
  intro i j hi hj hij
  rw [CartInput.claims, List.length_zip] at hi hj
  simp only [CartInput.claims, List.getElem_zip]
  exact ⟨hslots i j (by omega) (by omega) hij, hplanned i j (by omega) (by omega) hij⟩

theorem mem_claims_iff_lookup :
    (slot, candidate) ∈ input.claims directory ↔
      (input.claims directory).lookup slot = some candidate := by
  have hpairwise := claims_pairwise input directory
  generalize input.claims directory = claimed at hpairwise
  induction claimed with
  | nil => simp
  | cons first rest ih =>
      obtain ⟨slot', candidate'⟩ := first
      rw [List.pairwise_cons] at hpairwise
      by_cases hslot : slot = slot'
      · subst hslot
        rw [List.lookup_cons_self, List.mem_cons, Option.some.injEq]
        constructor
        · rintro (heq | hmem)
          · exact (Prod.mk.inj heq).2.symm
          · exact absurd (hpairwise.1 _ hmem).1 (lt_irrefl _)
        · rintro rfl
          exact .inl rfl
      · simp [List.lookup_cons, beq_false_of_ne hslot, hslot, ih hpairwise.2]

theorem fd_lt_of_mem_claims (h : (slot, candidate) ∈ input.claims directory) :
    (input.source slot).fd < 0 :=
  mem_emptySlots.mp (List.of_mem_zip h).1

theorem prepared_of_mem_claims (h : (slot, candidate) ∈ input.claims directory) :
    candidate.Prepared :=
  prepared_of_mem_planned (List.of_mem_zip h).2

theorem source_of_mem_claims (h : (slot, candidate) ∈ input.claims directory) :
    (input.withClaims (input.claims directory)).source slot = candidate.connected := by
  rw [source_withClaims, mem_claims_iff_lookup.mp h, Option.elim_some]

theorem source_of_lookup_none (h : (input.claims directory).lookup slot = none) :
    (input.withClaims (input.claims directory)).source slot = input.source slot := by
  rw [source_withClaims, h, Option.elim_none]

/-- What a pass leaves in a slot: a claimed candidate where it was empty, or what was there. -/
theorem source_withClaims_cases (input : CartInput) (directory : Directory) (slot : Slot) :
    (∃ candidate, (slot, candidate) ∈ input.claims directory ∧
      (input.withClaims (input.claims directory)).source slot = candidate.connected) ∨
    (input.claims directory).lookup slot = none ∧
      (input.withClaims (input.claims directory)).source slot = input.source slot := by
  rcases hlookup : (input.claims directory).lookup slot with _ | candidate
  · exact .inr ⟨rfl, source_of_lookup_none hlookup⟩
  · have hmem := mem_claims_iff_lookup.mpr hlookup
    exact .inl ⟨candidate, hmem, source_of_mem_claims hmem⟩

end Claims

end VitaLinuxPort
